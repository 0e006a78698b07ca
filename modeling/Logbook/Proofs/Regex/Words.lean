import Logbook.Proofs.Regex.Reading
import Logbook.Regex.CharClass

/-!
# Words of ASCII texts

The conditions of an expression ask which characters make words, and the table of those is long.  In an ASCII text
the few word characters of ASCII are enough: an expression whose conditions go by another set finds the same matches if
the two sets agree on the characters of the text (`ends_withWords`).

## Key results

- `CharSet.containsPoint_decode_of_lt`: nothing lies below the first number of a table
- `Word.contains_eq_asciiSet`: which ASCII characters make words
- `isMatch_withWords` / `replaceAll?_withWords`: in an ASCII text no other words matter
-/

namespace Logbook

namespace CharSet

/-- The ranges start behind the gaps in front of them. -/
theorem le_of_mem_fromGaps {r : Nat × Nat} : (start : Nat) → (ns : List Nat) → r ∈ fromGaps start ns →
    start + ns.headD 0 ≤ r.1
  | _, [], h => by simp [fromGaps] at h
  | _, [_], h => by simp [fromGaps] at h
  | start, gap :: width :: rest, h => by
    simp only [fromGaps, List.mem_cons] at h
    rcases h with rfl | h
    · simp
    · have hrest := le_of_mem_fromGaps _ rest h
      simp only [List.headD_cons]
      omega

/-- Nothing lies below the first number of a table. -/
theorem containsPoint_decode_of_lt {line : String} {lines : List String} {n : Nat}
    (h : n < (numbers line).headD 0) : (decode (line :: lines)).containsPoint n = false := by
  have hfirst : ((line :: lines).flatMap numbers).headD 0 = (numbers line).headD 0 := by
    cases hnumbers : numbers line with
    | nil => simp [hnumbers] at h
    | cons gap rest => simp [hnumbers]
  simp only [containsPoint, decode, List.any_eq_false, Bool.and_eq_true, decide_eq_true_eq, not_and]
  intro r hr hle
  have hstart := le_of_mem_fromGaps 0 _ hr
  omega

end CharSet

namespace Word

/-- The word characters of ASCII. -/
def asciiSet : CharSet := ⟨ascii.ranges ++ [(48, 57)]⟩

/-- No ASCII character is beyond ASCII. -/
theorem containsPoint_beyondAscii {n : Nat} (h : n < 128) : beyondAscii.containsPoint n = false := by
  unfold beyondAscii
  apply CharSet.containsPoint_decode_of_lt
  apply Nat.lt_of_lt_of_le h
  -- only the first line of the table is read
  decide +kernel

/-- The digits among the ASCII characters are the ten. -/
theorem containsPoint_digit : ∀ n < 128, Category.digit.containsPoint n = (CharSet.mk [(48, 57)]).containsPoint n := by
  decide +kernel

/-- Of the ASCII characters, letters, digits and the underscore make words. -/
theorem contains_eq_asciiSet {c : Char} (h : c.toNat < 128) : set.contains c = asciiSet.contains c := by
  have hdigit := containsPoint_digit c.toNat h
  have hbeyond := containsPoint_beyondAscii h
  simp only [CharSet.contains, set, asciiSet, CharSet.containsPoint_append]
  rw [show CharSet.mk Category.digit.ranges = Category.digit from rfl, hdigit,
    show CharSet.mk beyondAscii.ranges = beyondAscii from rfl, hbeyond, Bool.or_false]

end Word

namespace Regex

variable {r : Regex} {t : Subject} {word : CharSet}

/-- The same expression with other words. -/
def withWords (word : CharSet) : Regex → Regex
  | empty => empty
  | set s => set s
  | look l _ => look l word
  | seq a b => seq (a.withWords word) (b.withWords word)
  | alt a b => alt (a.withWords word) (b.withWords word)
  | rep body least most greedy => rep (body.withWords word) least most greedy

/-- A look sees the same if the sets of words agree on the text. -/
theorem holds_congr {word word' : CharSet} (h : ∀ c ∈ t, word.contains c = word'.contains c) (l : Look) (i : Nat) :
    holds l word t i = holds l word' t i := by
  -- a condition asks only about the characters beside a place, and these are in the text
  have hany : ∀ c? : Option Char, (∀ c ∈ c?, c ∈ t) → c?.any word.contains = c?.any word'.contains := by
    intro c? hmem
    cases c? with
    | none => rfl
    | some c => exact h c (hmem c rfl)
  have hbefore := hany (before? t i) fun c hc => by
    unfold before? at hc
    split at hc
    · cases hc
    · exact Array.mem_of_getElem? hc
  have hafter := hany t[i]? fun c hc => Array.mem_of_getElem? hc
  simp only [holds, hbefore, hafter]

/-- Words that agree on the characters of the text lead to the same ends. -/
theorem ends_withWords (h : ∀ l ∈ r.looks, ∀ c ∈ t, word.contains c = l.2.contains c) :
    ends t (r.withWords word) = ends t r := by
  -- by induction on the expression, which has the looks of its parts
  induction r with
  | empty => rfl
  | set s => rfl
  | look l word' =>
    funext i
    simp only [withWords, ends, holds_congr (h (l, word') (by simp [looks])) l i]
  | seq a b iha ihb =>
    funext i
    have ha := iha fun l hl => h l (by simp [looks, hl])
    have hb := ihb fun l hl => h l (by simp [looks, hl])
    simp only [withWords, ends, ha, hb]
  | alt a b iha ihb =>
    funext i
    have ha := iha fun l hl => h l (by simp [looks, hl])
    have hb := ihb fun l hl => h l (by simp [looks, hl])
    simp only [withWords, ends, ha, hb]
  | rep body least most greedy ih =>
    funext i
    simp only [withWords, ends, ih h]

/-- Expressions with the same ends find the same. -/
theorem find?_congr {r' : Regex} (h : ends t r = ends t r') (start : Nat) : r.find? t start = r'.find? t start := by
  have hwithin : ∀ count start, r.findWithin t count start = r'.findWithin t count start := by
    intro count
    induction count with
    | zero => intro start; rfl
    | succ count ih =>
      intro start
      simp only [findWithin, endAt?, h, ih]
  exact hwithin _ start

/-- The matches are the same if the ends are. -/
theorem allMatches_congr {r' : Regex} (h : ends t r = ends t r') : r.allMatches t = r'.allMatches t := by
  have hfrom : ∀ fuel start last, r.matchesFrom t fuel start last = r'.matchesFrom t fuel start last := by
    intro fuel
    induction fuel with
    | zero => intro start last; rfl
    | succ fuel ih =>
      intro start last
      simp only [matchesFrom, find?_congr h, ih]
  exact hfrom _ _ _

/-- All conditions of the expression go by the table of word characters. -/
def GoesByWords (r : Regex) : Prop := ∀ l ∈ r.looks, l.2 = Word.set

/-- On an ASCII text the ASCII words are all that count. -/
theorem ends_asciiWords (hr : r.GoesByWords) (ht : ∀ c ∈ t, c.toNat < 128) :
    ends t (r.withWords Word.asciiSet) = ends t r := by
  apply ends_withWords
  intro l hl c hc
  rw [hr l hl, Word.contains_eq_asciiSet (ht c hc)]

/-- On an ASCII text a match is one with the ASCII words. -/
theorem isMatch_withWords (hr : r.GoesByWords) (ht : ∀ c ∈ t, c.toNat < 128) :
    (r.withWords Word.asciiSet).isMatch t = r.isMatch t := by
  rw [isMatch, isMatch, find?_congr (ends_asciiWords hr ht)]

/-- On an ASCII text a pass is one with the ASCII words. -/
theorem replaceAll?_withWords (hr : r.GoesByWords) {text : List Char} (ht : ∀ c ∈ text, c.toNat < 128)
    (marker : List Char) : (r.withWords Word.asciiSet).replaceAll? marker text = r.replaceAll? marker text := by
  simp only [replaceAll?]
  rw [allMatches_congr (ends_asciiWords hr (by simpa using ht))]

end Regex

end Logbook
