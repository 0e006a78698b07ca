import Logbook.Json.Printer
import Logbook.Json.Reader

/-!
# Numbers in a text

The reader of numbers looks at what follows a number only to see that the number is over.  So a number that is read
from a text of its own is read alike when a comma or a closing bracket follows (`Local`).  For integers reading undoes
writing.  For doubles this is a matter of rounding, and `ReadsBack` says of a double that it
is so.

## Key results

- `local_readNumber`: what follows a number does not change it
- `readValue_renderInt`: integers read back in front of anything that may follow them
- `ReadsAs.readValue`: doubles are read there as they are when nothing follows
-/

namespace Logbook

/-- A step that succeeds is followed by the next. -/
theorem bind_of_ok {ε α β : Type} {x : Except ε α} {a : α} (h : x = .ok a) (next : α → Except ε β) :
    (x >>= next) = next a := by
  rw [h]
  rfl

/-- Two steps succeed if the first does, and the second does on what it gives. -/
theorem exists_of_bind_ok {ε α β : Type} {x : Except ε α} {next : α → Except ε β} {b : β}
    (h : (x >>= next) = .ok b) : ∃ a, x = .ok a ∧ next a = .ok b := by
  cases x with
  | error e => cases h
  | ok a => exact ⟨a, rfl, h⟩

namespace Json

/-- What may come behind a value: nothing, a comma or a closing bracket. -/
def Follows (rest : List Char) : Prop := ∀ c ∈ rest.head?, c = ',' ∨ c = ']' ∨ c = '\x7d'

/-- What follows a value does not go on with it. -/
theorem Follows.ne {rest : List Char} (h : Follows rest) {c : Char} (hc : c ≠ ',' ∧ c ≠ ']' ∧ c ≠ '\x7d') :
    ∀ cs, rest ≠ c :: cs := by
  rintro cs rfl
  rcases h c rfl with h | h | h
  · exact hc.1 h
  · exact hc.2.1 h
  · exact hc.2.2 h

/-! ## Readers that stop by themselves -/

/-- The reader stops by itself: it leaves an end of the text, and what may follow the text is left, too. -/
structure Local {α : Type} (read : Reader α) : Prop where
  suffix : ∀ {cs a out}, read cs = .ok (a, out) → out <:+ cs
  append : ∀ {cs a out}, read cs = .ok (a, out) → ∀ {rest}, Follows rest → read (cs ++ rest) = .ok (a, out ++ rest)

/-- A reader found a value, and another went on from there. -/
theorem bind_eq_ok_iff {α β : Type} {read : Reader α} {next : α → Reader β} {cs : List Char} {b : β}
    {out : List Char} :
    (read cs >>= fun (a, cs) => next a cs) = .ok (b, out) ↔
      ∃ a cs', read cs = .ok (a, cs') ∧ next a cs' = .ok (b, out) := by
  constructor
  · intro h
    obtain ⟨⟨a, cs'⟩, hfound, hnext⟩ := exists_of_bind_ok h
    exact ⟨a, cs', hfound, hnext⟩
  · rintro ⟨a, cs', hfound, hnext⟩
    rw [bind_of_ok hfound]
    exact hnext

/-- Read a value and change it. -/
def Reader.map {α β : Type} (f : α → β) (read : Reader α) : Reader β :=
  fun cs => (read cs).map fun found => (f found.1, found.2)

/-- A reader that is mapped goes on with what is made of its result. -/
theorem Reader.map_eq_bind {α β : Type} (f : α → β) (read : Reader α) (cs : List Char) :
    Reader.map f read cs = read cs >>= fun found => .ok (f found.1, found.2) := by
  rw [Reader.map]
  cases read cs <;> rfl

/-- A reader that is mapped succeeds where it did. -/
theorem Reader.map_eq_ok {α β : Type} {read : Reader α} {cs out : List Char} {a : α} (h : read cs = .ok (a, out))
    (f : α → β) : Reader.map f read cs = .ok (f a, out) := by
  rw [Reader.map, h]
  rfl

namespace Local

variable {α β : Type}

/-- One reader after another. -/
theorem bind {read : Reader α} {next : α → Reader β} (h : Local read) (hnext : ∀ a, Local (next a)) :
    Local fun cs => read cs >>= fun (a, cs) => next a cs := by
  constructor
  · intro cs b out hread
    obtain ⟨a, cs', hfirst, hsecond⟩ := bind_eq_ok_iff.1 hread
    exact ((hnext a).suffix hsecond).trans (h.suffix hfirst)
  · intro cs b out hread rest hrest
    obtain ⟨a, cs', hfirst, hsecond⟩ := bind_eq_ok_iff.1 hread
    exact bind_eq_ok_iff.2 ⟨a, cs' ++ rest, h.append hfirst hrest, (hnext a).append hsecond hrest⟩

/-- A result that does not depend on the text. -/
theorem const (x : Except ReadError α) : Local fun cs => x >>= fun a => .ok (a, cs) := by
  cases x with
  | error e => exact ⟨nofun, nofun⟩
  | ok a =>
    constructor
    · rintro cs _ _ ⟨⟩
      exact List.suffix_refl cs
    · rintro cs _ _ ⟨⟩ rest _
      rfl

/-- A reader that is mapped is local if it was. -/
theorem map {read : Reader α} (h : Local read) (f : α → β) : Local (Reader.map f read) := by
  rw [funext (Reader.map_eq_bind f read)]
  exact h.bind fun a => .const (.ok (f a))

/-- A reader that at certain characters hands what is behind them over to other readers, and reads on by itself
otherwise. -/
theorem of_head {read : Reader α} (handed : List (Char × Reader α)) (other : Reader α)
    (hends : ∀ e ∈ handed, e.1 ≠ ',' ∧ e.1 ≠ ']' ∧ e.1 ≠ '\x7d')
    (hhanded : ∀ e ∈ handed, Local e.2 ∧ ∀ cs, read (e.1 :: cs) = e.2 cs) (hother : Local other)
    (hstay : ∀ cs, (∀ e ∈ handed, cs.head? ≠ some e.1) → read cs = other cs) : Local read := by
  constructor
  · -- by the first character: the reader it is handed to, or the one for all others
    intro cs a out hread
    by_cases hhead : ∃ e ∈ handed, cs.head? = some e.1
    · obtain ⟨e, he, hc⟩ := hhead
      obtain ⟨cs', rfl⟩ := List.head?_eq_some_iff.1 hc
      rw [(hhanded e he).2] at hread
      exact ((hhanded e he).1.suffix hread).trans (List.suffix_cons e.1 cs')
    · rw [hstay cs fun e he hc => hhead ⟨e, he, hc⟩] at hread
      exact hother.suffix hread
  · intro cs a out hread rest hrest
    by_cases hhead : ∃ e ∈ handed, cs.head? = some e.1
    · obtain ⟨e, he, hc⟩ := hhead
      obtain ⟨cs', rfl⟩ := List.head?_eq_some_iff.1 hc
      rw [(hhanded e he).2] at hread
      rw [List.cons_append, (hhanded e he).2]
      exact (hhanded e he).1.append hread hrest
    · -- what follows the text is not handed over either
      have hstill : ∀ e ∈ handed, (cs ++ rest).head? ≠ some e.1 := by
        intro e he hc
        cases cs with
        | nil =>
          obtain ⟨rest', rfl⟩ := List.head?_eq_some_iff.1 hc
          exact hrest.ne (hends e he) rest' rfl
        | cons c cs => exact hhead ⟨e, he, hc⟩
      rw [hstay cs fun e he hc => hhead ⟨e, he, hc⟩] at hread
      rw [hstay _ hstill]
      exact hother.append hread hrest

end Local

/-! ## Digits -/

/-- Digits end where something that may follow starts. -/
theorem takeDigits_append {rest : List Char} (h : Follows rest) (cs : List Char) :
    takeDigits (cs ++ rest) = ((takeDigits cs).1, (takeDigits cs).2 ++ rest) := by
  induction cs with
  | nil =>
    cases rest with
    | nil => rfl
    | cons c rest =>
      -- what may follow is no digit
      have hc : c.isDigit = false := by
        rcases h c rfl with rfl | rfl | rfl <;> rfl
      simp [takeDigits, hc]
  | cons c cs ih =>
    rw [takeDigits, Prod.mk.injEq] at ih
    by_cases hc : c.isDigit = true
    · simp [takeDigits, hc, ih]
    · simp [takeDigits, hc]

/-- Digits are read if there is one. -/
theorem readDigits_eq_ok_iff {cs digits out : List Char} :
    readDigits cs = .ok (digits, out) ↔ takeDigits cs = (digits, out) ∧ digits ≠ [] := by
  rw [readDigits]
  rcases takeDigits cs with ⟨_ | ⟨c, digits'⟩, _ | ⟨c', out'⟩⟩ <;> simp
  all_goals
    rintro rfl
    simp

/-- Reading digits is local. -/
theorem local_readDigits : Local readDigits := by
  constructor
  · intro cs digits out hread
    obtain ⟨htake, -⟩ := readDigits_eq_ok_iff.1 hread
    have hout : (takeDigits cs).2 = out := congrArg Prod.snd htake
    rw [← hout]
    -- what is left is the end of the text behind the digits
    exact List.dropWhile_suffix _
  · intro cs digits out hread rest hrest
    obtain ⟨htake, hne⟩ := readDigits_eq_ok_iff.1 hread
    -- the same digits are taken in front of more text
    rw [readDigits_eq_ok_iff, takeDigits_append hrest, htake]
    exact ⟨rfl, hne⟩

/-- Digits in front of something else are taken, no more and no less. -/
theorem readDigits_of_head {digits rest : List Char} (hdigits : ∀ c ∈ digits, c.isDigit = true) (hne : digits ≠ [])
    (h : ∀ c ∈ rest.head?, c.isDigit = false) : readDigits (digits ++ rest) = .ok (digits, rest) := by
  -- a text that starts with no digit gives none
  have hrest : rest.takeWhile Char.isDigit = [] ∧ rest.dropWhile Char.isDigit = rest := by
    cases rest with
    | nil => exact ⟨rfl, rfl⟩
    | cons c rest => simp [h c rfl]
  rw [readDigits_eq_ok_iff, takeDigits, List.takeWhile_append_of_pos hdigits, List.dropWhile_append_of_pos hdigits,
    hrest.1, hrest.2, List.append_nil]
  exact ⟨rfl, hne⟩

/-- What may follow a value is no digit. -/
theorem readDigits_append {digits rest : List Char} (hdigits : ∀ c ∈ digits, c.isDigit = true) (hne : digits ≠ [])
    (h : Follows rest) : readDigits (digits ++ rest) = .ok (digits, rest) := by
  refine readDigits_of_head hdigits hne fun c hc => ?_
  rcases h c hc with rfl | rfl | rfl <;> rfl

/-! ## The parts of a number -/

/-- Reading a power of ten is local. -/
theorem local_readPower (negative : Bool) (d : Digits) (down : Bool) : Local (readPower negative d down) := by
  have h := local_readDigits.bind fun digits => .const (scalePower negative d down digits)
  exact h

/-- Reading an exponent is local. -/
theorem local_readExponent (negative : Bool) (d : Digits) : Local (readExponent negative d) := by
  refine .of_head [('+', readPower negative d false), ('-', readPower negative d true)] (readPower negative d false)
    ?_ ?_ (local_readPower ..) fun cs hstay => ?_
  · simp
  · simp [local_readPower, readExponent]
  · cases cs with
    | nil => rfl
    -- no sign is left, so the digits are read at once
    | cons c cs =>
      simp at hstay
      rw [readExponent] <;> simp [hstay]

/-- Reading what is behind the point is local. -/
theorem local_readTail (negative : Bool) (d : Digits) : Local (readTail negative d) := by
  refine .of_head [('e', readExponent negative d), ('E', readExponent negative d)] _
    ?_ ?_ (.const (scaleDigits negative d)) fun cs hstay => ?_
  · simp
  · simp [local_readExponent, readTail]
  · cases cs with
    | nil => rfl
    | cons c cs =>
      -- there is no exponent
      simp at hstay
      rw [readTail] <;> simp [hstay]

/-- Reading a fraction is local. -/
theorem local_readFraction (negative : Bool) (d : Digits) : Local (readFraction negative d) := by
  have h := local_readDigits.bind fun digits => local_readTail negative
    ⟨(extendSignificand d.significand digits).1,
      d.exponent - (digits.length - (extendSignificand d.significand digits).2.length : Nat)⟩
  exact h

/-- Reading what is behind the whole digits is local. -/
theorem local_readPoint (negative : Bool) (digits : List Char) : Local (readPoint negative digits) := by
  -- named as the reader names them, so that its cases can be recognized
  let n := (extendSignificand 0 digits).1
  let spare := (extendSignificand 0 digits).2
  let d : Digits := ⟨n, spare.length⟩
  let plain : Reader Number := fun cs =>
    if spare ≠ [] then Reader.map .real (readTail negative d) cs else .ok (wholeNumber negative n, cs)
  have hplain : Local plain := by
    by_cases hspare : spare ≠ []
    · simp only [plain, if_pos hspare]
      exact (local_readTail negative d).map Number.real
    · simp only [plain, if_neg hspare]
      exact .const (.ok (wholeNumber negative n))
  have hfraction : Local (Reader.map Number.real (readFraction negative d)) := (local_readFraction negative d).map _
  have hexponent : Local (Reader.map Number.real (readExponent negative d)) := (local_readExponent negative d).map _
  refine .of_head [('.', Reader.map .real (readFraction negative d)),
    ('e', Reader.map .real (readExponent negative d)), ('E', Reader.map .real (readExponent negative d))]
    plain ?_ ?_ hplain fun cs hstay => ?_
  · simp
  · simp only [List.forall_mem_cons, List.not_mem_nil, false_imp_iff, implies_true, and_true]
    exact ⟨⟨hfraction, fun _ => rfl⟩, ⟨hexponent, fun _ => rfl⟩, ⟨hexponent, fun _ => rfl⟩⟩
  · cases cs with
    | nil => rfl
    -- neither a point nor an exponent
    | cons c cs =>
      simp at hstay
      simp only [readPoint]
      split <;> simp_all [plain, n, spare, d, Reader.map]

/-- Reading a number is local. -/
theorem local_readNumber (negative : Bool) : Local (readNumber negative) := by
  have hpoint : ∀ digits, Local fun cs =>
      if hasLeadingZero digits then .error .malformed else readPoint negative digits cs := by
    intro digits
    split
    · exact .const (.error .malformed)
    · exact local_readPoint negative digits
  exact local_readDigits.bind hpoint

/-! ## Integers -/

/-- Digits only make a number larger. -/
theorem le_ofDigitChars (cs : List Char) (n : Nat) : n ≤ Nat.ofDigitChars 10 cs n := by
  induction cs generalizing n with
  | nil => exact Nat.le_refl n
  | cons c cs ih =>
    rw [Nat.ofDigitChars_cons]
    have := ih (10 * n + (c.toNat - '0'.toNat))
    omega

/-- As long as the number is in range all its digits are kept. -/
theorem extendSignificand_eq {cs : List Char} {n : Nat} (h : Nat.ofDigitChars 10 cs n ≤ maxSignificand) :
    extendSignificand n cs = (Nat.ofDigitChars 10 cs n, []) := by
  -- by induction on the digits, with the number that those in front of them make
  induction cs generalizing n with
  | nil => rfl
  | cons c cs ih =>
    have hstep : 10 * n + (c.toNat - '0'.toNat) = n * 10 + (c.toNat - 48) := by
      rw [Nat.mul_comm]
      rfl
    rw [Nat.ofDigitChars_cons, hstep] at h ⊢
    -- the whole number is in range, so the one that the first digits make is
    have hle := le_ofDigitChars cs (n * 10 + (c.toNat - 48))
    rw [extendSignificand, if_neg (by omega), ih h]

/-- Numbers are printed with digits. -/
theorem isDigit_of_mem_toDigits {n : Nat} : ∀ c ∈ Nat.toDigits 10 n, c.isDigit = true :=
  fun _ => Nat.isDigit_of_mem_toDigits (by decide) (by decide)

/-- Only zero is written with a zero in front. -/
theorem hasLeadingZero_toDigits (n : Nat) : hasLeadingZero (Nat.toDigits 10 n) = false := by
  -- only zero starts with a zero, and has no other digits
  have hzero : ∀ n cs, Nat.toDigits 10 n = '0' :: cs → cs = [] := by
    intro n
    induction n using Nat.strongRecOn with
    | ind n ih =>
      intro cs h
      rw [Nat.toDigits_eq_if (by decide)] at h
      split at h
      next => exact (List.cons.inj h).2.symm
      next hn =>
        -- the digits in front of the last would be those of zero, but the number they stand for is not
        obtain ⟨c, front, hfront⟩ := List.exists_cons_of_ne_nil (Nat.toDigits_ne_nil (n := n / 10) (b := 10))
        rw [hfront, List.cons_append, List.cons.injEq] at h
        rw [h.1] at hfront
        have hvalue := Nat.ofDigitChars_ten_toDigits (n := n / 10)
        rw [hfront, ih (n / 10) (by omega) front hfront] at hvalue
        have hten : Nat.ofDigitChars 10 ['0'] 0 = 0 := rfl
        omega
  unfold hasLeadingZero
  split
  next c cs h => exact absurd (hzero n _ h) (List.cons_ne_nil _ _)
  next => rfl

/-- The digits of a number in range are read as that number. -/
theorem readNumber_toDigits (negative : Bool) {n : Nat} (hn : n ≤ maxSignificand) {rest : List Char}
    (h : Follows rest) :
    readNumber negative (Nat.toDigits 10 n ++ rest) = .ok (wholeNumber negative n, rest) := by
  have hextend : extendSignificand 0 (Nat.toDigits 10 n) = (n, []) := by
    rw [extendSignificand_eq (by rwa [Nat.ofDigitChars_ten_toDigits]), Nat.ofDigitChars_ten_toDigits]
  -- nothing that may follow the digits goes on with the number
  have hpoint := h.ne (c := '.') (by decide)
  have he := h.ne (c := 'e') (by decide)
  have hE := h.ne (c := 'E') (by decide)
  rw [readNumber, bind_of_ok (readDigits_append isDigit_of_mem_toDigits Nat.toDigits_ne_nil h)]
  show (if hasLeadingZero (Nat.toDigits 10 n) then Except.error ReadError.malformed
    else readPoint negative (Nat.toDigits 10 n) rest) = _
  rw [hasLeadingZero_toDigits, if_neg Bool.false_ne_true, readPoint, hextend]
  simp

/-! ## Doubles -/

/-- The double reads back from its own text.  Reading rounds more than once, so not every double does. -/
def ReadsBack (x : Binary64) : Prop := parse (render (.number (.real x))) = .ok (.number (.real x))

/-- One half reads back. -/
theorem readsBack_half : ReadsBack ⟨0x3FE0000000000000⟩ := by
  rw [ReadsBack]
  rfl

/-- The text of a double is read as another double, or the same. -/
def ReadsAs (x y : Binary64) : Prop := parse (render (.number (.real x))) = .ok (.number (.real y))

/-- The characters of a double: digits, points, exponent marks and signs. -/
def isNumeral (c : Char) : Bool := c.isDigit || ['.', 'e', '+', '-'].contains c

/-- No character of a numeral is blank. -/
theorem isBlank_of_isNumeral {c : Char} (h : isNumeral c = true) : isBlank c = false := by
  rw [Bool.eq_false_iff]
  intro hblank
  have hblanks : c = ' ' ∨ c = '\n' ∨ c = '\t' ∨ c = '\r' := by
    simpa [isBlank, or_assoc] using hblank
  rcases hblanks with rfl | rfl | rfl | rfl <;> revert h <;> decide

/-- A text that begins with a digit and has only numerals. -/
structure IsUnsigned (cs : List Char) : Prop where
  head : ∃ c rest, cs = c :: rest ∧ c.isDigit = true
  all : ∀ c ∈ cs, isNumeral c = true

namespace IsUnsigned

/-- Digits are a numeral without a sign. -/
theorem of_digits {digits : List Char} (hne : digits ≠ []) (h : ∀ c ∈ digits, c.isDigit = true) :
    IsUnsigned digits := by
  obtain ⟨c, rest, rfl⟩ := List.exists_cons_of_ne_nil hne
  exact ⟨⟨c, rest, rfl, h c List.mem_cons_self⟩, fun c hc => by simp [isNumeral, h c hc]⟩

/-- A numeral that goes on with more of its characters is one. -/
theorem append {cs rest : List Char} (h : IsUnsigned cs) (hrest : ∀ c ∈ rest, isNumeral c = true) :
    IsUnsigned (cs ++ rest) := by
  obtain ⟨c, cs', rfl, hc⟩ := h.head
  refine ⟨⟨c, cs' ++ rest, rfl, hc⟩, fun d hd => ?_⟩
  exact (List.mem_append.1 hd).elim (h.all d) (hrest d)

end IsUnsigned

/-- A number with its digits in place is a numeral without a sign. -/
theorem isUnsigned_positional {digits : List Char} (hne : digits ≠ []) (h : ∀ c ∈ digits, c.isDigit = true)
    (exponent : Int) : IsUnsigned (Decimal.positional digits exponent) := by
  have hnumeral : ∀ c ∈ digits, isNumeral c = true := (IsUnsigned.of_digits hne h).all
  have hzeros : ∀ n, ∀ c ∈ List.replicate n '0', isNumeral c = true := by
    intro n c hc
    rw [List.eq_of_mem_replicate hc]
    rfl
  rw [Decimal.positional]
  split
  · -- a zero in front of the point, and more behind it
    have hpoint : IsUnsigned ['0', '.'] := ⟨⟨'0', ['.'], rfl, rfl⟩, List.all_eq_true.1 rfl⟩
    exact (hpoint.append (hzeros _)).append hnumeral
  · split
    · -- an integer with zeros at its end
      exact .append (.append (.of_digits hne h) (hzeros _)) (List.all_eq_true.1 rfl)
    · -- the point is among the digits, but not in front of them
      next hfront _ =>
      have htake : digits.take ((digits.length : Int) + exponent).toNat ≠ [] := by
        rw [ne_eq, List.take_eq_nil_iff]
        rintro (hzero | hnil)
        · omega
        · exact hne hnil
      refine .append (.of_digits htake fun c hc => h c (List.mem_of_mem_take hc)) fun c hc => ?_
      rcases List.mem_cons.1 hc with rfl | hc
      · rfl
      · exact hnumeral c (List.mem_of_mem_drop hc)

/-- A number with an exponent is a numeral without a sign. -/
theorem isUnsigned_exponential (style : Decimal.Style) {digits : List Char} (hne : digits ≠ [])
    (h : ∀ c ∈ digits, c.isDigit = true) (exponent : Int) :
    IsUnsigned (Decimal.exponential style digits exponent) := by
  have hnumeral : ∀ c ∈ digits, isNumeral c = true := (IsUnsigned.of_digits hne h).all
  -- the first digit stands alone, and all that follows may stand in a numeral
  have hfirst : IsUnsigned (digits.take 1) := by
    refine .of_digits (fun hnil => ?_) fun c hc => h c (List.mem_of_mem_take hc)
    exact (List.take_eq_nil_iff.1 hnil).elim (by decide) hne
  have hpower : ∀ c ∈ Decimal.digitList ((digits.length : Int) + exponent - 1).natAbs, isNumeral c = true :=
    (IsUnsigned.of_digits Nat.toDigits_ne_nil isDigit_of_mem_toDigits).all
  rw [Decimal.exponential]
  refine .append (.append (.append hfirst ?_) ?_) hpower
  · -- the point is there only with digits behind it
    intro c hc
    split at hc
    next => cases hc
    next =>
      rcases List.mem_cons.1 hc with rfl | hc
      · rfl
      · exact hnumeral c (List.mem_of_mem_drop hc)
  · split
    · exact List.all_eq_true.1 rfl
    · split <;> exact List.all_eq_true.1 rfl

/-- The text of a finite double, but for its sign. -/
def unsignedText (style : Decimal.Style) (x : Binary64) : List Char :=
  let s := Decimal.shortest x
  let top := ((Decimal.digitList s.digits).length : Int) + s.exponent - 1
  if x.isZero then ['0', '.', '0']
  else if style.lowExponent ≤ top ∧ top < style.highExponent then
    Decimal.positional (Decimal.digitList s.digits) s.exponent
  else Decimal.exponential style (Decimal.digitList s.digits) s.exponent

/-- A double is written as its magnitude, with a sign in front. -/
theorem write_eq (style : Decimal.Style) (x : Binary64) :
    Decimal.write style x = if x.isNegative then '-' :: unsignedText style x else unsignedText style x := rfl

/-- The magnitude of a double is written as a numeral without a sign. -/
theorem isUnsigned_unsignedText (style : Decimal.Style) (x : Binary64) : IsUnsigned (unsignedText style x) := by
  rw [unsignedText]
  split
  · exact ⟨⟨'0', ['.', '0'], rfl, rfl⟩, List.all_eq_true.1 rfl⟩
  · have hdigits : Decimal.digitList (Decimal.shortest x).digits ≠ [] := Nat.toDigits_ne_nil
    split
    · exact isUnsigned_positional hdigits isDigit_of_mem_toDigits _
    · exact isUnsigned_exponential style hdigits isDigit_of_mem_toDigits _

/-! ## Numbers as values -/

/-- What is not blank is not skipped. -/
theorem skipBlanks_cons {c : Char} (hc : isBlank c = false) (cs : List Char) : skipBlanks (c :: cs) = c :: cs := by
  simp [skipBlanks, hc]

/-- A minus starts a number. -/
theorem readValue_minus (fuel depth : Nat) (cs : List Char) :
    readValue (fuel + 1) depth ('-' :: cs) = Reader.map number (readNumber true) cs := by
  rw [readValue, skipBlanks_cons rfl, Reader.map_eq_bind]
  rfl

/-- A digit starts a number. -/
theorem readValue_digit (fuel depth : Nat) {c : Char} (hc : c.isDigit = true) (cs : List Char) :
    readValue (fuel + 1) depth (c :: cs) = Reader.map number (readNumber false) (c :: cs) := by
  rw [readValue, skipBlanks_cons (isBlank_of_isNumeral (by simp [isNumeral, hc])), Reader.map_eq_bind]
  -- no digit is the first character of anything else
  split
  case h_9 heq =>
    cases heq
    rw [if_pos hc]
  all_goals
    next heq =>
      cases heq
      try exact absurd hc (by decide)

/-- A text with a digit in front, perhaps behind a sign, is read as a number. -/
theorem readValue_signed (fuel depth : Nat) (negative : Bool) {body : List Char}
    (hbody : ∃ c cs, body = c :: cs ∧ c.isDigit = true) :
    readValue (fuel + 1) depth (if negative then '-' :: body else body)
      = Reader.map number (readNumber negative) body := by
  obtain ⟨c, cs, rfl, hc⟩ := hbody
  cases negative with
  | true => exact readValue_minus fuel depth (c :: cs)
  | false => exact readValue_digit fuel depth hc cs

/-- A text is read to the end if only blanks are left. -/
theorem finish_eq_ok_iff {α : Type} {read : Except ReadError (α × List Char)} {a : α} :
    finish read = .ok a ↔ ∃ out, read = .ok (a, out) ∧ skipBlanks out = [] := by
  cases read with
  | error e => simp [finish, bind, Except.bind]
  | ok found =>
    obtain ⟨b, out⟩ := found
    have hfinish : finish (.ok (b, out)) = if skipBlanks out = [] then .ok b else .error .malformed := by
      -- that nothing is left is tested by the shape of the rest
      rw [finish, bind_of_ok rfl]
      simp only
      cases skipBlanks out <;> rfl
    rw [hfinish]
    constructor
    · intro h
      split at h
      next hout =>
        cases h
        exact ⟨out, rfl, hout⟩
      next => cases h
    · rintro ⟨out', hread, hout⟩
      cases hread
      rw [if_pos hout]

/-- What is printed is read with enough steps. -/
theorem parse_render (j : Json) :
    parse j.render = finish (readValue (fuelFor j.renderList) (depthLimit - 1) j.renderList) := by
  rw [parse, render, String.toList_ofList, parseList]

/-- A finite double is written as a numeral. -/
theorem renderNumber_of_isFinite {x : Binary64} (h : x.isFinite = true) :
    renderNumber (.real x)
      = if x.isNegative then '-' :: unsignedText numberStyle x else unsignedText numberStyle x := by
  rw [renderNumber, h, if_pos rfl, write_eq]

/-- It is enough that the text without its sign is read, with nothing left over. -/
theorem ReadsAs.of_readNumber {x y : Binary64} (hfinite : x.isFinite = true)
    (h : Json.readNumber x.isNegative (unsignedText numberStyle x) = .ok (.real y, [])) : ReadsAs x y := by
  have hlist : renderList (.number (.real x)) = renderNumber (.real x) := List.append_nil _
  rw [ReadsAs, parse_render, finish_eq_ok_iff, hlist, renderNumber_of_isFinite hfinite, fuelFor,
    readValue_signed _ _ _ (isUnsigned_unsignedText numberStyle x).head]
  exact ⟨[], Reader.map_eq_ok h number, rfl⟩

/-- A double that is read as one is read alone, with nothing left over. -/
theorem ReadsAs.readNumber {x y : Binary64} (h : ReadsAs x y) :
    ∃ body, IsUnsigned body ∧ renderNumber (.real x) = (if x.isNegative then '-' :: body else body) ∧
      Json.readNumber x.isNegative body = .ok (.real y, []) := by
  rw [ReadsAs, parse_render, finish_eq_ok_iff] at h
  obtain ⟨out, hread, hout⟩ := h
  have hlist : renderList (.number (.real x)) = renderNumber (.real x) := List.append_nil _
  rw [hlist] at hread
  cases hfinite : x.isFinite with
  | false =>
    -- what is no number is written as null, and read as that
    have hnull : renderNumber (.real x) = ['n', 'u', 'l', 'l'] := by
      rw [renderNumber, hfinite]
      rfl
    rw [hnull] at hread
    cases hread
  | true =>
    have hbody := isUnsigned_unsignedText numberStyle x
    have hrender := renderNumber_of_isFinite hfinite
    generalize unsignedText numberStyle x = body at hbody hrender
    rw [hrender, fuelFor, readValue_signed _ _ _ hbody.head] at hread
    -- the reader of numbers did not fail, and found the double
    cases hnumber : Json.readNumber x.isNegative body with
    | error e =>
      rw [Reader.map, hnumber] at hread
      cases hread
    | ok found =>
      obtain ⟨n, out'⟩ := found
      rw [Reader.map_eq_ok hnumber] at hread
      cases hread
      -- nothing is left, for no numeral is a blank
      have hnil : out = [] := by
        cases out with
        | nil => rfl
        | cons c cs =>
          have hc : c ∈ body := ((local_readNumber _).suffix hnumber).subset List.mem_cons_self
          rw [skipBlanks_cons (isBlank_of_isNumeral (hbody.all c hc))] at hout
          cases hout
      exact ⟨body, hbody, hrender, by rw [hnumber, hnil]⟩

/-- A double is read alike in front of anything that may follow it. -/
theorem ReadsAs.readValue {x y : Binary64} (h : ReadsAs x y) (fuel depth : Nat) {rest : List Char}
    (hrest : Follows rest) :
    Json.readValue (fuel + 1) depth (renderNumber (.real x) ++ rest) = .ok (.number (.real y), rest) := by
  obtain ⟨body, hbody, hrender, hread⟩ := h.readNumber
  have hfront : renderNumber (.real x) ++ rest
      = if x.isNegative then '-' :: (body ++ rest) else body ++ rest := by
    rw [hrender]
    split <;> rfl
  -- the sign is gone, so there is a digit
  have hhead : ∃ c cs, body ++ rest = c :: cs ∧ c.isDigit = true := by
    obtain ⟨c, cs, rfl, hc⟩ := hbody.head
    exact ⟨c, cs ++ rest, rfl, hc⟩
  rw [hfront, readValue_signed fuel depth _ hhead, Reader.map_eq_ok ((local_readNumber _).append hread hrest)]
  rfl

/-- An integer that a signed or an unsigned word holds reads back in front of anything that may follow it. -/
theorem readValue_renderInt {i : Int} (hlow : -0x8000000000000000 ≤ i) (hhigh : i ≤ 0xffffffffffffffff)
    (fuel depth : Nat) {rest : List Char} (hrest : Follows rest) :
    readValue (fuel + 1) depth (renderInt i ++ rest) = .ok (.whole i, rest) := by
  -- a number is printed with at least one digit
  have hhead : ∀ n, ∃ c cs, Nat.toDigits 10 n ++ rest = c :: cs ∧ c.isDigit = true := by
    intro n
    obtain ⟨c, cs, hdigits⟩ := List.exists_cons_of_ne_nil (Nat.toDigits_ne_nil (n := n) (b := 10))
    exact ⟨c, cs ++ rest, by rw [hdigits]; rfl, isDigit_of_mem_toDigits c (by rw [hdigits]; exact List.mem_cons_self)⟩
  cases i with
  | ofNat n =>
    have hn : n ≤ maxSignificand := by
      have : (n : Int) ≤ 0xffffffffffffffff := hhigh
      unfold maxSignificand
      omega
    have h := readValue_signed fuel depth false (hhead n)
    rw [Reader.map_eq_ok (readNumber_toDigits false hn hrest)] at h
    exact h
  -- a negative integer that fits a word stays an integer
  | negSucc n =>
    have hn : n + 1 ≤ 0x8000000000000000 := by
      rw [Int.negSucc_eq] at hlow
      omega
    have hwhole : wholeNumber true (n + 1) = .whole (Int.negSucc n) := by
      rw [wholeNumber, if_neg (by decide), if_neg (by omega)]
      rfl
    have h := readValue_signed fuel depth true (hhead (n + 1))
    rw [Reader.map_eq_ok (readNumber_toDigits true (by unfold maxSignificand; omega) hrest), hwhole] at h
    exact h

end Json

end Logbook
