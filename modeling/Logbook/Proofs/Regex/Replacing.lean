import Logbook.Proofs.Regex.Sweep

/-!
# Replacing the matches of any expression

`Regex.Replaced r marker behind pre text out` describes one pass through a text behind `pre` place by place, for any
expression: one that reads empty texts, too.  From a place where something is read the preferred match is replaced by
the marker, and the pass goes on behind it; the characters from which no match is taken stay.  Where a match has just
ended, an empty one does not count: without that rule a pass would not go on behind an empty match.

The relation leaves no choice, so it says all about a pass.  `Regex.Sweep` is what is left of it if the expression
reads no empty text.

## Key results

- `Replaced.unique`: a pass has one result only
- `replaced_iff`: replacing all matches is this pass, and never ends before the text does
- `sweep_of_replaceAll?`: it is a sweep, if the expression reads no empty text
-/

namespace Logbook.Regex

variable {r : Regex} {t : Subject} {marker pre rest : List Char} {behind : Bool}

/-- No match is taken from the place between two texts: nothing is read there, or a match has just ended there and
another one would be empty. -/
def Idle (r : Regex) (behind : Bool) (pre text : List Char) : Prop :=
  r.Misses pre.getLast? text ∨ behind = true ∧ r.Prefers pre [] text

/-- One pass through a text behind `pre`, place by place, whatever the expression reads; `behind` says that a match has
just ended. -/
inductive Replaced (r : Regex) (marker : List Char) : (behind : Bool) → List Char → List Char → List Char → Prop where
  | done {behind : Bool} {pre : List Char} (h : r.Idle behind pre []) : Replaced r marker behind pre [] []
  | keep {behind : Bool} {c : Char} {pre rest out : List Char} (hidle : r.Idle behind pre (c :: rest))
      (h : Replaced r marker false (pre ++ [c]) rest out) : Replaced r marker behind pre (c :: rest) (c :: out)
  | next {behind : Bool} {pre m rest out : List Char} (hm : r.Prefers pre m rest) (hnew : behind = true → m ≠ [])
      (h : Replaced r marker true (pre ++ m) rest out) : Replaced r marker behind pre (m ++ rest) (marker ++ out)

/-! ## One result only -/

/-- Only one text is preferred at a place. -/
theorem Prefers.unique {m m' post post' : List Char} (h : r.Prefers pre m post) (h' : r.Prefers pre m' post')
    (hsplit : m ++ post = m' ++ post') : m = m' ∧ post = post' := by
  rw [Prefers, List.append_assoc, hsplit, ← List.append_assoc, h'] at h
  have hlen := Option.some.inj h
  simp only [List.length_append] at hlen
  exact List.append_inj hsplit (by omega)

/-- From an idle place no match is taken. -/
theorem Prefers.not_idle {m : List Char} (hm : r.Prefers pre m rest) (hnew : behind = true → m ≠ []) :
    ¬ r.Idle behind pre (m ++ rest) := by
  rintro (hmiss | ⟨hbehind, hempty⟩)
  · exact hmiss m rest rfl hm.reads
  · exact hnew hbehind (hm.unique hempty rfl).1

/-- A pass has one result only. -/
theorem Replaced.unique {text out out' : List Char} (h : r.Replaced marker behind pre text out)
    (h' : r.Replaced marker behind pre text out') : out = out' := by
  -- by induction on the first derivation: at each place only one rule applies to both
  induction h generalizing out' with
  | done hidle =>
    generalize htext : [] = text at h'
    cases h' with
    | done _ => rfl
    | keep _ _ => cases htext
    -- a match cannot start where nothing does
    | next hm hnew _ => exact absurd (htext ▸ hidle) (hm.not_idle hnew)
  | keep hidle _ ih =>
    generalize htext : _ :: _ = text at h'
    cases h' with
    | done _ => cases htext
    | keep _ h' =>
      obtain ⟨rfl, rfl⟩ := List.cons.inj htext
      rw [ih h']
    | next hm hnew _ => exact absurd (htext ▸ hidle) (hm.not_idle hnew)
  | @next _ _ m rest _ hm hnew _ ih =>
    generalize htext : m ++ rest = text at h'
    cases h' with
    | done hidle => exact absurd (htext ▸ hidle) (hm.not_idle hnew)
    | keep hidle _ => exact absurd (htext ▸ hidle) (hm.not_idle hnew)
    -- two matches at one place are the same
    | next hm' _ h' =>
      obtain ⟨rfl, rfl⟩ := hm.unique hm' htext
      rw [ih h']

/-! ## What stays -/

/-- What stands in front of a match stays as it is. -/
theorem Replaced.of_clear {gap post out : List Char} (hgap : r.Clear pre gap post)
    (h : r.Replaced marker (behind && gap.isEmpty) (pre ++ gap) post out) :
    r.Replaced marker behind pre (gap ++ post) (gap ++ out) := by
  induction gap generalizing pre behind with
  | nil => simpa using h
  | cons c gap ih =>
    have hfirst : r.Misses pre.getLast? (c :: (gap ++ post)) := by
      simpa using hgap [] (c :: gap) rfl (List.cons_ne_nil _ _)
    refine .keep (.inl hfirst) (ih (fun front back hsplit hne => ?_) (by simpa using h))
    rw [List.append_assoc, List.singleton_append]
    exact hgap (c :: front) back (by rw [hsplit, List.cons_append]) hne

/-- A text without a match stays as it is. -/
theorem Replaced.of_noMatch {text : List Char} (h : r.NoMatch pre text) : r.Replaced marker behind pre text text := by
  have hclear : r.Clear pre text [] := by
    intro front back hsplit _
    rw [List.append_nil]
    exact h front back hsplit
  have hend : r.Misses (pre ++ text).getLast? [] := h text [] (List.append_nil text).symm
  simpa using Replaced.of_clear hclear (.done (.inl hend))

/-- A pass of an expression that reads no empty text. -/
theorem Replaced.sweep (hne : ∀ before after, ¬ r.Reads before [] after) {text out : List Char}
    (h : r.Replaced marker behind pre text out) : Sweep r marker pre text out := by
  -- an idle place is one where nothing is read
  have hmisses : ∀ {behind pre text}, r.Idle behind pre text → r.Misses pre.getLast? text := by
    rintro behind pre text (hmiss | ⟨-, hempty⟩)
    · exact hmiss
    · exact absurd hempty.reads (hne _ _)
  induction h with
  | done hidle => exact .done (noMatch_nil (hmisses hidle))
  | @keep _ c pre _ _ hidle _ ih =>
    cases ih with
    | done hnone => exact .done (noMatch_cons (hmisses hidle) hnone)
    | @next _ gap m _ out hgap hm h =>
      have hpre : pre ++ [c] ++ gap = pre ++ c :: gap := by simp
      rw [hpre] at hm h
      have hfirst := hmisses hidle
      rw [List.append_assoc] at hfirst
      exact .next (clear_cons hfirst hgap) hm h
  | @next _ pre _ _ _ hm _ _ ih =>
    rw [← List.append_nil pre] at hm ih
    exact .next (clear_nil _ _ _) hm ih

/-! ## Cutting out the matches found -/

/-- The part between two places is what was cut. -/
theorem extract_of_cut {gap : List Char} (hcut : t.toList = pre ++ gap ++ rest) :
    (t.extract pre.length (pre ++ gap).length).toList = gap := by
  rw [Array.toList_extract, hcut]
  simp

/-- The part behind a place is what was cut. -/
theorem extract_rest_of_cut (hcut : t.toList = pre ++ rest) : (t.extract pre.length t.size).toList = rest := by
  rw [Array.toList_extract, hcut, size_of_cut hcut]
  simp

/-- A character in front of the first match stays. -/
theorem substitute_cons {c : Char} {found : List (Nat × Nat)} (hcut : t.toList = pre ++ c :: rest)
    (hfound : ∀ i j more, found = (i, j) :: more → pre.length < i) :
    substitute t marker pre.length found = c :: substitute t marker (pre ++ [c]).length found := by
  have hcut' : t.toList = (pre ++ [c]) ++ rest := by rw [hcut]; simp
  cases found with
  -- nothing is found, so all that is left is kept
  | nil => rw [substitute, substitute, extract_rest_of_cut hcut, extract_rest_of_cut hcut']
  | cons ij more =>
    obtain ⟨i, j⟩ := ij
    have hi := hfound i j more rfl
    have hextract : (t.extract pre.length i).toList = c :: (t.extract (pre ++ [c]).length i).toList := by
      obtain ⟨k, rfl⟩ := Nat.exists_eq_add_of_lt hi
      -- the next match is further on, and the part before it has the character in front
      simp [Array.toList_extract, hcut, Nat.add_assoc]
      omega
    rw [substitute, substitute, hextract, List.cons_append, List.cons_append]

/-- A match that is found and counts is replaced, and the pass goes on behind it. -/
theorem replaced_of_find? {i j : Nat} {found : List (Nat × Nat)} (hcut : t.toList = pre ++ rest)
    (hfind : r.find? t pre.length = some (i, j)) (hnew : behind = true → ¬ (i = pre.length ∧ j = pre.length))
    (hrest : ∀ {pre' rest' : List Char}, t.toList = pre' ++ rest' → j = pre'.length →
      rest'.length + behind.toNat ≤ rest.length →
      r.Replaced marker true pre' rest' (substitute t marker pre'.length found)) :
    r.Replaced marker behind pre rest (substitute t marker pre.length ((i, j) :: found)) := by
  obtain ⟨gap, m, post, rfl, rfl, rfl, hclear, hm⟩ := exists_of_find? hcut hfind
  have hcut' : t.toList = (pre ++ gap) ++ (m ++ post) := by rw [hcut]; simp
  rw [substitute, extract_of_cut hcut', List.append_assoc, List.append_assoc]
  -- if a match has just ended, something lies between its end and that of this one
  have hlong : behind = true → 0 < gap.length + m.length := by
    intro hbehind
    have := hnew hbehind
    simp only [List.length_append] at this
    omega
  refine .of_clear hclear (.next hm (fun hgap => ?_) (hrest (by rw [hcut]; simp) rfl ?_))
  · rw [Bool.and_eq_true, List.isEmpty_iff] at hgap
    have := hlong hgap.1
    rw [hgap.2, List.length_nil, Nat.zero_add] at this
    exact List.length_pos_iff.1 this
  · simp only [List.length_append]
    cases behind with
    | false => simp
    | true =>
      have := hlong rfl
      simp only [Bool.toNat_true]
      omega

/-- Where a match has just ended and another one would be empty, the pass goes one character further. -/
theorem replaced_of_empty {fuel : Nat} (hcut : t.toList = pre ++ rest) (hempty : r.Prefers pre [] rest)
    (hrest : ∀ {pre' rest' : List Char} {j : Nat}, t.toList = pre' ++ rest' → j = pre'.length →
      rest'.length < rest.length →
      r.Replaced marker true pre' rest' (substitute t marker pre'.length (r.matchesFrom t fuel j (some j)))) :
    r.Replaced marker true pre rest
      (substitute t marker pre.length
        (match r.find? t (pre.length + 1) with
        | none => []
        | some (k, l) => (k, l) :: r.matchesFrom t fuel l (some l))) := by
  cases rest with
  -- at the end there is no room for a match
  | nil =>
    have hnone : r.find? t (pre.length + 1) = none := by
      rw [find?, size_of_cut hcut]
      simp [findWithin]
    rw [hnone, substitute, extract_rest_of_cut hcut]
    exact .done (.inr ⟨rfl, hempty⟩)
  | cons c rest =>
    have hcut' : t.toList = (pre ++ [c]) ++ rest := by rw [hcut]; simp
    have hstart : pre.length + 1 = (pre ++ [c]).length := by simp
    rw [hstart]
    cases hfind : r.find? t (pre ++ [c]).length with
    -- nothing more is found behind the empty match
    | none =>
      rw [substitute_cons hcut (by simp), substitute, extract_rest_of_cut hcut']
      exact .keep (.inr ⟨rfl, hempty⟩) (.of_noMatch (noMatch_of_find? hcut' hfind))
    | some found =>
      obtain ⟨k, l⟩ := found
      have hk : pre.length < k := by
        obtain ⟨gap, _, _, _, hk, _⟩ := exists_of_find? hcut' hfind
        simp only [List.length_append, List.length_singleton] at hk
        omega
      rw [substitute_cons hcut (by rintro _ _ _ ⟨⟩; exact hk)]
      refine .keep (.inr ⟨rfl, hempty⟩) (replaced_of_find? hcut' hfind (by simp) fun hcut'' hl hlen => ?_)
      exact hrest hcut'' hl (by simp at hlen ⊢; omega)

/-- Cutting out the matches found and putting the marker in their places is a pass. -/
theorem replaced_substitute {fuel : Nat} (hcut : t.toList = pre ++ rest)
    (hfuel : rest.length + 1 < fuel + behind.toNat) :
    r.Replaced marker behind pre rest
      (substitute t marker pre.length
        (r.matchesFrom t fuel pre.length (if behind then some pre.length else none))) := by
  -- where a match has just ended the next one takes a character; only the first may take none, and has fuel for it
  induction fuel generalizing pre rest behind with
  | zero => cases behind <;> simp at hfuel
  | succ fuel ih =>
    -- behind each later place the pass goes on with the fuel that is left
    have hgoOn : ∀ {pre' rest' : List Char} {j : Nat}, t.toList = pre' ++ rest' → j = pre'.length →
        rest'.length < fuel →
        r.Replaced marker true pre' rest' (substitute t marker pre'.length (r.matchesFrom t fuel j (some j))) := by
      rintro pre' rest' _ hcut' rfl hlen
      exact @ih _ _ true hcut' (by simpa using hlen)
    rw [matchesFrom]
    split
    -- nothing matches any more, so the rest stays
    next hnone =>
      rw [substitute, extract_rest_of_cut hcut]
      exact .of_noMatch (noMatch_of_find? hcut hnone)
    next i j hfind =>
      by_cases hskip : i = j ∧ (if behind then some pre.length else none) = some j
      · -- an empty match where one has just ended is left out
        rw [if_pos hskip]
        obtain ⟨rfl, hlast⟩ := hskip
        obtain ⟨rfl, rfl⟩ : behind = true ∧ pre.length = i := by simpa using hlast
        obtain ⟨gap, m, post, rfl, hi, hj, -, hm⟩ := exists_of_find? hcut hfind
        simp only [List.length_append] at hi hj
        obtain ⟨rfl, rfl⟩ : gap = [] ∧ m = [] := by
          simp only [← List.length_eq_zero_iff]
          omega
        rw [List.append_nil] at hm
        refine replaced_of_empty hcut hm fun hcut' hj hlen => hgoOn hcut' hj ?_
        simp at hfuel hlen
        omega
      · -- any other match is replaced
        rw [if_neg hskip]
        refine replaced_of_find? hcut hfind (fun hbehind hplace => ?_) fun hcut' hj hlen => hgoOn hcut' hj ?_
        · obtain ⟨rfl, rfl⟩ := hplace
          simp [hbehind] at hskip
        · omega

/-- Replacing all matches is the pass through the text. -/
theorem replaced_iff {text out : List Char} :
    r.Replaced marker false [] text out ↔ out = (r.replaceAll? marker text).getD text := by
  -- the pass follows the rules, and what follows them is unique
  have hpass : r.Replaced marker false [] text ((r.replaceAll? marker text).getD text) := by
    have h : r.Replaced marker false [] text (substitute text.toArray marker 0 (r.allMatches text.toArray)) :=
      replaced_substitute rfl (by simp)
    simp only [replaceAll?]
    split
    next hnone => simpa [hnone, substitute] using h
    next => exact h
  constructor
  · intro h
    exact h.unique hpass
  · rintro rfl
    exact hpass

/-- Replacing all matches is a pass through the text. -/
theorem sweep_of_replaceAll? (hne : ∀ before after, ¬ r.Reads before [] after) {text out : List Char}
    (h : r.replaceAll? marker text = some out) : Sweep r marker [] text out :=
  (replaced_iff.2 (by rw [h, Option.getD_some])).sweep hne

end Logbook.Regex
