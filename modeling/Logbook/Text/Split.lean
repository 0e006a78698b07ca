/-!
# Splitting at a character

`split` cuts a text at every occurrence of a separator, `splitOnce?` at the first one.  `split_join` says
that cutting undoes joining when no part holds the separator, and `mem_split` that no part ever does.
-/

namespace Logbook.Text

/-- The parts between the separators; one more than there are separators. -/
def split (sep : Char) : List Char → List (List Char)
  | [] => [[]]
  | c :: cs =>
    if c = sep then [] :: split sep cs
    else
      match split sep cs with
      | [] => [[c]]
      | part :: parts => (c :: part) :: parts

/-- The parts with separators between them. -/
def join (sep : Char) : List (List Char) → List Char
  | [] => []
  | [part] => part
  | part :: parts => part ++ sep :: join sep parts

/-- What stands before and after the first separator. -/
def splitOnce? (sep : Char) : List Char → Option (List Char × List Char)
  | [] => none
  | c :: cs =>
    if c = sep then some ([], cs)
    else (splitOnce? sep cs).map fun (before, after) => (c :: before, after)

/-- There is always a part. -/
theorem split_ne_nil (sep : Char) (cs : List Char) : split sep cs ≠ [] := by
  cases cs with
  | nil => simp [split]
  | cons c cs =>
    rw [split]
    split
    · simp
    · split <;> simp

/-- Without a separator there is one part. -/
theorem split_of_notMem {sep : Char} {cs : List Char} (h : sep ∉ cs) : split sep cs = [cs] := by
  induction cs with
  | nil => rfl
  | cons c cs ih =>
    rw [List.mem_cons, not_or] at h
    rw [split, if_neg (Ne.symm h.1), ih h.2]

/-- The first separator ends the first part. -/
theorem split_append_cons {sep : Char} {cs : List Char} (rest : List Char) (h : sep ∉ cs) :
    split sep (cs ++ sep :: rest) = cs :: split sep rest := by
  induction cs with
  | nil => simp [split]
  | cons c cs ih =>
    rw [List.mem_cons, not_or] at h
    rw [List.cons_append, split, if_neg (Ne.symm h.1), ih h.2]

/-- Parts without separators are found again. -/
theorem split_join {sep : Char} {parts : List (List Char)} (hne : parts ≠ [])
    (h : ∀ part ∈ parts, sep ∉ part) : split sep (join sep parts) = parts := by
  induction parts with
  | nil => exact absurd rfl hne
  | cons part parts ih =>
    have hp := h part (by simp)
    cases parts with
    | nil => exact split_of_notMem hp
    | cons p ps =>
      rw [join, split_append_cons _ hp, ih (by simp) fun q hq => h q (by simp [hq])]
      simp

/-- No part holds the separator, nor anything that the text does not hold. -/
theorem mem_split {sep : Char} {cs part : List Char} (h : part ∈ split sep cs) :
    sep ∉ part ∧ ∀ c ∈ part, c ∈ cs := by
  induction cs generalizing part with
  | nil =>
    obtain rfl : part = [] := by simpa [split] using h
    simp
  | cons d ds ih =>
    rw [split] at h
    split at h
    -- at a separator a part ends
    next hd =>
      rcases List.mem_cons.1 h with rfl | h
      · simp
      · exact ⟨(ih h).1, fun c hc => List.mem_cons_of_mem _ ((ih h).2 c hc)⟩
    next hd =>
      split at h
      next hnil => exact absurd hnil (split_ne_nil sep ds)
      -- any other character goes to the first part of the rest
      next p ps hps =>
        rcases List.mem_cons.1 h with rfl | h
        · -- the first part of the rest, with `d` in front of it
          obtain ⟨hsep, hmem⟩ := @ih p (by simp [hps])
          refine ⟨?_, fun c hc => ?_⟩
          · rw [List.mem_cons, not_or]
            exact ⟨Ne.symm hd, hsep⟩
          · rcases List.mem_cons.1 hc with rfl | hc
            · simp
            · exact List.mem_cons_of_mem _ (hmem c hc)
        · obtain ⟨hsep, hmem⟩ := @ih part (by simp [hps, h])
          exact ⟨hsep, fun c hc => List.mem_cons_of_mem _ (hmem c hc)⟩

/-- Without a separator there is no cut. -/
theorem splitOnce?_of_notMem {sep : Char} {cs : List Char} (h : sep ∉ cs) :
    splitOnce? sep cs = none := by
  induction cs with
  | nil => rfl
  | cons c cs ih =>
    rw [List.mem_cons, not_or] at h
    rw [splitOnce?, if_neg (Ne.symm h.1), ih h.2]
    rfl

/-- The cut is at the separator that comes first. -/
theorem splitOnce?_append_cons {sep : Char} {cs : List Char} (rest : List Char) (h : sep ∉ cs) :
    splitOnce? sep (cs ++ sep :: rest) = some (cs, rest) := by
  induction cs with
  | nil => simp [splitOnce?]
  | cons c cs ih =>
    rw [List.mem_cons, not_or] at h
    rw [List.cons_append, splitOnce?, if_neg (Ne.symm h.1), ih h.2]
    rfl

/-- There is no cut only if there is no separator. -/
theorem notMem_of_splitOnce?_eq_none {sep : Char} {cs : List Char} (h : splitOnce? sep cs = none) :
    sep ∉ cs := by
  induction cs with
  | nil => simp
  | cons c cs ih =>
    rw [splitOnce?] at h
    split at h
    next => cases h
    next hc =>
      rw [List.mem_cons, not_or]
      exact ⟨Ne.symm hc, ih (Option.map_eq_none_iff.1 h)⟩

/-- The cut is at the first separator. -/
theorem eq_of_splitOnce?_eq_some {sep : Char} {cs before after : List Char}
    (h : splitOnce? sep cs = some (before, after)) : cs = before ++ sep :: after ∧ sep ∉ before := by
  induction cs generalizing before with
  | nil => cases h
  | cons c cs ih =>
    rw [splitOnce?] at h
    split at h
    next hc =>
      cases h
      simp [hc]
    -- the cut is further on, and the character is not the separator
    next hc =>
      obtain ⟨⟨b, a⟩, hcut, hba⟩ := Option.map_eq_some_iff.1 h
      cases hba
      obtain ⟨rfl, hsep⟩ := ih hcut
      refine ⟨rfl, ?_⟩
      rw [List.mem_cons, not_or]
      exact ⟨Ne.symm hc, hsep⟩

/-- Joining is the intercalation of lists. -/
theorem join_eq_intercalate (sep : Char) (parts : List (List Char)) :
    join sep parts = [sep].intercalate parts := by
  induction parts with
  | nil => rfl
  | cons part parts ih =>
    cases parts with
    | nil => simp [join]
    | cons p ps => simp [join, ih, List.intercalate_cons_cons]

/-- Joining texts is joining their characters. -/
theorem toList_intercalate (sep : Char) (parts : List String) :
    ((String.singleton sep).intercalate parts).toList = join sep (parts.map String.toList) := by
  simp [join_eq_intercalate]

end Logbook.Text
