import Logbook.Proofs.Regex.Reading

/-!
# The leftmost match, and a sweep over the matches

`Regex.Sweep r marker pre text out` describes one pass through a text behind `pre`: up to its end, or up to the first
place where something is read, nothing is read from any place; what is read there is replaced by the marker,
and the pass goes on behind it.  It speaks about texts and not about places, and about the preferred match of
a place only as far as `Prefers` says.

## Key results

- `exists_of_find?`: the match found is the leftmost
- `isMatch_eq_false_iff` / `replaceAll?_eq_none_iff`: when a text has no match
-/

namespace Logbook.Regex

variable {r : Regex} {t : Subject} {marker pre rest : List Char}

/-- Nothing is read from the start of the text. -/
def Misses (r : Regex) (before : Option Char) (text : List Char) : Prop :=
  ∀ xs post, text = xs ++ post → ¬ r.Reads before xs post.head?

/-- Nothing is read from any place of a text that stands behind `pre`. -/
def NoMatch (r : Regex) (pre text : List Char) : Prop :=
  ∀ front back, text = front ++ back → r.Misses (pre ++ front).getLast? back

/-- Nothing is read from any place of the gap, which stands between `pre` and `post`. -/
def Clear (r : Regex) (pre gap post : List Char) : Prop :=
  ∀ front back, gap = front ++ back → back ≠ [] → r.Misses (pre ++ front).getLast? (back ++ post)

/-- Of what can be read behind `pre`, this is preferred. -/
def Prefers (r : Regex) (pre m post : List Char) : Prop :=
  r.endAt? (pre ++ m ++ post).toArray pre.length = some (pre ++ m).length

/-- One pass through a text behind `pre`. -/
inductive Sweep (r : Regex) (marker : List Char) : List Char → List Char → List Char → Prop where
  | done {pre text : List Char} (h : r.NoMatch pre text) : Sweep r marker pre text text
  | next {pre gap m rest out : List Char} (hgap : r.Clear pre gap (m ++ rest))
      (hm : r.Prefers (pre ++ gap) m rest) (h : Sweep r marker (pre ++ gap ++ m) rest out) :
      Sweep r marker pre (gap ++ m ++ rest) (gap ++ marker ++ out)

/-! ## Place by place -/

/-- A place in a gap, a marker and what follows is in the gap, in the marker or behind it. -/
theorem place_cases {gap front back out : List Char} (h : gap ++ (marker ++ out) = front ++ back) :
    (∃ c g, gap = front ++ c :: g ∧ back = c :: g ++ (marker ++ out)) ∨
      (∃ c m m', marker = m' ++ c :: m ∧ front = gap ++ m' ∧ back = c :: m ++ out) ∨
      ∃ more, front = gap ++ marker ++ more ∧ out = more ++ back := by
  -- a place that is not in the gap is in the marker or behind it
  have hbehind : ∀ more : List Char, front = gap ++ more → marker ++ out = more ++ back →
      (∃ c m m', marker = m' ++ c :: m ∧ front = gap ++ m' ∧ back = c :: m ++ out) ∨
        ∃ more, front = gap ++ marker ++ more ∧ out = more ++ back := by
    rintro more rfl h
    rcases List.append_eq_append_iff.1 h with ⟨more', rfl, hout⟩ | ⟨m, hmarker, rfl⟩
    · exact .inr ⟨more', by rw [List.append_assoc], hout⟩
    · cases m with
      | nil => exact .inr ⟨[], by rw [hmarker]; simp, rfl⟩
      | cons c m => exact .inl ⟨c, m, more, hmarker, rfl, rfl⟩
  rcases List.append_eq_append_iff.1 h with ⟨more, hfront, hback⟩ | ⟨g, rfl, rfl⟩
  · exact .inr (hbehind more hfront hback)
  · cases g with
    | nil => exact .inr (hbehind [] (by simp) rfl)
    | cons c g => exact .inl ⟨c, g, rfl, rfl⟩

/-- A character that the marker does not have is in the gap or behind the marker. -/
theorem place_of_notMem {gap front back out : List Char} {c : Char} (hc : c ∉ marker)
    (h : gap ++ (marker ++ out) = front ++ c :: back) :
    (∃ g, gap = front ++ c :: g ∧ back = g ++ (marker ++ out)) ∨
      ∃ more, front = gap ++ marker ++ more ∧ out = more ++ c :: back := by
  rcases place_cases h with ⟨d, g, hgap, hback⟩ | ⟨d, m, m', hmarker, -, hback⟩ | hbehind
  · obtain ⟨rfl, rfl⟩ := List.cons.inj hback
    exact .inl ⟨g, hgap, rfl⟩
  · obtain ⟨rfl, -⟩ := List.cons.inj hback
    exact absurd (by simp [hmarker]) hc
  · exact .inr hbehind

/-- Nothing matches if nothing does at the end. -/
theorem noMatch_nil (h : r.Misses pre.getLast? []) : r.NoMatch pre [] := by
  intro front back hsplit
  obtain ⟨rfl, rfl⟩ := List.append_eq_nil_iff.1 hsplit.symm
  rwa [List.append_nil]

/-- Nothing matches if nothing does at the first place and behind it. -/
theorem noMatch_cons {c : Char} (hfirst : r.Misses pre.getLast? (c :: rest))
    (h : r.NoMatch (pre ++ [c]) rest) : r.NoMatch pre (c :: rest) := by
  intro front back hsplit
  cases front with
  | nil =>
    obtain rfl : c :: rest = back := hsplit
    rwa [List.append_nil]
  | cons d front =>
    obtain ⟨rfl, htail⟩ := List.cons.inj hsplit
    have := h front back htail
    rwa [List.append_assoc, List.singleton_append] at this

/-- An empty gap is clear. -/
theorem clear_nil (r : Regex) (pre post : List Char) : r.Clear pre [] post := by
  intro front back hsplit hne
  exact absurd (List.append_eq_nil_iff.1 hsplit.symm).2 hne

/-- A gap is clear if nothing matches at its first place and behind it. -/
theorem clear_cons {c : Char} {gap post : List Char} (hfirst : r.Misses pre.getLast? (c :: gap ++ post))
    (h : r.Clear (pre ++ [c]) gap post) : r.Clear pre (c :: gap) post := by
  intro front back hsplit hne
  cases front with
  | nil =>
    obtain rfl : c :: gap = back := hsplit
    rwa [List.append_nil]
  | cons d front =>
    obtain ⟨rfl, htail⟩ := List.cons.inj hsplit
    have := h front back htail hne
    rwa [List.append_assoc, List.singleton_append] at this

/-! ## Finding a match -/

/-- No end is found exactly if nothing matches there. -/
theorem endAt?_eq_none_iff (hcut : t.toList = pre ++ rest) :
    r.endAt? t pre.length = none ↔ r.Misses pre.getLast? rest := by
  rw [endAt?, List.head?_eq_none_iff, List.eq_nil_iff_forall_not_mem]
  constructor
  · intro h xs post hrest hreads
    exact h _ ((mem_ends hcut).2 ⟨xs, post, hrest, rfl, hreads⟩)
  · intro h j hj
    obtain ⟨xs, post, hrest, -, hreads⟩ := (mem_ends hcut).1 hj
    exact h xs post hrest hreads

/-- The preferred end of a place is the end of the preferred text. -/
theorem exists_prefers (hcut : t.toList = pre ++ rest) {j : Nat} (h : r.endAt? t pre.length = some j) :
    ∃ m post, rest = m ++ post ∧ j = (pre ++ m).length ∧ r.Prefers pre m post := by
  obtain ⟨m, post, rfl, rfl, -⟩ := (mem_ends hcut).1 (List.mem_of_head? h)
  have ht : t = (pre ++ m ++ post).toArray := by rw [List.append_assoc, ← hcut, Array.toArray_toList]
  refine ⟨m, post, rfl, by rw [List.length_append], ?_⟩
  rw [Prefers, ← ht, h, List.length_append]

/-- What is preferred is read. -/
theorem Prefers.reads {m post : List Char} (h : r.Prefers pre m post) :
    r.Reads pre.getLast? m post.head? := by
  have hcut : (pre ++ m ++ post).toArray.toList = pre ++ (m ++ post) := by rw [List.append_assoc]
  obtain ⟨m', post', hsplit, hlen, hreads⟩ := (mem_ends hcut).1 (List.mem_of_head? h)
  rw [List.length_append] at hlen
  obtain ⟨rfl, rfl⟩ := List.append_inj hsplit (by omega)
  exact hreads

/-- The search has one step for each place. -/
theorem find?_eq_findWithin (hcut : t.toList = pre ++ rest) :
    r.find? t pre.length = r.findWithin t (rest.length + 1) pre.length := by
  have hsize := size_of_cut hcut
  rw [find?, show t.size + 1 - pre.length = rest.length + 1 by omega]

/-- When nothing is found there is no match. -/
theorem noMatch_of_find? (hcut : t.toList = pre ++ rest) (h : r.find? t pre.length = none) :
    r.NoMatch pre rest := by
  rw [find?_eq_findWithin hcut] at h
  -- by induction on the text: the search goes on at the next place
  induction rest generalizing pre with
  | nil =>
    rw [findWithin] at h
    split at h
    next => cases h
    next hend => exact noMatch_nil ((endAt?_eq_none_iff hcut).1 hend)
  | cons c rest ih =>
    rw [findWithin] at h
    split at h
    next => cases h
    next hend =>
      have hcut' : t.toList = (pre ++ [c]) ++ rest := by rw [hcut]; simp
      refine noMatch_cons ((endAt?_eq_none_iff hcut).1 hend) (ih hcut' ?_)
      rwa [List.length_append]

/-- What is found is the leftmost match, and of those the preferred one. -/
theorem exists_of_find? (hcut : t.toList = pre ++ rest) {i j : Nat} (h : r.find? t pre.length = some (i, j)) :
    ∃ gap m post, rest = gap ++ m ++ post ∧ i = (pre ++ gap).length ∧ j = (pre ++ gap ++ m).length ∧
      r.Clear pre gap (m ++ post) ∧ r.Prefers (pre ++ gap) m post := by
  rw [find?_eq_findWithin hcut] at h
  -- a match at this very place, with nothing in front of it
  have hhere : ∀ {pre rest : List Char}, t.toList = pre ++ rest → r.endAt? t pre.length = some j →
      ∃ m post, rest = [] ++ m ++ post ∧ j = (pre ++ [] ++ m).length ∧ r.Clear pre [] (m ++ post) ∧
        r.Prefers (pre ++ []) m post := by
    intro pre rest hcut hend
    obtain ⟨m, post, hrest, hj, hm⟩ := exists_prefers hcut hend
    exact ⟨m, post, hrest, by rw [hj, List.append_nil], clear_nil _ _ _, by rwa [List.append_nil]⟩
  induction rest generalizing pre with
  -- the end of the text is the last place for a match
  | nil =>
    rw [findWithin] at h
    split at h
    next stop hend =>
      obtain ⟨rfl, rfl⟩ := Prod.mk.inj (Option.some.inj h)
      obtain ⟨m, post, hrest, hj, hm⟩ := hhere hcut hend
      exact ⟨[], m, post, hrest, by rw [List.append_nil], hj, hm⟩
    next => cases h
  | cons c rest ih =>
    rw [findWithin] at h
    split at h
    next stop hend =>
      obtain ⟨rfl, rfl⟩ := Prod.mk.inj (Option.some.inj h)
      obtain ⟨m, post, hrest, hj, hm⟩ := hhere hcut hend
      exact ⟨[], m, post, hrest, by rw [List.append_nil], hj, hm⟩
    -- no match starts here, so the character joins the gap
    next hend =>
      have hcut' : t.toList = (pre ++ [c]) ++ rest := by rw [hcut]; simp
      obtain ⟨gap, m, post, rfl, hi, hj, hclear, hm⟩ := ih hcut' (by rwa [List.length_append])
      have hmiss := (endAt?_eq_none_iff hcut).1 hend
      have hfront : pre ++ [c] ++ gap = pre ++ c :: gap := by simp
      rw [hfront] at hi hj hm
      refine ⟨c :: gap, m, post, rfl, hi, hj, clear_cons ?_ hclear, hm⟩
      rwa [List.append_assoc] at hmiss

/-! ## Texts without a match -/

/-- A text has no match exactly if nothing is read from any of its places. -/
theorem isMatch_eq_false_iff {text : List Char} : r.isMatch text.toArray = false ↔ r.NoMatch [] text := by
  have hcut : text.toArray.toList = [] ++ text := rfl
  rw [isMatch, Option.isSome_eq_false_iff, Option.isNone_iff_eq_none]
  constructor
  · exact noMatch_of_find? hcut
  · intro h
    cases hfind : r.find? text.toArray 0 with
    | none => rfl
    | some found =>
      -- a match that is found is one
      obtain ⟨gap, m, post, hsplit, -, -, -, hm⟩ := exists_of_find? hcut hfind
      rw [List.append_assoc] at hsplit
      exact absurd hm.reads (h gap (m ++ post) hsplit m post rfl)

/-- Nothing is replaced exactly if there is no match. -/
theorem replaceAll?_eq_none_iff {text : List Char} :
    r.replaceAll? marker text = none ↔ r.NoMatch [] text := by
  rw [← isMatch_eq_false_iff, isMatch, Option.isSome_eq_false_iff, Option.isNone_iff_eq_none]
  simp only [replaceAll?, allMatches, matchesFrom]
  cases r.find? text.toArray 0 with
  | none => simp
  | some found => simp

end Logbook.Regex
