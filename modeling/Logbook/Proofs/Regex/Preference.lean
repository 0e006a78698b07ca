import Logbook.Proofs.Regex.Reading

/-!
# Longest matches

A greedy repetition prefers more steps to fewer, but what an expression prefers as a whole need not be the longest
text it reads.  It is for runs of characters, and for sequences of these in which a longer first part never goes
with a shorter whole: there the place listed first is the last of all (`LongestFirst`).

## Key results

- `pairwise_ends_run`: the ends of a greedy run are listed from the last to the first
- `longestFirst_followed`: when taking steps one after another keeps the last place in front
- `repeats_set_iff` / `reads_run_iff`: what runs of characters read
-/

namespace Logbook.Regex

variable {step : Nat → List Nat} {t : Subject}

/-- The place listed first is the last of all. -/
def LongestFirst (ns : List Nat) : Prop := ∀ j, ns.head? = some j → ∀ k ∈ ns, k ≤ j

/-- Places that go down are tried longest first. -/
theorem longestFirst_of_pairwise {ns : List Nat} (h : ns.Pairwise (· > ·)) : LongestFirst ns := by
  intro j hj k hk
  cases ns with
  | nil => cases hj
  | cons n ns =>
    obtain rfl : n = j := Option.some.inj hj
    rcases List.mem_cons.1 hk with rfl | hk
    · exact Nat.le_refl k
    · exact Nat.le_of_lt ((List.pairwise_cons.1 h).1 k hk)

/-- If the places are listed from the last to the first and steps from later ones lead further, then the place
that is reached first is the last of all. -/
theorem longestFirst_followed {ns : List Nat} (hns : ns.Pairwise (· > ·))
    (hstep : ∀ n ∈ ns, LongestFirst (step n))
    (hlater : ∀ n ∈ ns, ∀ m ∈ ns, m < n → ∀ k ∈ step n, ∀ l ∈ step m, l ≤ k) :
    LongestFirst (followed step ns) := by
  intro j hj k hk
  rw [followed, head?_firsts] at hj
  rw [followed, mem_firsts] at hk
  induction ns with
  | nil => cases hj
  | cons n ns ih =>
    obtain ⟨hn, hns⟩ := List.pairwise_cons.1 hns
    rw [List.flatMap_cons] at hj hk
    cases hfirst : step n with
    | nil =>
      -- nothing leads on from `n`, so the next place takes its part
      rw [hfirst, List.nil_append] at hj hk
      exact ih hns (fun m hm => hstep m (by simp [hm]))
        (fun m hm l hl => hlater m (by simp [hm]) l (by simp [hl])) hj hk
    | cons i is =>
      -- the first place has steps, so its last one is preferred
      have hij : (step n).head? = some j := by
        rw [hfirst] at hj ⊢
        exact hj
      have hmem : j ∈ step n := List.mem_of_head? hij
      rcases List.mem_append.1 hk with hk | hk
      · exact hstep n (by simp) j hij k hk
      · obtain ⟨m, hm, hk⟩ := List.mem_flatMap.1 hk
        exact hlater n (by simp) m (by simp [hm]) (hn m hm) j hmem k hk

/-! ## Order of a greedy run -/

/-- Places without a mark are some of the places. -/
theorem unmarked_sublist (marks : Nat) (ns : List Nat) : (unmarked marks ns).Sublist ns := by
  induction ns generalizing marks with
  | nil => exact List.Sublist.refl _
  | cons n ns ih =>
    rw [unmarked]
    split
    · exact (ih marks).cons n
    · exact (ih _).cons_cons n

/-- The first occurrences are some of the places. -/
theorem firsts_sublist (ns : List Nat) : (firsts ns).Sublist ns := by
  unfold firsts
  split
  · exact List.Sublist.refl _
  · exact List.Sublist.refl _
  · exact unmarked_sublist 0 ns

/-- A greedy exploration that always goes on to the next place only records later places before earlier ones. -/
theorem explore_ends (hstep : ∀ i, step i = [] ∨ step i = [i + 1]) (fuel : Nat) (stay : Bool) (trail : Trail)
    (i : Nat) : ∃ new, (explore step true fuel stay trail i).ends = new ++ trail.ends ∧ new.Pairwise (· < ·) ∧
      ∀ m ∈ new, i ≤ m := by
  induction fuel generalizing stay trail i with
  | zero => exact ⟨[], rfl, .nil, by simp⟩
  | succ fuel ih =>
    rw [explore]
    split
    · exact ⟨[], rfl, .nil, by simp⟩
    · cases stay with
      | true => exact ⟨[i], rfl, List.pairwise_singleton .., by simp⟩
      | false =>
        rcases hstep i with hnone | hnext
        · rw [hnone]
          exact ⟨[i], rfl, List.pairwise_singleton .., by simp⟩
        · -- all that the exploration from `i + 1` records is later than `i`
          obtain ⟨new, hends, hnew, hle⟩ := ih false ⟨mark trail.marks i, trail.ends⟩ (i + 1)
          refine ⟨i :: new, ?_, List.pairwise_cons.2 ⟨fun m hm => hle m hm, hnew⟩, fun m hm => ?_⟩
          · rw [hnext]
            simp [hends]
          · rcases List.mem_cons.1 hm with rfl | hm
            · exact Nat.le_refl m
            · have := hle m hm
              omega

/-- One or more steps of one character end longest first. -/
theorem pairwise_oneOrMore (hstep : ∀ i, step i = [] ∨ step i = [i + 1]) (size i : Nat) :
    (oneOrMore step true size i).Pairwise (· > ·) := by
  rw [oneOrMore, List.pairwise_reverse]
  rcases hstep i with hnone | hnext
  · rw [hnone]
    exact .nil
  · obtain ⟨new, hends, hnew, -⟩ := explore_ends hstep (size + 1) (i + 1 = i) ⟨0, []⟩ (i + 1)
    rw [hnext, List.foldl_cons, List.foldl_nil, hends, List.append_nil]
    exact hnew

/-- A set takes one character or none. -/
theorem ends_set (s : CharSet) (i : Nat) : ends t (set s) i = [] ∨ ends t (set s) i = [i + 1] := by
  rw [ends]
  split
  · split
    · exact .inr rfl
    · exact .inl rfl
  · exact .inl rfl

/-- The ends of a greedy run of characters are listed from the last to the first. -/
theorem pairwise_ends_run (s : CharSet) (least i : Nat) :
    (ends t (rep (set s) (least + 1) none true) i).Pairwise (· > ·) := by
  -- a single place leads to a single place or nowhere, however many steps are taken
  have hexactly : ∀ n ns, ns = [] ∨ (∃ i, ns = [i]) → exactly (ends t (set s)) n ns = [] ∨
      ∃ i, exactly (ends t (set s)) n ns = [i] := by
    intro n
    induction n with
    | zero => exact fun ns h => h
    | succ n ih =>
      rintro ns (rfl | ⟨i, rfl⟩)
      · exact .inl rfl
      · rw [exactly]
        · refine ih _ ?_
          rcases ends_set (t := t) s i with h | h
          · exact .inl (by simp [followed, h, firsts])
          · exact .inr ⟨i + 1, by simp [followed, h, firsts]⟩
        · simp
  rw [ends, repeatedly]
  rcases hexactly least [i] (.inr ⟨i, rfl⟩) with h | ⟨j, h⟩
  · rw [h]
    exact .nil
  · rw [h, followed, List.flatMap_cons, List.flatMap_nil, List.append_nil]
    exact (pairwise_oneOrMore (ends_set s) t.size j).sublist (firsts_sublist _)

/-! ## What runs read -/

theorem repeats_set_iff {s : CharSet} {n : Nat} {before : Option Char} {xs : List Char}
    {after : Option Char} :
    Repeats (set s).Reads n before xs after ↔ xs.length = n ∧ ∀ c ∈ xs, s.contains c = true := by
  -- by induction on the characters that are left
  induction n generalizing before xs with
  | zero =>
    rw [Repeats, List.length_eq_zero_iff]
    exact ⟨by rintro rfl; simp, And.left⟩
  | succ n ih =>
    constructor
    · rintro ⟨ys, zs, rfl, ⟨c, rfl, hc⟩, hzs⟩
      obtain ⟨hlen, hall⟩ := ih.1 hzs
      exact ⟨by simp [hlen], by simpa [hc] using hall⟩
    · rintro ⟨hlen, hall⟩
      cases xs with
      | nil => cases hlen
      | cons c xs =>
        exact ⟨[c], xs, rfl, ⟨c, rfl, hall c (by simp)⟩,
          ih.2 ⟨Nat.succ.inj hlen, fun d hd => hall d (by simp [hd])⟩⟩

/-- A run reads enough characters of its set. -/
theorem reads_run_iff {s : CharSet} {least : Nat} {greedy : Bool} {before : Option Char} {xs : List Char}
    {after : Option Char} : (rep (set s) least none greedy).Reads before xs after ↔
      least ≤ xs.length ∧ ∀ c ∈ xs, s.contains c = true := by
  constructor
  · rintro ⟨n, hleast, -, h⟩
    obtain ⟨rfl, hall⟩ := repeats_set_iff.1 h
    exact ⟨hleast, hall⟩
  · rintro ⟨hleast, hall⟩
    exact ⟨xs.length, hleast, by simp, repeats_set_iff.2 ⟨rfl, hall⟩⟩

/-- A set of one character has it alone. -/
theorem singleton_contains {c d : Char} : (CharSet.singleton c).contains d = true ↔ d = c := by
  simp only [CharSet.contains, CharSet.containsPoint, CharSet.singleton, List.any_cons, List.any_nil,
    Bool.or_false, Bool.and_eq_true, decide_eq_true_eq]
  constructor
  · rintro ⟨h, h'⟩
    exact Char.toNat_inj.1 (by omega)
  · rintro rfl
    exact ⟨Nat.le_refl _, Nat.le_refl _⟩

/-- A character reads itself. -/
theorem reads_char_iff {c : Char} {before : Option Char} {xs : List Char} {after : Option Char} :
    (char c).Reads before xs after ↔ xs = [c] := by
  constructor
  · rintro ⟨d, rfl, hd⟩
    rw [singleton_contains.1 hd]
  · rintro rfl
    exact ⟨c, rfl, singleton_contains.2 rfl⟩

end Logbook.Regex
