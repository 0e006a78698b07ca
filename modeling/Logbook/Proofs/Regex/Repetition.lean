import Logbook.Regex.Match

/-!
# Where repetitions end

A repetition takes steps from place to place, and `Walk step n i j` says that `n` steps lead from `i` to `j`.  The
functions that list the ends of a repetition remember the places they tried and go on from none of them twice.
Here it is proved that nothing gets lost by this: whatever the order of the search, the places listed are
those that some walk of a permitted length leads to.

Steps are supposed to lead forward and to stay in the text (`Forward`).  An exploration from a place then meets only
later places, so those it finds marked are finished: all that can be reached from them is marked as well
(`Closed`).  This is the invariant of the search.

## Key results

- `mem_firsts` / `mem_followed` / `mem_exactly`: taking steps one after another
- `explores_explore`: an exploration marks and records exactly what can be reached onward
- `mem_oneOrMore` / `mem_upTo`: the ends of repetitions without and with an upper bound
- `mem_repeatedly`: the ends of any repetition
-/

namespace Logbook.Regex

variable {step : Nat → List Nat} {size : Nat}

/-- So many steps lead from one place to another. -/
inductive Walk (step : Nat → List Nat) : Nat → Nat → Nat → Prop where
  | stay (i : Nat) : Walk step 0 i i
  | cons {n i j k : Nat} (h : j ∈ step i) (rest : Walk step n j k) : Walk step (n + 1) i k

/-- Steps lead forward and stay in the text. -/
def Forward (step : Nat → List Nat) (size : Nat) : Prop := ∀ i ≤ size, ∀ j ∈ step i, i ≤ j ∧ j ≤ size

/-! ## Walks -/

/-- Without a step nothing is left. -/
@[simp] theorem walk_zero {i j : Nat} : Walk step 0 i j ↔ j = i :=
  ⟨fun h => by cases h; rfl, fun h => by rw [h]; exact .stay i⟩

/-- A walk has a first step. -/
theorem walk_succ {n i k : Nat} : Walk step (n + 1) i k ↔ ∃ j ∈ step i, Walk step n j k :=
  ⟨fun h => by cases h with | cons hj rest => exact ⟨_, hj, rest⟩, fun ⟨_, hj, rest⟩ => .cons hj rest⟩

/-- Two walks one after the other are one. -/
theorem Walk.append {m n i j k : Nat} (h : Walk step m i j) (h' : Walk step n j k) :
    Walk step (m + n) i k := by
  induction h with
  | stay i => rwa [Nat.zero_add]
  | cons hj _ ih =>
    rw [Nat.add_right_comm]
    exact .cons hj (ih h')

/-- A walk can be cut after any number of its steps. -/
theorem Walk.split {m n i k : Nat} (h : Walk step (m + n) i k) : ∃ j, Walk step m i j ∧ Walk step n j k := by
  induction m generalizing i with
  | zero => exact ⟨i, .stay i, by rwa [Nat.zero_add] at h⟩
  | succ m ih =>
    rw [Nat.add_right_comm] at h
    obtain ⟨j, hj, rest⟩ := walk_succ.1 h
    obtain ⟨l, hl, hlk⟩ := ih rest
    exact ⟨l, .cons hj hl, hlk⟩

/-- Walks lead forward. -/
theorem Walk.bounds (hstep : Forward step size) {n i j : Nat} (h : Walk step n i j) (hi : i ≤ size) :
    i ≤ j ∧ j ≤ size := by
  induction h with
  | stay i => exact ⟨Nat.le_refl i, hi⟩
  | @cons n i j k hj _ ih =>
    obtain ⟨hij, hjsize⟩ := hstep i hi j hj
    obtain ⟨hjk, hksize⟩ := ih hjsize
    omega

/-! ## Marks and first occurrences -/

/-- A mark is there, and the others stay. -/
theorem isMarked_mark (marks m n : Nat) :
    isMarked (mark marks m) n = (decide (n = m) || isMarked marks n) := by
  rw [isMarked, mark, Nat.testBit_or, Nat.one_shiftLeft, Nat.testBit_two_pow, Bool.or_comm]
  simp only [isMarked, eq_comm]

/-- There is no mark on zero. -/
theorem isMarked_zero (n : Nat) : isMarked 0 n = false := Nat.zero_testBit n

/-- A place is unmarked if it is one of them and has no mark. -/
theorem mem_unmarked {marks n : Nat} {ns : List Nat} :
    n ∈ unmarked marks ns ↔ n ∈ ns ∧ isMarked marks n = false := by
  induction ns generalizing marks with
  | nil => simp [unmarked]
  | cons k ns ih =>
    rw [unmarked]
    by_cases hk : isMarked marks k = true
    · -- `k` is left out, and it was never among the unmarked ones
      rw [if_pos hk, ih, List.mem_cons]
      constructor
      · exact fun h => ⟨.inr h.1, h.2⟩
      · rintro ⟨rfl | h, hn⟩
        · rw [hk] at hn
          cases hn
        · exact ⟨h, hn⟩
    · rw [if_neg hk, List.mem_cons, ih, isMarked_mark, List.mem_cons]
      by_cases hn : n = k
      · simpa [hn] using hk
      · simp [hn]

/-- Leaving out repeated places loses none. -/
@[simp] theorem mem_firsts {n : Nat} {ns : List Nat} : n ∈ firsts ns ↔ n ∈ ns := by
  unfold firsts
  split
  · rfl
  · rfl
  · simp [mem_unmarked, isMarked_zero]

/-- The preferred place stays in front. -/
@[simp] theorem head?_firsts (ns : List Nat) : (firsts ns).head? = ns.head? := by
  unfold firsts
  split
  · rfl
  · rfl
  · cases ns with
    | nil => rfl
    | cons n ns => simp [unmarked, isMarked_zero]

/-- What follows some places follows one of them. -/
@[simp] theorem mem_followed {k : Nat} {ns : List Nat} : k ∈ followed step ns ↔ ∃ j ∈ ns, k ∈ step j := by
  simp [followed]

/-- `exactly` lists where walks of one length lead. -/
theorem mem_exactly {n k : Nat} {ns : List Nat} : k ∈ exactly step n ns ↔ ∃ i ∈ ns, Walk step n i k := by
  induction n generalizing ns with
  | zero => simp [exactly]
  | succ n ih =>
    unfold exactly
    split
    · simp
    · simp only [ih, mem_followed, walk_succ]
      -- the first step is taken from all places at once, the others by the hypothesis
      constructor
      · rintro ⟨j, ⟨i, hi, hj⟩, hk⟩
        exact ⟨i, hi, j, hj, hk⟩
      · rintro ⟨i, hi, j, hj, hk⟩
        exact ⟨j, ⟨i, hi, hj⟩, hk⟩

/-! ## Going onward -/

/-- Steps to later places lead from one place to another. -/
inductive Onward (step : Nat → List Nat) : Nat → Nat → Prop where
  | refl (i : Nat) : Onward step i i
  | cons {i j k : Nat} (h : j ∈ step i) (hlt : i < j) (rest : Onward step j k) : Onward step i k

/-- Going onward does not lead back. -/
theorem Onward.le {i k : Nat} (h : Onward step i k) : i ≤ k := by
  induction h with
  | refl => exact Nat.le_refl _
  | cons _ hlt _ ih => omega

/-- Going onward twice is going onward. -/
theorem Onward.trans {i j k : Nat} (h : Onward step i j) (h' : Onward step j k) : Onward step i k := by
  induction h with
  | refl => exact h'
  | cons hj hlt _ ih => exact .cons hj hlt (ih h')

/-- Who goes onward stays or takes a step ahead. -/
theorem onward_iff {i k : Nat} : Onward step i k ↔ k = i ∨ ∃ j ∈ step i, i < j ∧ Onward step j k := by
  constructor
  · intro h
    cases h with
    | refl => exact .inl rfl
    | cons hj hlt rest => exact .inr ⟨_, hj, hlt, rest⟩
  · rintro (rfl | ⟨j, hj, hlt, rest⟩)
    · exact .refl _
    · exact .cons hj hlt rest

/-- Who goes onward walks. -/
theorem Onward.exists_walk {i k : Nat} (h : Onward step i k) : ∃ n, Walk step n i k := by
  induction h with
  | refl i => exact ⟨0, .stay i⟩
  | cons hj _ _ ih =>
    obtain ⟨n, hn⟩ := ih
    exact ⟨n + 1, .cons hj hn⟩

/-- Steps that stay where they are can be left out of a walk. -/
theorem Walk.onward (hstep : Forward step size) {n i k : Nat} (h : Walk step n i k) (hi : i ≤ size) :
    Onward step i k := by
  induction h with
  | stay i => exact .refl i
  | @cons n i j k hj _ ih =>
    obtain ⟨hij, hjsize⟩ := hstep i hi j hj
    rcases Nat.lt_or_eq_of_le hij with hlt | rfl
    · exact .cons hj hlt (ih hjsize)
    · exact ih hi

/-- One step or more: the first of them may stay, and then goes on from where it is. -/
theorem exists_walk_succ_iff (hstep : Forward step size) {i k : Nat} (hi : i ≤ size) :
    (∃ n, Walk step (n + 1) i k) ↔ ∃ j ∈ step i, if j = i then k = i else Onward step j k := by
  constructor
  · rintro ⟨n, h⟩
    induction n with
    | zero =>
      obtain ⟨j, hj, hjk⟩ := walk_succ.1 h
      obtain rfl := walk_zero.1 hjk
      refine ⟨k, hj, ?_⟩
      split
      next => assumption
      next => exact .refl k
    | succ n ih =>
      -- a first step that stays can be left out, for another one follows
      obtain ⟨j, hj, rest⟩ := walk_succ.1 h
      by_cases hji : j = i
      · exact ih (hji ▸ rest)
      · exact ⟨j, hj, by rw [if_neg hji]; exact rest.onward hstep (hstep i hi j hj).2⟩
  · rintro ⟨j, hj, h⟩
    split at h
    next hji => exact ⟨0, .cons hj (by rw [walk_zero, h, hji])⟩
    next =>
      obtain ⟨n, hn⟩ := h.exists_walk
      exact ⟨n, .cons hj hn⟩

/-! ## Gathering -/

/-- What the places of a list add one after another, the list adds as a whole.  The relation says what is added from
one trail to another, and `P` is an invariant of the way there. -/
theorem foldl_gathers {R : (Nat → Prop) → Trail → Trail → Prop}
    (hrefl : ∀ trail, R (fun _ => False) trail trail)
    (htrans : ∀ {S S' a b c}, R S a b → R S' b c → R (fun m => S m ∨ S' m) a c)
    {f : Trail → Nat → Trail} {S : Nat → Nat → Prop} {P : Trail → Prop} {js : List Nat}
    (hf : ∀ trail, ∀ j ∈ js, P trail → P (f trail j) ∧ R (S j) trail (f trail j)) {trail : Trail}
    (h : P trail) : P (js.foldl f trail) ∧ R (fun m => ∃ j ∈ js, S j m) trail (js.foldl f trail) := by
  -- by induction on the places, with what those in front have gathered
  induction js generalizing trail with
  | nil =>
    refine ⟨h, ?_⟩
    simpa using hrefl trail
  | cons j js ih =>
    obtain ⟨hP, hfirst⟩ := hf trail j (by simp) h
    obtain ⟨hP', hrest⟩ := ih (fun trail k hk => hf trail k (by simp [hk])) hP
    refine ⟨hP', ?_⟩
    simpa using htrans hfirst hrest

/-! ## Explorations -/

/-- Marked places from `b` on are finished: what can be reached from them is marked. -/
def Closed (step : Nat → List Nat) (b : Nat) (trail : Trail) : Prop :=
  ∀ m, b ≤ m → isMarked trail.marks m = true → ∀ k, Onward step m k → isMarked trail.marks k = true

/-- What is closed above a place is closed above a later one. -/
theorem Closed.mono {b c : Nat} {trail : Trail} (h : Closed step b trail) (hbc : b ≤ c) :
    Closed step c trail :=
  fun m hm => h m (by omega)

/-- From one trail to another the places of a set are marked, and those that were not marked are recorded. -/
structure Explores (S : Nat → Prop) (trail trail' : Trail) : Prop where
  marks : ∀ m, isMarked trail'.marks m = true ↔ isMarked trail.marks m = true ∨ S m
  ends : ∀ m, m ∈ trail'.ends ↔ m ∈ trail.ends ∨ (S m ∧ ¬ isMarked trail.marks m = true)

/-- Marking finished places only keeps the marks closed. -/
theorem Explores.closed {S : Nat → Prop} {trail trail' : Trail} (h : Explores S trail trail') {b : Nat}
    (hS : ∀ m, b ≤ m → S m → ∀ k, Onward step m k → S k) (hclosed : Closed step b trail) :
    Closed step b trail' := by
  intro m hm hmarked k hk
  rw [h.marks] at hmarked ⊢
  exact hmarked.imp (fun hold => hclosed m hm hold k hk) fun hnew => hS m hm hnew k hk

/-- Nothing is explored at first. -/
theorem Explores.refl (trail : Trail) : Explores (fun _ => False) trail trail := ⟨by simp, by simp⟩

/-- Two explorations one after the other are one. -/
theorem Explores.trans {S S' : Nat → Prop} {a b c : Trail} (h : Explores S a b) (h' : Explores S' b c) :
    Explores (fun m => S m ∨ S' m) a c := by
  refine ⟨fun m => by rw [h'.marks, h.marks, or_assoc], fun m => ?_⟩
  rw [h'.ends, h.ends, h.marks]
  by_cases hold : isMarked a.marks m = true <;> by_cases hnew : S m <;> simp [hold, hnew]

/-- A place that was not marked is marked first, and recorded before or after what can be reached from it. -/
theorem Explores.visit {S : Nat → Prop} {i : Nat} {trail start more last : Trail}
    (hmore : Explores S start more) (hstart : start.marks = mark trail.marks i)
    (hmarked : ¬ isMarked trail.marks i = true) (hmarks : last.marks = more.marks)
    (hends : ∀ m, m ∈ last.ends ↔ m = i ∨ m ∈ trail.ends ∨ (S m ∧ ¬ isMarked start.marks m = true)) :
    Explores (fun m => m = i ∨ S m) trail last := by
  -- `i` is new compared with `trail`, but already marked where `more` sets out
  refine ⟨fun m => ?_, fun m => ?_⟩
  · rw [hmarks, hmore.marks, hstart, isMarked_mark]
    by_cases hm : m = i <;> simp [hm]
  · rw [hends, hstart, isMarked_mark]
    by_cases hm : m = i
    · simp [hm, hmarked]
    · simp [hm]

/-- **An exploration marks and records exactly what can be reached onward.**  By induction on the fuel: the marks
from `i` on are closed, the place itself is marked first, and the explorations from later places keep the marks
behind `i` closed. -/
theorem explores_explore {greedy : Bool} (hstep : Forward step size) {fuel i : Nat} {trail : Trail}
    (hi : i ≤ size) (hfuel : size < fuel + i) (hclosed : Closed step i trail) :
    Explores (Onward step i) trail (explore step greedy fuel false trail i) := by
  induction fuel generalizing i trail with
  | zero => omega
  | succ fuel ih =>
    -- the place is marked, and then its steps are explored
    rw [explore]
    split
    next hmarked =>
      -- a marked place is finished, and so is everything onward from it
      refine ⟨fun m => ?_, fun m => ?_⟩
      · exact ⟨.inl, fun h => h.elim id fun hm => hclosed i (Nat.le_refl i) hmarked m hm⟩
      · exact ⟨.inl, fun h => h.elim id fun hm => absurd (hclosed i (Nat.le_refl i) hmarked m hm.1) hm.2⟩
    next hmarked =>
      -- what the explorations from the places further on gather, once `i` is marked
      have hmore : ∀ start : Trail, start.marks = mark trail.marks i →
          Explores (fun m => ∃ j ∈ step i, i < j ∧ Onward step j m) start
            ((step i).foldl (fun trail j => if i < j then explore step greedy fuel false trail j else trail)
              start) := by
        intro start hstart
        refine (foldl_gathers .refl .trans (P := Closed step (i + 1)) (fun trail' j hj hclosed' => ?_) ?_).2
        · by_cases hlt : i < j
          · have hexplored := ih (hstep i hi j hj).2 (by omega) (hclosed'.mono hlt)
            simp only [hlt, if_true, true_and]
            exact ⟨hexplored.closed (fun m _ hm k hk => hm.trans hk) hclosed', hexplored⟩
          · simp only [hlt, if_false, false_and]
            exact ⟨hclosed', by simp, by simp⟩
        · -- the mark on `i` itself lies below
          intro m hm hmarked' k hk
          have hk' := hk.le
          rw [hstart, isMarked_mark] at hmarked' ⊢
          have hold : isMarked trail.marks m = true := by simpa [show m ≠ i by omega] using hmarked'
          simp [hclosed m (by omega) hold k hk]
      have hset : Onward step i = fun m => m = i ∨ ∃ j ∈ step i, i < j ∧ Onward step j m :=
        funext fun m => propext onward_iff
      rw [hset]
      -- a greedy repetition lists its end behind those further on
      cases greedy with
      | true =>
        have hmore := hmore ⟨mark trail.marks i, trail.ends⟩ rfl
        exact hmore.visit rfl hmarked rfl fun m => by rw [← hmore.ends]; exact List.mem_cons
      | false =>
        have hmore := hmore ⟨mark trail.marks i, i :: trail.ends⟩ rfl
        exact hmore.visit rfl hmarked rfl fun m => by rw [← or_assoc, ← List.mem_cons]; exact hmore.ends m

/-- With no step onward a place is recorded by itself. -/
theorem explores_explore_stay {greedy : Bool} {fuel i : Nat} {trail : Trail} :
    Explores (fun m => m = i) trail (explore step greedy (fuel + 1) true trail i) := by
  rw [explore]
  split
  -- the place was tried before, so nothing is left to do
  next hmarked =>
    refine ⟨fun m => ?_, fun m => ?_⟩
    · exact ⟨.inl, fun h => h.elim id fun hm => hm ▸ hmarked⟩
    · exact ⟨.inl, fun h => h.elim id fun hm => absurd (hm.1 ▸ hmarked) hm.2⟩
  next hmarked =>
    have hset : (fun m => m = i) = fun m => m = i ∨ False := funext fun m => by simp
    rw [hset]
    cases greedy with
    | true =>
      have hstart := Explores.refl ⟨mark trail.marks i, trail.ends⟩
      exact hstart.visit rfl hmarked rfl fun m => by simp
    | false =>
      have hstart := Explores.refl ⟨mark trail.marks i, i :: trail.ends⟩
      exact hstart.visit rfl hmarked rfl fun m => by simp

/-- The ends of one step or more. -/
theorem mem_oneOrMore {greedy : Bool} (hstep : Forward step size) {i k : Nat} (hi : i ≤ size) :
    k ∈ oneOrMore step greedy size i ↔ ∃ n, Walk step (n + 1) i k := by
  -- the marks behind the start are closed all along; the start itself may be marked by a step that stays
  have hexplored : Explores (fun k => ∃ j ∈ step i, if j = i then k = i else Onward step j k) ⟨0, []⟩
      ((step i).foldl (fun trail j => explore step greedy (size + 1) (j = i) trail j) ⟨0, []⟩) := by
    refine (foldl_gathers .refl .trans (P := Closed step (i + 1))
      (S := fun j k => if j = i then k = i else Onward step j k) (fun trail j hj hclosed => ?_) ?_).2
    · by_cases hji : j = i
      · subst hji
        simp only [if_true, decide_true]
        have hstay : Explores (fun m => m = j) trail (explore step greedy (size + 1) true trail j) :=
          explores_explore_stay
        exact ⟨hstay.closed (fun m hm hmj => by omega) hclosed, hstay⟩
      · obtain ⟨hij, hjsize⟩ := hstep i hi j hj
        simp only [hji, if_false, decide_false]
        have honward : Explores (Onward step j) trail (explore step greedy (size + 1) false trail j) :=
          explores_explore hstep hjsize (by omega) (hclosed.mono (by omega))
        exact ⟨honward.closed (fun m _ hm k hk => hm.trans hk) hclosed, honward⟩
    · intro m _ hmarked
      simp [isMarked_zero] at hmarked
  -- nothing is marked at first, so whatever is reached is recorded
  rw [exists_walk_succ_iff hstep hi, oneOrMore, List.mem_reverse, hexplored.ends]
  simp [isMarked_zero]

/-! ## At most so many steps -/

/-- At most so many steps lead from one place to another. -/
def Within (step : Nat → List Nat) (n i k : Nat) : Prop := ∃ m ≤ n, Walk step m i k

/-- Without a step nothing else is within reach. -/
theorem within_zero {i k : Nat} : Within step 0 i k ↔ k = i := by
  simp [Within]

/-- Within reach is the place itself, or what is within reach of a step. -/
theorem within_succ {n i k : Nat} : Within step (n + 1) i k ↔ k = i ∨ ∃ j ∈ step i, Within step n j k := by
  constructor
  · rintro ⟨m, hm, h⟩
    cases m with
    | zero => exact .inl (walk_zero.1 h)
    | succ m =>
      obtain ⟨j, hj, rest⟩ := walk_succ.1 h
      exact .inr ⟨j, hj, m, by omega, rest⟩
  · rintro (rfl | ⟨j, hj, m, hm, h⟩)
    · exact ⟨0, Nat.zero_le _, .stay k⟩
    · exact ⟨m + 1, by omega, .cons hj h⟩

/-- Marks on pairs tell the pairs apart. -/
theorem key_inj {m n i j : Nat} (hi : i ≤ size) (hj : j ≤ size)
    (h : m * (size + 1) + i = n * (size + 1) + j) : m = n ∧ i = j := by
  have hm : (m * (size + 1) + i) / (size + 1) = m := by
    rw [Nat.mul_comm, Nat.mul_add_div (by omega), Nat.div_eq_of_lt (by omega), Nat.add_zero]
  have hn : (n * (size + 1) + j) / (size + 1) = n := by
    rw [Nat.mul_comm, Nat.mul_add_div (by omega), Nat.div_eq_of_lt (by omega), Nat.add_zero]
  have hmn : m = n := by rw [← hm, h, hn]
  subst hmn
  exact ⟨rfl, by omega⟩

/-- Where a mark says that a place was explored with fewer than `n` steps left, its ends are recorded. -/
def Kept (step : Nat → List Nat) (size n : Nat) (trail : Trail) : Prop :=
  ∀ k < n, ∀ i ≤ size, isMarked trail.marks (k * (size + 1) + i) = true →
    ∀ j, Within step (k + 1) i j → j ∈ trail.ends

/-- From one trail to another the places of a set are recorded; marks for `n` steps or more are as before. -/
structure Records (size n : Nat) (S : Nat → Prop) (trail trail' : Trail) : Prop where
  ends : ∀ j, j ∈ trail'.ends ↔ j ∈ trail.ends ∨ S j
  marks : ∀ k, n ≤ k → ∀ i ≤ size, isMarked trail'.marks (k * (size + 1) + i) = true →
    isMarked trail.marks (k * (size + 1) + i) = true

/-- Nothing is recorded at first. -/
theorem Records.refl {n : Nat} (trail : Trail) : Records size n (fun _ => False) trail trail :=
  ⟨by simp, fun _ _ _ _ h => h⟩

/-- Two records one after the other are one. -/
theorem Records.trans {n : Nat} {S S' : Nat → Prop} {a b c : Trail} (h : Records size n S a b)
    (h' : Records size n S' b c) : Records size n (fun m => S m ∨ S' m) a c := by
  refine ⟨fun m => by rw [h'.ends, h.ends, or_assoc], fun k hk i hi hmarked => ?_⟩
  exact h.marks k hk i hi (h'.marks k hk i hi hmarked)

/-- A new mark changes no other one. -/
theorem isMarked_of_mark {marks n i k j : Nat} (hi : i ≤ size) (hj : j ≤ size) (hne : k ≠ n ∨ j ≠ i)
    (h : isMarked (mark marks (n * (size + 1) + i)) (k * (size + 1) + j) = true) :
    isMarked marks (k * (size + 1) + j) = true := by
  rw [isMarked_mark] at h
  have hkey : k * (size + 1) + j ≠ n * (size + 1) + i := fun heq => by
    obtain ⟨rfl, rfl⟩ := key_inj hj hi heq
    simp at hne
  simpa [hkey] using h

/-- A place is marked first, and recorded before or after where the steps from it lead. -/
theorem records_visit {n i : Nat} {trail start more last : Trail} (hi : i ≤ size)
    (hkept : Kept step size (n + 1) trail) (hstart : start.marks = mark trail.marks (n * (size + 1) + i))
    (hkeptMore : Kept step size n more) {S : Nat → Prop} (hmore : Records size n S start more)
    (hmarks : last.marks = more.marks) (hsub : ∀ m ∈ more.ends, m ∈ last.ends)
    (hends : ∀ m, m ∈ last.ends ↔ m ∈ trail.ends ∨ Within step (n + 1) i m) :
    Kept step size (n + 1) last ∧ Records size (n + 1) (Within step (n + 1) i) trail last := by
  refine ⟨fun k hk j hj h m hm => ?_, hends, fun k hk j hj h => ?_⟩
  · rw [hmarks] at h
    rcases Nat.lt_or_eq_of_le (Nat.le_of_lt_succ hk) with hlt | rfl
    · exact hsub m (hkeptMore k hlt j hj h m hm)
    · -- with `n` steps left a mark is the new one or stems from `trail`
      have hj' := hmore.marks k (Nat.le_refl k) j hj h
      rw [hstart] at hj'
      rw [hends]
      by_cases hji : j = i
      · exact .inr (hji ▸ hm)
      · exact .inl (hkept k hk j hj (isMarked_of_mark hi hj (.inr hji) hj') m hm)
  · rw [hmarks] at h
    have h' := hmore.marks k (by omega) j hj h
    rw [hstart] at h'
    exact isMarked_of_mark hi hj (.inl (by omega)) h'

/-- A search with at most `n` steps left records where they lead, and keeps what the marks promise. -/
theorem records_upToFrom {greedy : Bool} (hstep : Forward step size) {n i : Nat} {trail : Trail}
    (hi : i ≤ size) (hkept : Kept step size n trail) :
    Kept step size n (upToFrom step greedy size n trail i) ∧
      Records size n (Within step n i) trail (upToFrom step greedy size n trail i) := by
  induction n generalizing i trail with
  | zero =>
    refine ⟨fun k hk => absurd hk (Nat.not_lt_zero k), fun j => ?_, fun k _ i _ h => h⟩
    rw [upToFrom, List.mem_cons, within_zero, or_comm]
  | succ n ih =>
    rw [upToFrom]
    split
    next hmarked =>
      -- the mark promises that the ends are there
      have hends := hkept n (Nat.lt_succ_self n) i hi hmarked
      exact ⟨hkept, fun j => ⟨.inl, fun h => h.elim id (hends j)⟩, fun k _ i _ h => h⟩
    next hmarked =>
      have hmore : ∀ start : Trail, start.marks = mark trail.marks (n * (size + 1) + i) →
          (∀ m ∈ trail.ends, m ∈ start.ends) →
          Kept step size n ((step i).foldl (upToFrom step greedy size n) start) ∧
            Records size n (fun m => ∃ j ∈ step i, Within step n j m) start
              ((step i).foldl (upToFrom step greedy size n) start) := by
        intro start hstart hsub
        refine foldl_gathers .refl .trans (P := Kept step size n) (S := Within step n)
          (fun trail' j hj hkept' => ih (hstep i hi j hj).2 hkept') ?_
        -- the new mark is for `n + 1` steps left, so it promises nothing about fewer
        intro k hk j hj h m hm
        rw [hstart] at h
        exact hsub m (hkept k (by omega) j hj (isMarked_of_mark hi hj (.inl (by omega)) h) m hm)
      cases greedy with
      | true =>
        obtain ⟨hkeptMore, hmore⟩ := hmore ⟨_, trail.ends⟩ rfl fun _ h => h
        refine records_visit hi hkept rfl hkeptMore hmore rfl (fun m => List.mem_cons_of_mem _) fun m => ?_
        rw [within_succ, or_left_comm, ← hmore.ends]
        exact List.mem_cons
      | false =>
        obtain ⟨hkeptMore, hmore⟩ := hmore ⟨_, i :: trail.ends⟩ rfl fun _ h => List.mem_cons_of_mem _ h
        refine records_visit hi hkept rfl hkeptMore hmore rfl (fun m => id) fun m => ?_
        rw [within_succ, or_left_comm, ← or_assoc, ← List.mem_cons]
        exact hmore.ends m

/-- The ends of at most so many steps. -/
theorem mem_upTo {greedy : Bool} (hstep : Forward step size) {n i k : Nat} (hi : i ≤ size) :
    k ∈ upTo step greedy size n i ↔ Within step n i k := by
  have hkept : Kept step size n ⟨0, []⟩ := by
    intro k _ i _ hmarked
    simp [isMarked_zero] at hmarked
  rw [upTo, mem_firsts, List.mem_reverse, (records_upToFrom hstep hi hkept).2.ends]
  simp

/-- **The ends of a repetition** are the places that a walk of a permitted length leads to. -/
theorem mem_repeatedly {greedy : Bool} (hstep : Forward step size) {least : Nat} {most : Option Nat}
    {i k : Nat} (hi : i ≤ size) :
    k ∈ repeatedly step least most greedy size i ↔
      ∃ n, least ≤ n ∧ (∀ m, most = some m → n ≤ max least m) ∧ Walk step n i k := by
  cases most with
  | some m =>
    simp only [repeatedly, mem_followed, mem_exactly, List.mem_singleton, exists_eq_left, Option.some.injEq,
      forall_eq']
    -- `least` steps, and then up to `m - least` more
    constructor
    · rintro ⟨j, hj, hk⟩
      obtain ⟨n, hn, hwalk⟩ := (mem_upTo hstep (hj.bounds hstep hi).2).1 hk
      exact ⟨least + n, by omega, by omega, hj.append hwalk⟩
    · rintro ⟨n, hmin, hmax, hwalk⟩
      rw [← Nat.add_sub_cancel' hmin] at hwalk
      obtain ⟨j, hj, hk⟩ := hwalk.split
      exact ⟨j, hj, (mem_upTo hstep (hj.bounds hstep hi).2).2 ⟨n - least, by omega, hk⟩⟩
  | none =>
    cases least with
    | zero =>
      -- none or more is to stay, or one or more
      have hmem : k ∈ repeatedly step 0 none greedy size i ↔ k = i ∨ k ∈ oneOrMore step greedy size i := by
        cases greedy <;> simp [repeatedly, or_comm]
      rw [hmem, mem_oneOrMore hstep hi]
      constructor
      · rintro (rfl | ⟨n, h⟩)
        · exact ⟨0, Nat.le_refl 0, by simp, .stay k⟩
        · exact ⟨n + 1, Nat.zero_le _, by simp, h⟩
      · rintro ⟨n, -, -, h⟩
        cases n with
        | zero => exact .inl (walk_zero.1 h)
        | succ n => exact .inr ⟨n, h⟩
    | succ least =>
      simp only [repeatedly, mem_followed, mem_exactly, List.mem_singleton, exists_eq_left]
      -- the last of the steps demanded is the first of one step or more
      constructor
      · rintro ⟨j, hj, hk⟩
        obtain ⟨n, hwalk⟩ := (mem_oneOrMore hstep (hj.bounds hstep hi).2).1 hk
        exact ⟨least + (n + 1), by omega, by simp, hj.append hwalk⟩
      · rintro ⟨n, hmin, -, hwalk⟩
        rw [← Nat.add_sub_cancel' (show least ≤ n by omega)] at hwalk
        obtain ⟨j, hj, hk⟩ := hwalk.split
        obtain ⟨l, hl⟩ : ∃ l, n - least = l + 1 := ⟨n - least - 1, by omega⟩
        exact ⟨j, hj, (mem_oneOrMore hstep (hj.bounds hstep hi).2).2 ⟨l, hl ▸ hk⟩⟩

end Logbook.Regex
