import Logbook.Value

/-!
# What a value resolves to

`Value.resolve` counts down from its limit.  `Value.Computes` counts up instead: so many computations in a row lead from
a value to another one, and where they stop is looked at only then (`Value.Stops`).

## Key results

- `Value.resolve_eq_iff`: resolving computes one value after another until it stops
- `Value.Resolves.isDeferred_eq_false`: what it stops at is not deferred
-/

namespace Logbook

variable {σ : Type} {s : Suppliers σ}

/-- So many computations in a row lead from a value to another one. -/
inductive Value.Computes (s : Suppliers σ) :
    (n : Nat) → (hidden : σ) → (v u : Value) → (after : σ) → Prop where
  | refl {hidden : σ} {v : Value} : Computes s 0 hidden v v hidden
  | step {n : Nat} {hidden mid after : σ} {source : Nat} {v u : Value} (hstep : s.compute source hidden = (v, mid))
      (hrest : Computes s n mid v u after) : Computes s (n + 1) hidden (.deferred source) u after

namespace Value

/-- Computing stops at a value that is not deferred, or when the limit is reached. -/
def Stops (limit n : Nat) (u w : Value) : Prop :=
  n < limit ∧ u.isDeferred = false ∧ w = u ∨ n = limit ∧ w = tooDeferred

/-- Computations in a row lead from a value to where they stop. -/
def Resolves (s : Suppliers σ) (hidden : σ) (v w : Value) (after : σ) : Prop :=
  ∃ n u, v.Computes s n hidden u after ∧ Stops depthLimit n u w

/-- A computation before all others counts on both sides. -/
theorem Stops.succ_iff {limit n : Nat} {u w : Value} : Stops (limit + 1) (n + 1) u w ↔ Stops limit n u w := by
  rw [Stops, Stops, Nat.add_lt_add_iff_right, Nat.add_right_cancel_iff]

/-- Within a limit there are computations that lead to the result. -/
theorem exists_computes (s : Suppliers σ) (limit : Nat) (v : Value) (hidden : σ) :
    ∃ n u, v.Computes s n hidden u (resolveWithin s limit v hidden).2 ∧
      Stops limit n u (resolveWithin s limit v hidden).1 := by
  -- each computation takes one from the limit
  induction limit generalizing v hidden with
  | zero => exact ⟨0, v, .refl, .inr ⟨rfl, rfl⟩⟩
  | succ limit ih =>
    cases v with
    | deferred source =>
      obtain ⟨n, u, hcomputes, hstops⟩ := ih (s.compute source hidden).1 (s.compute source hidden).2
      exact ⟨n + 1, u, .step rfl hcomputes, Stops.succ_iff.2 hstops⟩
    | _ => exact ⟨0, _, .refl, .inl ⟨Nat.succ_pos limit, rfl, rfl⟩⟩

/-- Where computations stop is the result, for there is one way on from each value. -/
theorem Computes.resolveWithin {limit n : Nat} {hidden after : σ} {v u w : Value}
    (h : v.Computes s n hidden u after) (hstops : Stops limit n u w) :
    resolveWithin s limit v hidden = (w, after) := by
  induction h generalizing limit with
  | @refl hidden v =>
    obtain ⟨hlimit, hplain, rfl⟩ | ⟨rfl, rfl⟩ := hstops
    · obtain ⟨limit, rfl⟩ : ∃ m, limit = m + 1 := ⟨limit - 1, by omega⟩
      cases w with
      | deferred source => cases hplain
      | _ => rfl
    · -- at the limit the value is not looked at any more
      rfl
  | @step n hidden mid after source v u hstep _ ih =>
    obtain ⟨limit, rfl⟩ : ∃ m, limit = m + 1 := ⟨limit - 1, by unfold Stops at hstops; omega⟩
    show Value.resolveWithin s limit (s.compute source hidden).1 (s.compute source hidden).2 = _
    rw [hstep]
    exact ih (Stops.succ_iff.1 hstops)

/-- Resolving computes one value after another until it stops. -/
theorem resolve_eq_iff {hidden after : σ} {v w : Value} :
    v.resolve s hidden = (w, after) ↔ v.Resolves s hidden w after := by
  constructor
  · intro h
    have hcomputes := exists_computes s depthLimit v hidden
    rwa [← resolve, h] at hcomputes
  · rintro ⟨n, u, hcomputes, hstops⟩
    exact hcomputes.resolveWithin hstops

/-- Every value resolves to something. -/
theorem exists_resolves (s : Suppliers σ) (hidden : σ) (v : Value) : ∃ w after, v.Resolves s hidden w after :=
  ⟨_, _, resolve_eq_iff.1 rfl⟩

namespace Resolves

variable {hidden after after' : σ} {v w w' : Value}

/-- There is one way to compute a value. -/
theorem unique (h : v.Resolves s hidden w after) (h' : v.Resolves s hidden w' after') : w = w' ∧ after = after' :=
  Prod.mk.inj ((resolve_eq_iff.2 h).symm.trans (resolve_eq_iff.2 h'))

/-- A value that is not deferred is what it resolves to. -/
theorem of_not_deferred (h : v.isDeferred = false) : v.Resolves s hidden v hidden :=
  ⟨0, v, .refl, .inl ⟨by decide, h, rfl⟩⟩

/-- What a value resolves to is not deferred. -/
theorem isDeferred_eq_false (h : v.Resolves s hidden w after) : w.isDeferred = false := by
  obtain ⟨n, u, -, hstops⟩ := h
  obtain ⟨-, hplain, rfl⟩ | ⟨-, rfl⟩ := hstops
  · exact hplain
  · rfl

end Resolves

end Value

end Logbook
