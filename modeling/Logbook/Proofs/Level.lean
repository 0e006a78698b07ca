import Logbook.Level
import Mathlib.Data.Fintype.Basic
import Mathlib.Order.Defs.LinearOrder

/-!
# Levels as filters

The numbers of levels order them, and a filter at a level lets through what is not below it.  Two filters stand
outside of this order: `never` is the lowest level and lets nothing through, `always` is the highest and lets
everything through.  So of several filters the lowest need not let through the most (`Level.any_passes_eq_iff`), and
one step down need not let through more (`Level.passes_previous`).
-/

namespace Logbook.Level

instance : Fintype Level where
  elems := ⟨all, by decide⟩
  complete l := by cases l <;> decide

/-- Levels are ordered by their numbers. -/
instance : LinearOrder Level where
  le_refl a := Int.le_refl a.number
  le_trans _ _ _ := Int.le_trans
  lt_iff_le_not_ge _ _ := Int.lt_iff_le_and_not_ge
  le_antisymm _ _ h h' := number_injective (Int.le_antisymm h h')
  le_total a b := Int.le_total a.number b.number
  toDecidableLE := inferInstance
  toDecidableLT := inferInstance

/-- No level is below `never`. -/
theorem never_le : ∀ l : Level, never ≤ l := by decide

/-- No level is above `always`. -/
theorem le_always : ∀ l : Level, l ≤ always := by decide

/-- Entries have a level from `trace` on. -/
theorem unset_lt_iff : ∀ {l : Level}, unset < l ↔ trace ≤ l := by decide

/-- An entry has a level above `unset`.  It gets through `always` and through every filter that is not above it,
`never` apart. -/
theorem passes_iff : ∀ {entry filter : Level},
    entry.passes filter = true ↔ unset < entry ∧ filter ≠ never ∧ (filter = always ∨ filter ≤ entry) := by
  decide

/-! ## Steps -/

/-- One step up lets nothing new through, from `unset` as far as `fatal`. -/
theorem passes_of_passes_next : ∀ {entry filter : Level}, unset ≤ filter → filter < fatal →
    entry.passes filter.next = true → entry.passes filter = true := by
  decide

/-- One step down from above `trace` keeps nothing back that got through, unless it leads from `always` to
`fatal`. -/
theorem passes_previous : ∀ {entry filter : Level}, trace < filter → (filter = always → fatal ≤ entry) →
    entry.passes filter = true → entry.passes filter.previous = true := by
  decide

/-- No level has `always` below it. -/
theorem previous_ne_always : ∀ l : Level, l.previous ≠ always := by decide

/-! ## Several filters -/

/-- An entry gets through one of some filters exactly if it gets through the lowest of them, for entries of every
level, unless the lowest is `never` and another is not, or `always` is among them and the lowest keeps something
back. -/
theorem any_passes_eq_iff {filters : List Level} {lowest : Level} (hmem : lowest ∈ filters)
    (hle : ∀ l ∈ filters, lowest ≤ l) :
    (∀ entry : Level, filters.any (entry.passes ·) = entry.passes lowest) ↔
      (never ∈ filters → ∀ l ∈ filters, l = never) ∧
        (always ∈ filters → lowest ≤ trace ∨ ∀ l ∈ filters, l = always) := by
  constructor
  · intro hagree
    refine ⟨fun hnever l hl => ?_, fun halways => ?_⟩
    · -- the lowest is silent, so no entry gets through any of them, not even the highest
      have hlowest : lowest = never := le_antisymm (hle never hnever) (never_le lowest)
      have hsilent := hagree always
      rw [hlowest, show always.passes never = false from rfl, List.any_eq_false] at hsilent
      by_contra hl'
      exact hsilent l hl (passes_iff.2 ⟨by decide, hl', .inr (le_always l)⟩)
    · -- the lowest entry gets through `always`, so it gets through the lowest as well
      have hopen := hagree trace
      rw [List.any_eq_true.2 ⟨always, halways, rfl⟩, eq_comm, passes_iff] at hopen
      rcases hopen.2.2 with hlowest | hlowest
      · exact .inr fun l hl => le_antisymm (le_always l) (hlowest ▸ hle l hl)
      · exact .inl hlowest
  · rintro ⟨hnever, halways⟩ entry
    rw [Bool.eq_iff_iff, List.any_eq_true]
    -- an entry that gets through one of them gets through the lowest: `never` lets nothing through, and `always` is
    -- met by `trace`
    constructor
    · rintro ⟨l, hl, hpasses⟩
      obtain ⟨hentry, hl', hthrough⟩ := passes_iff.1 hpasses
      refine passes_iff.2 ⟨hentry, fun hlowest => hl' (hnever (hlowest ▸ hmem) l hl), ?_⟩
      rcases hthrough with rfl | hthrough
      · rcases halways hl with htrace | hall
        · exact .inr (le_trans htrace (unset_lt_iff.1 hentry))
        · exact .inl (hall lowest hmem)
      · exact .inr (le_trans (hle l hl) hthrough)
    · exact fun hpasses => ⟨lowest, hmem, hpasses⟩

end Logbook.Level
