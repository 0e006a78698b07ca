import Logbook.Proofs.Filter.Lookup
import Logbook.Proofs.Level
import Logbook.Proofs.Sink.FanOut
import Mathlib.Logic.Function.Iterate

/-!
# Verbosity controls

The controls of a sink move the default rule of each of its outputs one level up or down, once for each place the
output has in the sink.  What an output asks of a topic and a scope then either stays as it was or was the default
and moves along (`Filter.level_setDefault`).  So less verbose means that nothing new is accepted, and more verbose
that everything is that was accepted before, with one exception: a default of `always` lets everything through, and
one level down from it is `fatal`, which lets through least of all.

## Key results

- `Output.accepts_of_accepts_filterMore` / `Output.accepts_filterLess`: one step at one output
- `Sink.output?_modify`: what several steps make of the outputs
- `Sink.accepts_controls`: both controls of any sink
- `Sink.accepts_filterLess_of_always`: the exception
-/

namespace Logbook

/-! ## One output -/

namespace Filter

theorem level_eq_or (f : Filter) (topic scope : String) :
    f.level topic scope =
      ((f.rule? (Target.name topic) (Target.name scope)).or <| (f.rule? (Target.name topic) Target.any).or <|
        (f.rule? Target.any (Target.name scope)).or (f.rule? Target.any Target.any)).getD .unset := by
  simp only [level, List.findSome?_cons, List.findSome?_nil]
  cases f.rule? (Target.name topic) (Target.name scope) <;> cases f.rule? (Target.name topic) Target.any <;>
    cases f.rule? Target.any (Target.name scope) <;> cases f.rule? Target.any Target.any <;> rfl

theorem default_eq (f : Filter) : f.default = (f.rule? Target.any Target.any).getD .unset := by
  rw [default, level_eq_or, Target.name_any]
  cases f.rule? Target.any Target.any <;> rfl

theorem rule?_setDefault (f : Filter) (l : Level) (topic scope : String) :
    (f.setDefault l).rule? topic scope
      = if topic = Target.any ∧ scope = Target.any then some l else f.rule? topic scope := by
  rw [setDefault, rule?_set, Target.name_any]

@[simp] theorem default_setDefault (f : Filter) (l : Level) : (f.setDefault l).default = l := by
  rw [default_eq, rule?_setDefault, if_pos ⟨rfl, rfl⟩]
  rfl

/-- Where the default rule changes, a filter asks what it asked before, unless that was the default, which is then
the new one. -/
theorem level_setDefault (f : Filter) (l : Level) (topic scope : String) :
    (f.setDefault l).level topic scope = f.level topic scope ∨
      f.level topic scope = f.default ∧ (f.setDefault l).level topic scope = l := by
  rw [level_eq_or, level_eq_or, default_eq]
  simp only [rule?_setDefault]
  -- one of the first three places may be the default as well, the others keep their rules
  by_cases ht : Target.name topic = Target.any <;> by_cases hs : Target.name scope = Target.any
  · simp [ht, hs]
  · cases h : f.rule? Target.any (Target.name scope) <;> simp [ht, hs, h]
  · cases h : f.rule? (Target.name topic) Target.any <;> simp [ht, hs, h]
  · cases f.rule? (Target.name topic) (Target.name scope) <;> cases f.rule? (Target.name topic) Target.any <;>
      cases f.rule? Target.any (Target.name scope) <;> simp [ht, hs]

end Filter

namespace Output

variable {o : Output} {entry : Level} {topic scope : String}

theorem filterLevel_setDefault (o : Output) (l : Level) (topic scope : String) :
    (o.setDefault l).filterLevel topic scope = o.filterLevel topic scope ∨
      o.filterLevel topic scope = o.filterLevel Target.any Target.any ∧
        (o.setDefault l).filterLevel topic scope = l := by
  obtain ⟨name, filter, layout, medium⟩ := o
  cases filter with
  | none => exact .inl rfl
  | some f => exact f.level_setDefault l topic scope

/-- Less verbose, an output accepts nothing new. -/
theorem accepts_of_accepts_filterMore (h : o.filterMore.accepts entry topic scope = true) :
    o.accepts entry topic scope = true := by
  rw [filterMore] at h
  split at h
  next hrange =>
    rw [accepts] at h ⊢
    rcases o.filterLevel_setDefault (o.filterLevel Target.any Target.any).next topic scope with hsame | ⟨hold, hnew⟩
    · rw [← hsame]
      exact h
    · rw [hnew] at h
      rw [hold]
      exact Level.passes_of_passes_next hrange.1 hrange.2 h
  next => exact h

/-- More verbose, an output accepts what it accepted, unless its default was `always` and the entry is below
`fatal`. -/
theorem accepts_filterLess (hdefault : o.filterLevel Target.any Target.any = .always → .fatal ≤ entry)
    (h : o.accepts entry topic scope = true) : o.filterLess.accepts entry topic scope = true := by
  rw [filterLess]
  split
  next hrange =>
    rw [accepts] at h ⊢
    -- the level asked for is that of a rule, or else it is the default
    rcases o.filterLevel_setDefault (o.filterLevel Target.any Target.any).previous topic scope with
      hsame | ⟨hold, hnew⟩
    · rw [hsame]
      exact h
    · rw [hold] at h
      rw [hnew]
      exact Level.passes_previous hrange hdefault h
  next => exact h

/-- No default is `always` after such a step, so the next one has no exception. -/
theorem filterLevel_filterLess_ne_always (o : Output) :
    o.filterLess.filterLevel Target.any Target.any ≠ .always := by
  rw [filterLess]
  split
  next hrange =>
    obtain ⟨name, filter, layout, medium⟩ := o
    cases filter with
    | none => cases hrange
    | some f =>
      have hnew : (f.setDefault f.default.previous).default = f.default.previous := f.default_setDefault _
      exact fun halways => Level.previous_ne_always _ (hnew.symm.trans halways)
  next hrange => exact fun halways => hrange (halways ▸ by decide)

end Output

/-! ## Sinks -/

/-- Changing an output leaves the others as they are. -/
theorem Store.output?_modify_ne (st : Store) {id k : Nat} (f : Output → Output) (h : id ≠ k) :
    (st.modify id f).output? k = st.output? k := by
  simp [modify, output?, h]

namespace Sink

/-- An output is changed once for each place it has in the sink. -/
theorem output?_modify (sink : Sink) (f : Output → Output) (st : Store) (id : Nat) :
    (sink.modify f st).output? id = (st.output? id).map f^[sink.outputs.count id] := by
  have hfold : ∀ (ids : List Nat) (st : Store), (ids.foldl (fun st id => st.modify id f) st).output? id
      = (st.output? id).map f^[ids.count id] := by
    intro ids
    induction ids with
    | nil => exact fun st => Option.map_id'.symm
    | cons k ids ih =>
      -- the first change is the innermost of those that reach its output, and misses the others
      intro st
      rw [List.foldl_cons, ih, List.count_cons]
      by_cases hk : k = id
      · subst hk
        rw [Store.output?_modify, Option.map_map, ← Function.iterate_succ]
        simp
      · rw [Store.output?_modify_ne st f hk]
        simp [hk]
  exact hfold sink.outputs st

theorem accepts_iff_exists {st : Store} {sink : Sink} {entry : Level} {topic scope : String} :
    sink.accepts st entry topic scope = true ↔
      ∃ id ∈ sink.outputs, ∃ o ∈ st.output? id, o.accepts entry topic scope = true := by
  rw [accepts_eq_any st ⟨entry, topic, scope⟩, List.any_eq_true]
  simp only [takes, Option.any_eq_true, Option.mem_def]

/-- What one step keeps true of an output is still true after the change of a sink. -/
theorem exists_of_modify {p : Output → Prop} {f : Output → Output} (hf : ∀ o, p o → p (f o)) (sink : Sink)
    {st : Store} {id : Nat} {o : Output} (ho : o ∈ st.output? id) (hp : p o) :
    ∃ o' ∈ (sink.modify f st).output? id, p o' := by
  refine ⟨f^[sink.outputs.count id] o, ?_, Function.Iterate.rec p hp hf _⟩
  rw [output?_modify, Option.mem_def, Option.mem_def.1 ho, Option.map_some]

/-- **The verbosity controls.**  The sink that is controlled may be the one that is asked, or share outputs with it.
After one step less verbose, whatever was refused is still refused.  After one step more verbose, an entry is still
accepted that an output accepted before, unless the default of that output was `always` and the entry is below
`fatal`. -/
theorem accepts_controls (controlled sink : Sink) (st : Store) (entry : Level) (topic scope : String) :
    (sink.accepts st entry topic scope = false →
      sink.accepts (controlled.filterMore st) entry topic scope = false) ∧
    ∀ id ∈ sink.outputs, ∀ o ∈ st.output? id, o.accepts entry topic scope = true →
      (o.filterLevel Target.any Target.any = .always → .fatal ≤ entry) →
      sink.accepts (controlled.filterLess st) entry topic scope = true := by
  constructor
  · intro hrefuses
    rw [Bool.eq_false_iff, ne_eq, accepts_iff_exists] at hrefuses ⊢
    rintro ⟨id, hid, o', ho', haccepts⟩
    -- the output refused the entry before, and each step keeps it so
    obtain ⟨o, ho, -⟩ := Option.map_eq_some_iff.1 ((output?_modify ..).symm.trans ho')
    obtain ⟨o'', ho'', hstill⟩ := exists_of_modify (p := fun o => ¬ o.accepts entry topic scope = true)
      (fun _ => mt Output.accepts_of_accepts_filterMore) controlled ho fun h => hrefuses ⟨id, hid, o, ho, h⟩
    exact hstill (Option.mem_unique ho' ho'' ▸ haccepts)
  · intro id hid o ho haccepts hdefault
    -- a step keeps the entry accepted, and leaves no default of `always` for the next
    obtain ⟨o', ho', haccepts', -⟩ := exists_of_modify
      (p := fun o => o.accepts entry topic scope = true ∧
        (o.filterLevel Target.any Target.any = .always → .fatal ≤ entry))
      (fun o h => ⟨Output.accepts_filterLess h.2 h.1,
        fun halways => absurd halways o.filterLevel_filterLess_ne_always⟩) controlled ho ⟨haccepts, hdefault⟩
    exact accepts_iff_exists.2 ⟨id, hid, o', ho', haccepts'⟩

/-- An output in three places of a tree, with a rule below its default; next to it one whose default is `always`. -/
theorem accepts_controls_shared :
    let st : Store := { Store.empty with outputs :=
      [.memory (.uniform .always) .bunyan, .memory ((Filter.uniform .warn).set .debug "db" "*") .bunyan] }
    let s : Suppliers Unit := ⟨fun _ => pure .null, fun _ => pure .null⟩
    let chain := (Chain.root s ⟨"host", 1, 0⟩ "svc" .empty [] ()).1
    let sink : Sink := .fan [.output 0, .fan [.output 1, .output 1], .through chain (.output 1)]
    let o : Output := .memory ((Filter.uniform .warn).set .debug "db" "*") .bunyan
    1 ∈ sink.outputs ∧ o ∈ st.output? 1 ∧ o.accepts .debug "db" "pool" = true ∧
      o.filterLevel Target.any Target.any ≠ .always ∧
      sink.accepts (sink.filterLess st) .debug "db" "pool" = true ∧
      (Sink.output 1).accepts st .debug "main" "main" = false ∧
      (Sink.output 1).accepts (sink.filterMore st) .debug "main" "main" = false := by
  intro st s chain sink o
  have hid : 1 ∈ sink.outputs := by decide
  have ho : o ∈ st.output? 1 := rfl
  have haccepts : o.accepts .debug "db" "pool" = true := by decide
  have hdefault : o.filterLevel Target.any Target.any ≠ .always := by decide
  have hrefuses : (Sink.output 1).accepts st .debug "main" "main" = false := by decide
  exact ⟨hid, ho, haccepts, hdefault,
    (accepts_controls sink sink st .debug "db" "pool").2 1 hid o ho haccepts fun h => absurd h hdefault,
    hrefuses, (accepts_controls sink (.output 1) st .debug "main" "main").1 hrefuses⟩

/-- A step more verbose takes an output from everything to fatal entries only. -/
theorem accepts_filterLess_of_always :
    let st : Store := { Store.empty with outputs := [.memory (.uniform .always) .bunyan] }
    let sink : Sink := .output 0
    sink.accepts st .info "main" "main" = true ∧
      sink.accepts (sink.filterLess st) .info "main" "main" = false := by
  decide

end Sink

end Logbook
