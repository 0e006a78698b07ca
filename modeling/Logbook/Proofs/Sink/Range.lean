import Logbook.Proofs.Sink.Verbosity

/-!
# The range of the verbosity controls

However often the controls of sinks are turned, and in whatever order, an output whose default rule was missing or from
`unset` to `fatal` does not leave this range (`Level.InRange`).  An output may be turned several times at once, where it
has several places in a sink or sinks share it.  The controls touch no rule but the default one, so entries that are
fatal stay accepted wherever the default rule decides (`Filter.FallsBack`).

## Key results

- `Output.turned_filterMore` / `Output.turned_filterLess`: one step at one output
- `Store.turned_output`: what turns of controls keep of an output
- `Store.inRange_turned`: the range of defaults, and fatal entries
-/

namespace Logbook

/-- The level is one to which the controls lead: `unset`, or from `trace` to `fatal`. -/
def Level.InRange (l : Level) : Prop := l = unset ∨ trace ≤ l ∧ l ≤ fatal

namespace Level

instance : DecidablePred InRange := fun l => inferInstanceAs (Decidable (l = unset ∨ trace ≤ l ∧ l ≤ fatal))

/-- The levels in range go from unset to fatal. -/
theorem inRange_iff : ∀ {l : Level}, l.InRange ↔ unset ≤ l ∧ l ≤ fatal := by decide

/-- One step up stays in range below fatal. -/
theorem inRange_next : ∀ {l : Level}, unset ≤ l → l < fatal → l.next.InRange := by decide

/-- One step down stays in range above trace. -/
theorem InRange.previous : ∀ {l : Level}, l.InRange → trace < l → l.previous.InRange := by decide

/-- A fatal entry passes every level in range. -/
theorem InRange.passes_fatal : ∀ {l : Level}, l.InRange → fatal.passes l = true := by decide

end Level

/-! ## One filter -/

namespace Filter

/-- No rule but the default one covers the topic and the scope. -/
def FallsBack (f : Filter) (topic scope : String) : Prop :=
  ∀ t : Target, t.covers (Target.name topic) (Target.name scope) = true → t ≠ .everything →
    f.rule? t.topic t.scope = none

/-- Where no other rule covers, the default decides. -/
theorem level_of_fallsBack {f : Filter} {topic scope : String} (h : f.FallsBack topic scope) :
    f.level topic scope = f.default := by
  have hdefault : f.default = (f.rule? Target.everything.topic Target.everything.scope).getD .unset := default_eq f
  rcases f.governs_or_unset topic scope with ⟨t, ht⟩ | ⟨hlevel, hnone⟩
  · -- the rule that governs can be no other than the default one
    obtain rfl : t = .everything := by
      by_contra hother
      have hrule := ht.rule
      rw [h t ht.covers hother] at hrule
      cases hrule
    rw [hdefault, ht.rule, Option.getD_some]
  · rw [hlevel, hdefault, hnone _ (by simp [Target.covers, Target.everything]), Option.getD_none]

/-- What a turn of a control may do to a filter: a default in range stays in range, and all other rules stay. -/
structure Turned (f f' : Filter) : Prop where
  inRange : f.default.InRange → f'.default.InRange
  rules : ∀ topic scope, ¬ (topic = Target.any ∧ scope = Target.any) → f'.rule? topic scope = f.rule? topic scope

namespace Turned

variable {f f' f'' : Filter}

/-- A filter that is not turned is turned to itself. -/
theorem refl (f : Filter) : f.Turned f := ⟨id, fun _ _ _ => rfl⟩

/-- Two turns are one. -/
theorem trans (h : f.Turned f') (h' : f'.Turned f'') : f.Turned f'' where
  inRange hdefault := h'.inRange (h.inRange hdefault)
  rules topic scope hother := (h'.rules topic scope hother).trans (h.rules topic scope hother)

/-- Setting a default that is in range is a turn. -/
theorem setDefault {l : Level} (h : f.default.InRange → l.InRange) : f.Turned (f.setDefault l) where
  inRange hdefault := by
    rw [default_setDefault]
    exact h hdefault
  rules topic scope hother := by rw [rule?_setDefault, if_neg hother]

/-- The same topics and scopes fall back to the default. -/
theorem fallsBack (h : f.Turned f') {topic scope : String} (hback : f.FallsBack topic scope) :
    f'.FallsBack topic scope := by
  intro t hcovers hother
  rw [h.rules t.topic t.scope fun hany => hother (Target.ext_names hany.1 hany.2), hback t hcovers hother]

end Turned

end Filter

/-! ## One output -/

namespace Output

/-- What turns of controls may do to an output: they change its filter, if it has one, and nothing else. -/
structure Turned (o o' : Output) : Prop where
  same : o' = { o with filter := o'.filter }
  filter : o.filter.Rel Filter.Turned o'.filter

namespace Turned

variable {o o' o'' : Output}

/-- An output that is not turned is turned to itself. -/
theorem refl (o : Output) : o.Turned o where
  same := rfl
  filter := by
    cases o.filter with
    | none => exact .none
    | some f => exact .some (.refl f)

/-- Two turns of an output are one. -/
theorem trans (h : o.Turned o') (h' : o'.Turned o'') : o.Turned o'' where
  same := by rw [h'.same, h.same]
  filter := by
    obtain ⟨_, filter, _, _⟩ := o
    obtain ⟨_, filter', _, _⟩ := o'
    obtain ⟨_, filter'', _, _⟩ := o''
    rcases h.filter with hf | _
    · rcases h'.filter with hf' | _
      exact .some (hf.trans hf')
    · exact h'.filter

/-- Setting the default of an output within the range is a turn. -/
theorem setDefault {l : Level} (h : (o.filterLevel Target.any Target.any).InRange → l.InRange) :
    o.Turned (o.setDefault l) := by
  obtain ⟨name, filter, layout, medium⟩ := o
  cases filter with
  | none => exact refl _
  | some f => exact ⟨rfl, .some (.setDefault h)⟩

end Turned

/-- Less output is a turn. -/
theorem turned_filterMore (o : Output) : o.Turned o.filterMore := by
  rw [filterMore]
  split
  next hrange => exact .setDefault fun _ => Level.inRange_next hrange.1 hrange.2
  next => exact .refl o

/-- More output is a turn. -/
theorem turned_filterLess (o : Output) : o.Turned o.filterLess := by
  rw [filterLess]
  split
  next hrange => exact .setDefault fun hdefault => hdefault.previous hrange
  next => exact .refl o

end Output

/-! ## Turns of controls -/

/-- A control of a sink. -/
inductive Control where
  | more
  | less

/-- A control that is turned by one step, at some sink. -/
structure Turn where
  control : Control
  sink : Sink

namespace Store

/-- Turn a control by one step. -/
def turn (st : Store) (t : Turn) : Store :=
  match t.control with
  | .more => t.sink.filterMore st
  | .less => t.sink.filterLess st

/-- Turn controls one after another. -/
def turned (st : Store) (turns : List Turn) : Store := turns.foldl turn st

variable {st : Store} {id : Nat} {o : Output}

/-- One turn turns each output. -/
theorem turn_output (ho : o ∈ st.output? id) (t : Turn) : ∃ o' ∈ (st.turn t).output? id, o.Turned o' := by
  obtain ⟨control, sink⟩ := t
  cases control with
  | more => exact Sink.exists_of_modify (fun o' h => h.trans o'.turned_filterMore) sink ho (.refl o)
  | less => exact Sink.exists_of_modify (fun o' h => h.trans o'.turned_filterLess) sink ho (.refl o)

/-- What one turn keeps, any number of them keeps. -/
theorem turned_output (ho : o ∈ st.output? id) (turns : List Turn) :
    ∃ o' ∈ (st.turned turns).output? id, o.Turned o' := by
  induction turns generalizing st o with
  | nil => exact ⟨o, ho, .refl o⟩
  | cons t turns ih =>
    obtain ⟨o', ho', hfirst⟩ := turn_output ho t
    obtain ⟨o'', ho'', hothers⟩ := ih ho'
    exact ⟨o'', ho'', hfirst.trans hothers⟩

/-- **The verbosity controls stay in range.**  Whatever controls are turned, at whatever sinks over the outputs and in
whatever order, an output whose default rule was missing or from `unset` to `fatal` has a default from `trace` to
`fatal` afterwards, or still none.  Its other rules are the same, and no new ones have come.  Wherever a topic and a
scope are left to the default rule, the output accepts fatal entries. -/
theorem inRange_turned (turns : List Turn) {f : Filter} (ho : st.output? id = some o) (hf : o.filter = some f)
    (hdefault : ∀ l, f.rule? Target.any Target.any = some l → .unset ≤ l ∧ l ≤ .fatal) :
    ∃ f' : Filter, (st.turned turns).output? id = some { o with filter := some f' } ∧
      (f'.default = .unset ∨ .trace ≤ f'.default ∧ f'.default ≤ .fatal) ∧
      (∀ topic scope, ¬ (topic = Target.any ∧ scope = Target.any) → f'.rule? topic scope = f.rule? topic scope) ∧
      ∀ topic scope, f.FallsBack topic scope →
        ({ o with filter := some f' } : Output).accepts .fatal topic scope = true := by
  -- a default that is not set is unset, which is in range
  have hrange : f.default.InRange := by
    rw [Filter.default_eq, Level.inRange_iff]
    cases hrule : f.rule? Target.any Target.any with
    | none => decide
    | some l => exact hdefault l hrule
  obtain ⟨o', ho', hsame, hfilter⟩ := turned_output ho turns
  rw [hf] at hfilter
  generalize hf' : o'.filter = filter' at hfilter hsame
  cases hfilter with
  | @some _ f' hturned =>
    refine ⟨f', hsame ▸ ho', hturned.inRange hrange, hturned.rules, fun topic scope hback => ?_⟩
    show Level.fatal.passes (f'.level topic scope) = true
    rw [Filter.level_of_fallsBack (hturned.fallsBack hback)]
    exact (hturned.inRange hrange).passes_fatal

/-- An output in two places of a fan, turned up to its limit and back, next to one that has no default. -/
theorem inRange_turned_shared :
    let f := (Filter.uniform .warn).set .debug "db" "*"
    let st : Store := { Store.empty with outputs := [.memory f .bunyan, .memory .empty .bunyan] }
    let sink : Sink := .fan [.output 0, .fan [.output 0, .output 1]]
    let turns : List Turn := [⟨.more, sink⟩, ⟨.more, .output 1⟩, ⟨.more, sink⟩, ⟨.less, sink⟩, ⟨.more, .output 0⟩]
    (∀ l, f.rule? Target.any Target.any = some l → .unset ≤ l ∧ l ≤ .fatal) ∧ f.FallsBack "main" "main" ∧
      ∃ f' : Filter, (st.turned turns).output? 0 = some { Output.memory f .bunyan with filter := some f' } ∧
        (f'.default = .unset ∨ .trace ≤ f'.default ∧ f'.default ≤ .fatal) ∧
        f'.rule? "db" Target.any = some .debug ∧
        ({ Output.memory f .bunyan with filter := some f' } : Output).accepts .fatal "main" "main" = true := by
  intro f st sink turns
  have hdefault : ∀ l, f.rule? Target.any Target.any = some l → .unset ≤ l ∧ l ≤ .fatal := by
    intro l hl
    obtain rfl : Level.warn = l := Option.some.inj hl
    decide
  -- of the four targets that cover the probe only the last has a rule
  have hback : f.FallsBack "main" "main" := by
    intro t hcovers hother
    rw [Target.covers_iff_mem_ladder] at hcovers
    simp only [Target.ladder, List.mem_cons, List.not_mem_nil, or_false] at hcovers
    rcases hcovers with rfl | rfl | rfl | rfl
    · decide
    · decide
    · decide
    · exact absurd rfl hother
  have ho : st.output? 0 = some (.memory f .bunyan) := rfl
  -- the turns reach the output, so its default stays in range
  obtain ⟨f', houtput, hrange, hrules, hfatal⟩ := inRange_turned turns ho rfl hdefault
  refine ⟨hdefault, hback, f', houtput, hrange, ?_, hfatal _ _ hback⟩
  rw [hrules _ _ (by decide)]
  decide

end Store

end Logbook
