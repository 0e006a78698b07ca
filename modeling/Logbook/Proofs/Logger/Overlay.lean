import Logbook.Proofs.Logger.Building
import Logbook.Proofs.Sink.Verbosity

/-!
# Building over a given sink

A builder that is given a sink sets the rules of its filter at every output of the sink, one rule after another and once
for each place of the output.  Setting a rule twice is setting it once, so each output ends up with its own rules and
the given ones over them (`Filter.overlaid`), however often it occurs.  The patterns are read before that.  So a builder
with a pattern that cannot be used leaves the world as it was.

## Key results

- `Filter.rule?_overlaid`: what a filter holds with the rules of another one over it
- `Sink.output?_setRules`: what setting the rules of a filter makes of the outputs
- `Builder.patternRules_eq_error_iff`: reading patterns fails with the fault of the first that cannot be used
- `Builder.build_withSink`: building over a given sink is all or nothing
-/

namespace Logbook

/-! ## One filter over another -/

/-- The value that is inserted last stays. -/
theorem Fields.insert_insert {α : Type} (f : Fields α none) (key : String) (v w : α) :
    (f.insert key v).insert key w = f.insert key w :=
  Fields.ext fun k => by
    rw [find?_insert, find?_insert, find?_insert]
    split <;> rfl

/-- A target is made of its own names. -/
theorem Target.of_topic_scope (t : Target) : of t.topic t.scope = t :=
  ext_names (by rw [topic_of, t.topic_name]) (by rw [scope_of, t.scope_name])

namespace Filter

/-- Setting a rule again changes nothing. -/
theorem setTarget_setTarget (f : Filter) (level : Level) (t : Target) :
    (f.setTarget level t).setTarget level t = f.setTarget level t := by
  simp only [setTarget, Fields.find?_insert, if_true, Option.getD_some, Fields.insert_insert]

/-- The filter with the rules of another one over its own, if there is another one. -/
def overlaid (f : Filter) : Option Filter → Filter
  | none => f
  | some g => f.setAll g.rules

/-- The rules of a normal filter come first, and where it has none the others stand as they were. -/
theorem Normal.rule?_setAll {g : Filter} (hg : g.Normal) (f : Filter) (topic scope : String) :
    (f.setAll g.rules).rule? topic scope = (g.rule? topic scope).or (f.rule? topic scope) := by
  -- set over the empty filter, the rules give what the filter looks up itself
  have hown := congrArg (fun f => f.rule? topic scope) (setAll_rules hg)
  simp only [Filter.rule?_setAll, rule?_empty, Option.or_none] at hown
  rw [Filter.rule?_setAll, hown]

/-- A rule of the upper filter comes first. -/
theorem rule?_overlaid {upper : Option Filter} (hnormal : ∀ g ∈ upper, g.Normal) (f : Filter)
    (topic scope : String) :
    (f.overlaid upper).rule? topic scope
      = (upper.bind fun g => g.rule? topic scope).or (f.rule? topic scope) := by
  cases upper with
  | none => rfl
  | some g => exact (hnormal g rfl).rule?_setAll f topic scope

end Filter

/-! ## Rules set at a sink -/

namespace Output

/-- Setting a level again changes nothing. -/
theorem setLevel_setLevel (o : Output) (level : Level) (topic scope : String) :
    (o.setLevel level topic scope).setLevel level topic scope = o.setLevel level topic scope := by
  obtain ⟨name, filter, layout, medium⟩ := o
  cases filter with
  | none => rfl
  | some f =>
    simp only [setLevel, Option.map_some, Filter.set, Filter.setTarget_setTarget]

/-- The output with the rules of a filter over its own. -/
def overlaid (o : Output) (upper : Option Filter) : Output :=
  { o with filter := o.filter.map fun f => f.overlaid upper }

/-- Without an upper filter nothing changes. -/
theorem overlaid_none (o : Output) : o.overlaid none = o := by
  have hsame : (fun f : Filter => f.overlaid none) = id := rfl
  rw [overlaid, hsame, Option.map_id_fun, id]

/-- Setting rules one after another is setting them all. -/
theorem foldl_setLevel (o : Output) (rules : List (Target × Level)) :
    rules.foldl (fun o r => o.setLevel r.2 r.1.topic r.1.scope) o
      = { o with filter := o.filter.map fun f => f.setAll rules } := by
  -- by induction on the rules, with the output as those in front of them leave it
  induction rules generalizing o with
  | nil =>
    have hsame : (fun f : Filter => f.setAll []) = id := rfl
    rw [List.foldl_nil, hsame, Option.map_id_fun, id]
  | cons r rules ih =>
    rw [List.foldl_cons, ih, setLevel, Option.map_map]
    have hstep : ((fun f : Filter => f.setAll rules) ∘ fun f : Filter => f.set r.2 r.1.topic r.1.scope)
        = fun f : Filter => f.setAll (r :: rules) := by
      funext f
      rw [Function.comp_apply, Filter.set, Target.of_topic_scope]
      rfl
    rw [hstep]

end Output

namespace Sink

/-- A rule is set at every output of the sink, as if the output occurred once. -/
theorem output?_setLevel (sink : Sink) (level : Level) (topic scope : String) (st : Store) (id : Nat) :
    (sink.setLevel level topic scope st).output? id
      = (st.output? id).map fun o => if id ∈ sink.outputs then o.setLevel level topic scope else o := by
  rw [setLevel, output?_modify]
  congr 1
  funext o
  split
  next hid =>
    -- however often the output is one of the sink, the level is set to the same
    obtain ⟨n, hn⟩ := Nat.exists_eq_add_one_of_ne_zero (Nat.ne_of_gt (List.count_pos_iff.2 hid))
    rw [hn, Function.iterate_succ_apply]
    exact Function.iterate_fixed (o.setLevel_setLevel level topic scope) n
  next hid => rw [List.count_eq_zero_of_not_mem hid, Function.iterate_zero_apply]

/-- Each output of the sink gets the rules of the filter over its own, and the others stay as they are. -/
theorem output?_setRules (sink : Sink) (g : Filter) (st : Store) (id : Nat) :
    (sink.setRules g st).output? id
      = (st.output? id).map fun o => if id ∈ sink.outputs then o.overlaid (some g) else o := by
  have hfold : ∀ (rules : List (Target × Level)) (st : Store),
      (rules.foldl (fun st r => sink.setLevel r.2 r.1.topic r.1.scope st) st).output? id
        = (st.output? id).map fun o =>
            if id ∈ sink.outputs then rules.foldl (fun o r => o.setLevel r.2 r.1.topic r.1.scope) o else o := by
    -- rule by rule, each of which is set on all outputs of the sink
    intro rules
    induction rules with
    | nil => intro st; simp
    | cons r rules ih =>
      intro st
      rw [List.foldl_cons, ih, output?_setLevel, Option.map_map]
      congr 1
      funext o
      by_cases hid : id ∈ sink.outputs <;> simp [hid]
  rw [setRules, hfold]
  simp only [Output.foldl_setLevel]
  rfl

end Sink

/-! ## Patterns that cannot be used -/

namespace Builder

/-- Why the source of a pattern is refused: it is no regular expression, or it matches the mask. -/
inductive Refused (source : String) : Error → Prop where
  | malformed (h : Regex.parse? source = none) : Refused source (.invalidPattern source .malformed)
  | matchesMask {regex : Regex} (h : Regex.parse? source = some regex)
      (hmatch : regex.isMatch Redaction.mask.toList.toArray = true) :
      Refused source (.invalidPattern source (.matchesMarker Redaction.mask))

/-- A source is refused because it is malformed or because it matches the mask. -/
theorem parse_eq_error_iff {source : String} {e : Error} :
    Redaction.Pattern.parse source Redaction.mask = .error e ↔ Refused source e := by
  rw [Redaction.Pattern.parse]
  cases hparse : Regex.parse? source with
  | none =>
    -- a text that is no expression is refused as such
    constructor
    · rintro ⟨⟩
      exact .malformed hparse
    · rintro (_ | ⟨h, -⟩)
      · rfl
      · rw [hparse] at h
        cases h
  | some regex =>
    dsimp only
    rw [Redaction.Pattern.ofRegex]
    constructor
    · -- an expression is refused only if it matches the mask
      intro h
      split at h
      next hmatch =>
        cases h
        exact .matchesMask hparse hmatch
      next => cases h
    · rintro (h | ⟨h, hmatch⟩)
      · rw [hparse] at h
        cases h
      · rw [hparse] at h
        cases h
        rw [if_pos hmatch]

/-- The first source that is refused, and why. -/
def FirstRefused (sources : List String) (e : Error) : Prop :=
  ∃ before source after, sources = before ++ source :: after ∧ (∀ p ∈ before, ∀ e, ¬ Refused p e) ∧ Refused source e

/-- A source that is refused is the first. -/
theorem firstRefused_cons_of_refused {source : String} {e : Error} (h : Refused source e) (sources : List String)
    {e' : Error} : FirstRefused (source :: sources) e' ↔ e' = e := by
  constructor
  · rintro ⟨before, source', after, hsources, hbefore, hrefused⟩
    -- if there were sources in front, the refused one would be among those that are not
    cases before with
    | nil =>
      obtain ⟨rfl, -⟩ := List.cons.inj hsources
      rw [← parse_eq_error_iff] at h hrefused
      exact Except.error.inj (hrefused.symm.trans h)
    | cons p before =>
      obtain ⟨rfl, -⟩ := List.cons.inj hsources
      exact absurd h (hbefore source List.mem_cons_self e)
  · rintro rfl
    exact ⟨[], source, sources, rfl, nofun, h⟩

/-- A source that is not refused is not the first. -/
theorem firstRefused_cons_of_not_refused {source : String} (h : ∀ e, ¬ Refused source e) (sources : List String)
    {e : Error} : FirstRefused (source :: sources) e ↔ FirstRefused sources e := by
  constructor
  · rintro ⟨before, source', after, hsources, hbefore, hrefused⟩
    cases before with
    | nil =>
      obtain ⟨rfl, -⟩ := List.cons.inj hsources
      exact absurd hrefused (h e)
    | cons p before =>
      obtain ⟨-, hrest⟩ := List.cons.inj hsources
      exact ⟨before, source', after, hrest, (List.forall_mem_cons.1 hbefore).2, hrefused⟩
  · rintro ⟨before, source', after, rfl, hbefore, hrefused⟩
    exact ⟨source :: before, source', after, rfl, List.forall_mem_cons.2 ⟨h, hbefore⟩, hrefused⟩

/-- Reading the patterns fails with the fault of the first that is refused, and only then. -/
theorem patternRules_eq_error_iff {b : Builder} {e : Error} :
    b.patternRules = .error e ↔ FirstRefused b.patterns e := by
  rw [patternRules]
  -- by induction on the sources: the first error ends the list
  induction b.patterns with
  | nil =>
    constructor
    · rintro ⟨⟩
    · rintro ⟨before, source, after, hsources, -, -⟩
      simp at hsources
  | cons source sources ih =>
    rw [List.mapM_cons]
    cases hparse : Redaction.Pattern.parse source Redaction.mask with
    | error e' =>
      rw [firstRefused_cons_of_refused (parse_eq_error_iff.1 hparse)]
      exact ⟨fun h => (Except.error.inj h).symm, fun h => h ▸ rfl⟩
    | ok p =>
      have husable : ∀ e, ¬ Refused source e := by
        intro e he
        rw [parse_eq_error_iff.2 he] at hparse
        cases hparse
      rw [firstRefused_cons_of_not_refused husable, ← ih]
      cases sources.mapM fun p => (Redaction.Pattern.parse p Redaction.mask).map Redaction.Rule.pattern with
      | error e' => rfl
      | ok rules => exact iff_of_false (by rintro ⟨⟩) (by rintro ⟨⟩)

/-- Some source is refused exactly if there is a first one. -/
theorem exists_firstRefused_iff {sources : List String} :
    (∃ e, FirstRefused sources e) ↔ ∃ source ∈ sources, ∃ e, Refused source e := by
  constructor
  · rintro ⟨e, before, source, after, rfl, -, hrefused⟩
    exact ⟨source, by simp, e, hrefused⟩
  · rintro ⟨source, hsource, e, hrefused⟩
    -- by induction on the sources: the first is refused, or the others hold the first that is
    induction sources with
    | nil => cases hsource
    | cons first sources ih =>
      by_cases hfirst : ∃ e, Refused first e
      · obtain ⟨e, he⟩ := hfirst
        exact ⟨e, (firstRefused_cons_of_refused he sources).2 rfl⟩
      · have husable : ∀ e, ¬ Refused first e := fun e he => hfirst ⟨e, he⟩
        rcases List.mem_cons.1 hsource with rfl | hsource
        · exact absurd hrefused (husable e)
        · obtain ⟨e, he⟩ := ih hsource
          exact ⟨e, (firstRefused_cons_of_not_refused husable sources).2 he⟩

/-! ## Building -/

variable {σ : Type}

/-- A builder that cannot use a pattern does nothing else. -/
theorem build_of_refused {b : Builder} {e : Error} (h : FirstRefused b.patterns e) (s : Suppliers σ) (host : Host)
    (w : World σ) : b.build s host w = (.error e, w) := by
  rw [build, patternRules_eq_error_iff.2 h]
  rfl

/-- A builder that is given a sink, and can use all patterns, builds a logger over it, and sets its rules there. -/
theorem build_of_sink {b : Builder} {sink : Sink} (hsink : b.sink = some sink)
    (h : ∀ e, ¬ FirstRefused b.patterns e) (s : Suppliers σ) (host : Host) (w : World σ) :
    ∃ l, (b.build s host w).1 = .ok l ∧ l.sink = sink ∧ ∀ id, (b.build s host w).2.store.output? id
      = (w.store.output? id).map fun o => if id ∈ sink.outputs then o.overlaid b.filter else o := by
  cases hpatterns : b.patternRules with
  | error e => exact absurd (patternRules_eq_error_iff.1 hpatterns) (h e)
  | ok rules =>
    -- the sink is given, so preparing it only sets its levels
    have hprepared : b.prepareSink w.store = (.ok sink, b.filter.elim w.store fun g => sink.setRules g w.store) := by
      rw [prepareSink, hsink]
    rw [build_of_patternRules hpatterns, hprepared]
    refine ⟨_, rfl, rfl, fun id => ?_⟩
    show (b.filter.elim w.store fun g => sink.setRules g w.store).output? id = _
    cases b.filter with
    | none => simp [Output.overlaid_none]
    | some g => exact sink.output?_setRules g w.store id

/-- **Building over a given sink is all or nothing.**  Whatever edits have led to the filter of the builder, if it has
one, building fails exactly if some pattern is no regular expression or matches the mask.  The error is then that of the
first such pattern, and nothing in the world has changed.  Otherwise there is a logger over the sink.  Each output of
the sink now holds the rules of the filter, and its own where the filter has none, and all other outputs are as before.
So it asks of a topic and a scope what the most specific of these rules says. -/
theorem build_withSink (s : Suppliers σ) (host : Host) (b : Builder) (sink : Sink)
    (levels : Option (List Filter.Edit)) (w : World σ) :
    let upper := levels.map Filter.edited
    let built := { b with sink := some sink, filter := upper }.build s host w
    ((∃ e, built.1 = .error e) ↔ ∃ source ∈ b.patterns, ∃ e, Refused source e) ∧
    (∀ e, built.1 = .error e → FirstRefused b.patterns e ∧ built.2 = w) ∧
    ∀ l, built.1 = .ok l → l.sink = sink ∧
      (∀ id, built.2.store.output? id
        = (w.store.output? id).map fun o => if id ∈ sink.outputs then o.overlaid upper else o) ∧
      ∀ old : Filter, let new := old.overlaid upper
        (∀ topic scope, new.rule? topic scope
          = (upper.bind fun g => g.rule? topic scope).or (old.rule? topic scope)) ∧
        ∀ topic scope, (∃ t, new.Governs topic scope t (new.level topic scope)) ∨
          new.level topic scope = .unset ∧ ∀ t : Target,
            t.covers (Target.name topic) (Target.name scope) = true → new.rule? t.topic t.scope = none := by
  intro upper built
  let given : Builder := { b with sink := some sink, filter := upper }
  have hnormal : ∀ g ∈ upper, g.Normal := by
    intro g hg
    obtain ⟨edits, -, rfl⟩ := Option.mem_map.1 hg
    exact Filter.normal_edited edits
  -- a refused pattern ends the build before the sink is touched
  by_cases hrefused : ∃ e, FirstRefused b.patterns e
  · obtain ⟨e, he⟩ := hrefused
    have hbuilt : built = (.error e, w) := build_of_refused (b := given) he s host w
    rw [hbuilt]
    refine ⟨iff_of_true ⟨e, rfl⟩ (exists_firstRefused_iff.1 ⟨e, he⟩), ?_, nofun⟩
    rintro e' ⟨⟩
    exact ⟨he, rfl⟩
  · -- no pattern is refused, and the sink is overlaid
    have hgiven : given.sink = some sink := rfl
    obtain ⟨l, hl, hsink, houtputs⟩ := build_of_sink hgiven (fun e he => hrefused ⟨e, he⟩) s host w
    have hok : built.1 = .ok l := hl
    refine ⟨iff_of_false ?_ (mt exists_firstRefused_iff.2 hrefused), ?_, ?_⟩
    · rintro ⟨e, he⟩
      cases hok.symm.trans he
    · intro e he
      cases hok.symm.trans he
    · -- a build gives one logger
      intro l' hl'
      obtain rfl : l = l' := Except.ok.inj (hok.symm.trans hl')
      exact ⟨hsink, houtputs, fun old => ⟨Filter.rule?_overlaid hnormal old, (old.overlaid upper).governs_or_unset⟩⟩

/-- An output in two places of the sink, once behind a logger: with a pattern that can be used it gets the rules, and
with a second one that matches the mask nothing happens. -/
theorem build_withSink_shared :
    let s : Suppliers Unit := ⟨fun _ => pure .null, fun _ => pure .null⟩
    let host : Host := ⟨"host", 1, 0⟩
    let old := (Filter.uniform .warn).set .debug "db" "*"
    let w : World Unit := ⟨(), { Store.empty with outputs := [.memory old .bunyan] }⟩
    let sink : Sink := .fan [.output 0, .through (Chain.root s host "inner" .empty [] ()).1 (.output 0)]
    let b := (named "svc").withPattern "b"
    let upper := Filter.edited [.setDefault .error, .set .trace "auth" "login"]
    let given (b : Builder) : Builder := { b with sink := some sink, filter := some upper }
    let new := old.overlaid (some upper)
    (∃ l w', (given b).build s host w = (.ok l, w') ∧ w'.store.output? 0 = some (.memory new .bunyan)) ∧
      new.level "auth" "login" = .trace ∧ new.level "db" "pool" = .debug ∧ new.level "main" "main" = .error ∧
      (given (b.withPattern "A")).build s host w
        = (.error (.invalidPattern "A" (.matchesMarker Redaction.mask)), w) := by
  intro s host old w sink b upper given new
  let levels : Option (List Filter.Edit) := some [.setDefault .error, .set .trace "auth" "login"]
  obtain ⟨hfails, -, hbuilds⟩ := build_withSink s host b sink levels w
  -- the one pattern is read
  have husable : ∀ source ∈ b.patterns, ∀ e, ¬ Refused source e := by
    intro source hsource e he
    obtain rfl := List.mem_singleton.1 hsource
    have hparse : Redaction.Pattern.parse "b" Redaction.mask = .ok letterB := rfl
    rw [parse_eq_error_iff.2 he] at hparse
    cases hparse
  refine ⟨?_, by decide, by decide, by decide, ?_⟩
  · -- with the pattern that is read the build succeeds
    cases hbuilt : (given b).build s host w with
    | mk built w' =>
      cases built with
      | error e =>
        obtain ⟨source, hsource, e', he'⟩ := hfails.1 ⟨e, congrArg Prod.fst hbuilt⟩
        exact absurd he' (husable source hsource e')
      | ok l =>
        obtain ⟨-, houtputs, -⟩ := hbuilds l (congrArg Prod.fst hbuilt)
        refine ⟨l, w', rfl, ?_⟩
        rw [← show ((given b).build s host w).2 = w' from congrArg Prod.snd hbuilt]
        exact houtputs 0
  · -- with a pattern that matches the mask it does not
    have hrefused : Refused "A" (.invalidPattern "A" (.matchesMarker Redaction.mask)) :=
      parse_eq_error_iff.1 rfl
    have hfirst : FirstRefused (b.withPattern "A").patterns (.invalidPattern "A" (.matchesMarker Redaction.mask)) :=
      ⟨["b"], "A", [], rfl, husable, hrefused⟩
    exact build_of_refused hfirst s host w

end Builder

end Logbook
