import Logbook.Filter.Pattern

/-!
# Rules of edited filters

The filters in use are those that edits make of the empty one (`Filter.edited`).  Their names are normalised
and no topic is without a scope (`Filter.Normal`), so their rules determine them.

## Key results

- `Filter.Normal.setTarget` / `normal_edited`: every edit keeps a filter normal
- `Filter.Normal.mem_rules`: the rules list what the filter looks up
- `Filter.rule?_setAll`: of rules for the same target the last one counts
- `Filter.setAll_rules`: a normal filter is what its rules make of the empty one
-/

namespace Logbook

/-- Targets are the same if their names are. -/
theorem Target.ext_names {s t : Target} (ht : s.topic = t.topic) (hs : s.scope = t.scope) : s = t := by
  cases s
  cases t
  cases ht
  cases hs
  rfl

namespace Filter

/-- What a caller does to a filter.  Reading a pattern starts over. -/
inductive Edit where
  | set (level : Level) (topic scope : String)
  | setDefault (level : Level)
  | parse (text : String)

/-- Make one edit. -/
def edit (f : Filter) : Edit → Filter
  | .set level topic scope => f.set level topic scope
  | .setDefault level => f.setDefault level
  | .parse text => Filter.parse text

/-- The filter that edits make of the empty one. -/
def edited (edits : List Edit) : Filter := edits.foldl edit empty

/-! ## Normal filters -/

/-- Names are normalised and no topic is without a scope. -/
structure Normal (f : Filter) : Prop where
  topic_name : ∀ topic levels, f.scopes.find? topic = some levels → Target.name topic = topic
  scope_name : ∀ topic scope level, f.rule? topic scope = some level → Target.name scope = scope
  nonempty : ∀ topic levels, f.scopes.find? topic = some levels →
    ∃ scope level, f.rule? topic scope = some level

/-- The filter without rules is normal. -/
theorem normal_empty : empty.Normal where
  topic_name _ _ h := by cases h
  scope_name _ _ _ h := by cases h
  nonempty _ _ h := by cases h

/-- Setting a rule keeps a filter normal. -/
theorem Normal.setTarget {f : Filter} (hf : f.Normal) (level : Level) (t : Target) :
    (f.setTarget level t).Normal where
  topic_name topic levels h := by
    simp only [Filter.setTarget, Fields.find?_insert] at h
    split at h
    next ht => rw [ht, t.topic_name]
    -- a topic that is new is the one of the target
    next => exact hf.topic_name topic levels h
  scope_name topic scope l h := by
    rw [rule?_setTarget] at h
    split at h
    next ht => rw [ht.2, t.scope_name]
    next => exact hf.scope_name topic scope l h
  -- a topic keeps its rules, and the new one has the rule that is set
  nonempty topic levels h := by
    by_cases ht : topic = t.topic
    · exact ⟨t.scope, level, by rw [rule?_setTarget, if_pos ⟨ht, rfl⟩]⟩
    · simp only [Filter.setTarget, Fields.find?_insert, if_neg ht] at h
      obtain ⟨scope, l, hl⟩ := hf.nonempty topic levels h
      exact ⟨scope, l, by rw [rule?_setTarget, if_neg fun h => ht h.1, hl]⟩

/-- Rules set one after another leave the filter normal. -/
theorem Normal.setAll {f : Filter} (hf : f.Normal) (rules : List (Target × Level)) :
    (f.setAll rules).Normal := by
  induction rules generalizing f with
  | nil => exact hf
  | cons r rules ih => exact ih (hf.setTarget r.2 r.1)

/-- An edit leaves the filter normal. -/
theorem Normal.edit {f : Filter} (hf : f.Normal) (e : Edit) : (f.edit e).Normal := by
  cases e with
  | set level topic scope => exact hf.setTarget level _
  | setDefault level => exact hf.setTarget level _
  | parse text => exact normal_empty.setAll _

/-- Edits lead to normal filters. -/
theorem normal_edited (edits : List Edit) : (edited edits).Normal := by
  have hrun : ∀ f : Filter, f.Normal → (edits.foldl Filter.edit f).Normal := by
    induction edits with
    | nil => exact fun _ hf => hf
    | cons e edits ih => exact fun f hf => ih _ (hf.edit e)
  exact hrun empty normal_empty

/-- Normal filters with the same rules are the same. -/
theorem Normal.ext {f g : Filter} (hf : f.Normal) (hg : g.Normal)
    (h : ∀ topic scope, f.rule? topic scope = g.rule? topic scope) : f = g := by
  -- topics without a rule are not stored, so both filters store the same ones
  have hscopes : f.scopes = g.scopes := by
    refine Fields.ext fun topic => ?_
    cases hft : f.scopes.find? topic with
    | none =>
      cases hgt : g.scopes.find? topic with
      | none => rfl
      | some levels =>
        -- a topic of `g` has a rule, which `f` then has too
        obtain ⟨scope, level, hl⟩ := hg.nonempty topic levels hgt
        rw [← h, rule?, hft] at hl
        cases hl
    | some levels =>
      cases hgt : g.scopes.find? topic with
      | none =>
        obtain ⟨scope, level, hl⟩ := hf.nonempty topic levels hft
        rw [h, rule?, hgt] at hl
        cases hl
      | some levels' =>
        have hlevels : levels = levels' := Fields.ext fun scope => by
          simpa [rule?, hft, hgt] using h topic scope
        rw [hlevels]
  cases f
  cases g
  exact congrArg Filter.mk hscopes

/-- The topics of the rules are normalised. -/
theorem Normal.topic_name_of_rule? {f : Filter} (hf : f.Normal) {topic scope : String} {level : Level}
    (h : f.rule? topic scope = some level) : Target.name topic = topic := by
  obtain ⟨levels, hlevels, _⟩ := Option.bind_eq_some_iff.1 h
  exact hf.topic_name topic levels hlevels

/-! ## Rules -/

/-- Normalised names make up their own target. -/
theorem of_eq {topic scope : String} (ht : Target.name topic = topic) (hs : Target.name scope = scope) :
    Target.of topic scope = ⟨topic, scope, ht, hs⟩ := by
  simp only [Target.of, ht, hs]

/-- The rules of a normal filter are what it looks up. -/
theorem Normal.mem_rules {f : Filter} (hf : f.Normal) {t : Target} {level : Level} :
    (t, level) ∈ f.rules ↔ f.rule? t.topic t.scope = some level := by
  constructor
  · intro h
    obtain ⟨⟨topic, levels⟩, htopic, h⟩ := List.mem_flatMap.1 h
    obtain ⟨⟨scope, l⟩, hscope, h⟩ := List.mem_map.1 h
    obtain ⟨rfl, rfl⟩ := Prod.mk.inj h
    -- the names that are stored are normalised, so the target is read back from them
    have hrule : f.rule? topic scope = some l := by
      rw [rule?, Fields.mem_toList.1 htopic]
      exact Fields.mem_toList.1 hscope
    rw [of_eq (hf.topic_name_of_rule? hrule) (hf.scope_name _ _ _ hrule)]
    exact hrule
  · intro h
    obtain ⟨levels, hlevels, hlevel⟩ := Option.bind_eq_some_iff.1 h
    refine List.mem_flatMap.2 ⟨(t.topic, levels), Fields.mem_toList.2 hlevels, ?_⟩
    refine List.mem_map.2 ⟨(t.scope, level), Fields.mem_toList.2 hlevel, ?_⟩
    simp only [of_eq t.topic_name t.scope_name]

/-- Of rules for the same target the last one counts. -/
theorem rule?_setAll (f : Filter) (rules : List (Target × Level)) (topic scope : String) :
    (f.setAll rules).rule? topic scope =
      ((rules.reverse.find? fun r => topic = r.1.topic ∧ scope = r.1.scope).map (·.2)).or
        (f.rule? topic scope) := by
  induction rules generalizing f with
  | nil => simp [setAll]
  | cons r rules ih =>
    have hstep : (f.setAll (r :: rules)) = (f.setTarget r.2 r.1).setAll rules := rfl
    rw [hstep, ih, rule?_setTarget, List.reverse_cons, List.find?_append, Option.map_or, Option.or_assoc]
    congr 1
    -- among the rules from the last to the first, `r` is looked at last
    by_cases h : topic = r.1.topic ∧ scope = r.1.scope <;> simp [h]

/-- A normal filter is what its rules make of the empty one. -/
theorem setAll_rules {f : Filter} (hf : f.Normal) : empty.setAll f.rules = f := by
  -- a filter is known by its rules, and the last rule that is set for a target is the one it has
  refine (normal_empty.setAll _).ext hf fun topic scope => ?_
  rw [rule?_setAll, rule?_empty, Option.or_none]
  cases hfind : f.rules.reverse.find? fun r => topic = r.1.topic ∧ scope = r.1.scope with
  | some r =>
    have hmem : r ∈ f.rules := List.mem_reverse.1 (List.mem_of_find?_eq_some hfind)
    obtain ⟨rfl, rfl⟩ : topic = r.1.topic ∧ scope = r.1.scope := by simpa using List.find?_some hfind
    exact (hf.mem_rules.1 hmem).symm
  | none =>
    -- no rule of the list is for the target, so the filter has none
    cases hrule : f.rule? topic scope with
    | none => rfl
    | some level =>
      -- the rule is listed, so the search does find it
      have ht := hf.topic_name_of_rule? hrule
      have hs := hf.scope_name _ _ _ hrule
      have hmem : ((⟨topic, scope, ht, hs⟩ : Target), level) ∈ f.rules := hf.mem_rules.2 hrule
      have := List.find?_eq_none.1 hfind _ (List.mem_reverse.2 hmem)
      simp at this

end Filter

end Logbook
