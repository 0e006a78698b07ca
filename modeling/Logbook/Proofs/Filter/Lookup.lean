import Logbook.Proofs.Filter.Rules
import Mathlib.Data.List.MinMax

/-!
# Looking up a level

A filter looks a topic and a scope up in four places, from the exact pair to the default.  A search through
all rules for the most specific one that covers the topic and the scope comes to the same, in whatever order
the rules are stored, and so does a search through the history of all assignments.

## Key results

- `Target.covers_iff_mem_ladder`: the four places are the targets that cover a topic and a scope
- `Target.eq_of_covers`: of one specificity there is only one of them
- `Filter.governs_or_unset`: look-up finds the most specific rule that covers
- `Filter.level_assigned`: look-up in the words of the assignments that made the filter
-/

namespace Logbook

namespace Target

/-! ## The targets that cover a topic and a scope -/

/-- The targets that cover a topic and a scope, in the order in which filters fall back. -/
def ladder (topic scope : String) : List Target :=
  [of topic scope, of topic any, of any scope, everything]

/-- A target is the one of two names exactly if it has them, normalised. -/
theorem eq_of_iff {t : Target} {topic scope : String} :
    t = of topic scope ↔ t.topic = name topic ∧ t.scope = name scope := by
  constructor
  · rintro rfl
    exact ⟨topic_of _ _, scope_of _ _⟩
  · rintro ⟨ht, hs⟩
    exact ext_names (by rw [ht, topic_of]) (by rw [hs, scope_of])

/-- A target covers the names that are its own or meet a wildcard. -/
theorem covers_iff {t : Target} {topic scope : String} :
    t.covers topic scope = true ↔
      (t.topic = any ∨ t.topic = topic) ∧ (t.scope = any ∨ t.scope = scope) := by
  simp [covers]

/-- The targets that cover two names are the rungs of their ladder. -/
theorem covers_iff_mem_ladder {t : Target} {topic scope : String} :
    t.covers (name topic) (name scope) = true ↔ t ∈ ladder topic scope := by
  have heverything : t = everything ↔ t.topic = name any ∧ t.scope = name any := eq_of_iff
  rw [covers_iff]
  simp only [ladder, List.mem_cons, List.not_mem_nil, or_false, heverything, eq_of_iff, name_any]
  grind

/-- Of one specificity at most one target covers a topic and a scope. -/
theorem eq_of_covers {s t : Target} {topic scope : String} (hs : s.covers topic scope = true)
    (ht : t.covers topic scope = true) (h : s.specificity = t.specificity) : s = t := by
  rw [covers_iff] at hs ht
  -- the specificity tells which of the two names are wildcards
  have hwild : (s.topic = any ↔ t.topic = any) ∧ (s.scope = any ↔ t.scope = any) := by
    unfold specificity at h
    by_cases h₁ : s.topic = any <;> by_cases h₂ : s.scope = any <;>
      by_cases h₃ : t.topic = any <;> by_cases h₄ : t.scope = any <;>
        simp_all
  refine ext_names ?_ ?_
  · -- the same side is a wildcard in both, or is the name that is asked for in both
    by_cases hany : s.topic = any
    · rw [hany, hwild.1.1 hany]
    · rw [hs.1.resolve_left hany, ht.1.resolve_left (mt hwild.1.2 hany)]
  · by_cases hany : s.scope = any
    · rw [hany, hwild.2.1 hany]
    · rw [hs.2.resolve_left hany, ht.2.resolve_left (mt hwild.2.2 hany)]

/-- A target with more wildcards is less specific. -/
theorem specificity_le_of_wildcards {s t : Target} (htopic : s.topic = any → t.topic = any)
    (hscope : s.scope = any → t.scope = any) : s.specificity ≤ t.specificity := by
  unfold specificity
  by_cases h₁ : s.topic = any <;> by_cases h₂ : s.scope = any <;> simp only [h₁, h₂] at htopic hscope ⊢ <;>
    by_cases h₃ : t.topic = any <;> by_cases h₄ : t.scope = any <;> simp_all

/-- No target that covers a topic and a scope is more specific than the exact one. -/
theorem specificity_exact_le {t : Target} {topic scope : String}
    (h : t.covers (name topic) (name scope) = true) : (of topic scope).specificity ≤ t.specificity := by
  rw [covers_iff] at h
  refine specificity_le_of_wildcards (fun hany => ?_) fun hany => ?_
  · rw [topic_of] at hany
    exact h.1.elim id fun heq => heq.trans hany
  · rw [scope_of] at hany
    exact h.2.elim id fun heq => heq.trans hany

/-- No target is less specific than the one that covers everything. -/
theorem specificity_le_everything (t : Target) : t.specificity ≤ everything.specificity :=
  specificity_le_of_wildcards (fun _ => rfl) fun _ => rfl

/-- Falling back leads to less specific targets, unless it leads to the exact one again: a wildcard topic makes
it the target of any topic as well. -/
theorem pairwise_ladder (topic scope : String) : (ladder topic scope).Pairwise fun t u =>
    t.specificity ≤ u.specificity ∨ u = of topic scope := by
  -- the ladder starts with the exact target, and ends with the one that covers everything
  have hexact : ∀ u ∈ ladder topic scope, (of topic scope).specificity ≤ u.specificity :=
    fun u hu => specificity_exact_le (covers_iff_mem_ladder.2 hu)
  -- if the topic is the wildcard, the third rung is the first again
  have htopic : (of topic any).specificity ≤ (of any scope).specificity ∨
      of any scope = of topic scope := by
    by_cases h : name topic = any
    · right
      rw [eq_of_iff, topic_of, scope_of, name_any, h]
      exact ⟨rfl, rfl⟩
    · left
      unfold specificity
      by_cases hscope : name scope = any <;> simp [h, hscope]
  rw [ladder, List.pairwise_cons, List.pairwise_cons, List.pairwise_cons]
  refine ⟨fun u hu => .inl (hexact u (List.mem_cons_of_mem _ hu)), fun u hu => ?_, fun u hu => ?_,
    List.pairwise_singleton _ _⟩
  · rcases List.mem_cons.1 hu with rfl | hu
    · exact htopic
    · rw [List.mem_singleton.1 hu]
      exact .inl (specificity_le_everything _)
  · rw [List.mem_singleton.1 hu]
    exact .inl (specificity_le_everything _)

end Target

namespace Filter

/-! ## Look-up in stored rules -/

/-- The level is the one of the first rung that has a rule. -/
theorem level_eq_findSome (f : Filter) (topic scope : String) :
    f.level topic scope =
      ((Target.ladder topic scope).findSome? fun t => f.rule? t.topic t.scope).getD .unset := by
  simp [level, Target.ladder, Target.everything, List.findSome?_cons]

/-- The rule of a target settles what the filter asks of a topic and a scope: the target covers them, and no
target with a rule that covers them is more specific. -/
structure Governs (f : Filter) (topic scope : String) (t : Target) (level : Level) : Prop where
  covers : t.covers (Target.name topic) (Target.name scope) = true
  rule : f.rule? t.topic t.scope = some level
  least : ∀ u : Target, u.covers (Target.name topic) (Target.name scope) = true →
    f.rule? u.topic u.scope ≠ none → t.specificity ≤ u.specificity

/-- Look-up finds the level of the rule that governs, or else there is no rule that covers. -/
theorem governs_or_unset (f : Filter) (topic scope : String) :
    (∃ t, f.Governs topic scope t (f.level topic scope)) ∨
      f.level topic scope = .unset ∧ ∀ t : Target,
        t.covers (Target.name topic) (Target.name scope) = true → f.rule? t.topic t.scope = none := by
  rw [level_eq_findSome]
  cases hfind : (Target.ladder topic scope).findSome? fun t => f.rule? t.topic t.scope with
  | none =>
    -- no rung has a rule, and the rungs are all that cover the names
    right
    refine ⟨rfl, fun t ht => ?_⟩
    exact List.findSome?_eq_none_iff.1 hfind t (Target.covers_iff_mem_ladder.1 ht)
  | some level =>
    left
    -- the rung that is found is the first with a rule
    obtain ⟨before, t, after, hladder, hrule, hnone⟩ := List.findSome?_eq_some_iff.1 hfind
    refine ⟨t, Target.covers_iff_mem_ladder.2 (by simp [hladder]), hrule, fun u hu hne => ?_⟩
    have hpairwise := Target.pairwise_ladder topic scope
    have hmem := Target.covers_iff_mem_ladder.1 hu
    rw [hladder] at hpairwise hmem
    -- only a target that is tried later can have a rule too
    rcases List.mem_append.1 hmem with hbefore | hmem
    · exact absurd (hnone u hbefore) hne
    rcases List.mem_cons.1 hmem with rfl | hafter
    · exact Nat.le_refl _
    rcases (List.pairwise_cons.1 (List.pairwise_append.1 hpairwise).2.1).1 u hafter with hle | hexact
    · exact hle
    · -- the exact target is tried first, so it is the one that was found
      cases before with
      | nil =>
        have hhead : Target.of topic scope = t := (List.cons.inj hladder).1
        rw [hexact, hhead]
      | cons v before =>
        have hhead : Target.of topic scope = v := (List.cons.inj hladder).1
        exact absurd (hnone u (by rw [hexact, hhead]; exact List.mem_cons_self)) hne

/-- Search through rules for the most specific one that covers a topic and a scope. -/
def search (rules : List (Target × Level)) (topic scope : String) : Level :=
  (((rules.filter fun r => r.1.covers topic scope).argmin fun r => r.1.specificity).map (·.2)).getD .unset

/-- Searching through the rules of a filter, in any order, finds what look-up finds. -/
theorem Normal.search_eq_level {f : Filter} (hf : f.Normal) {stored : List (Target × Level)}
    (hstored : stored.Perm f.rules) (topic scope : String) :
    search stored (Target.name topic) (Target.name scope) = f.level topic scope := by
  -- the order in which the rules are stored does not matter
  have hmem : ∀ r : Target × Level, r ∈ stored ↔ f.rule? r.1.topic r.1.scope = some r.2 :=
    fun r => hstored.mem_iff.trans hf.mem_rules
  unfold search
  rcases f.governs_or_unset topic scope with ⟨t, ht⟩ | ⟨hlevel, hnone⟩
  · have hcandidate : (t, f.level topic scope) ∈
        stored.filter fun r => r.1.covers (Target.name topic) (Target.name scope) := by
      rw [List.mem_filter, hmem]
      exact ⟨ht.rule, ht.covers⟩
    cases hmin : (stored.filter fun r => r.1.covers (Target.name topic) (Target.name scope)).argmin
        fun r => r.1.specificity with
    -- the rule that governs is one of the candidates, so there is a most specific one
    | none => simp [List.argmin_eq_none.1 hmin] at hcandidate
    | some r =>
      obtain ⟨hr, hcovers⟩ := List.mem_filter.1 (List.argmin_mem hmin)
      rw [hmem] at hr
      -- the rule found and the one that governs are equally specific, so they have one target
      have hle : r.1.specificity ≤ t.specificity :=
        List.le_of_mem_argmin (f := fun r : Target × Level => r.1.specificity) hcandidate hmin
      have hge : t.specificity ≤ r.1.specificity := ht.least r.1 hcovers (by rw [hr]; simp)
      have htarget : r.1 = t := Target.eq_of_covers hcovers ht.covers (Nat.le_antisymm hle hge)
      have hlevel : some r.2 = some (f.level topic scope) := by rw [← hr, htarget, ht.rule]
      simpa using hlevel
  · -- without a rule that covers the names there is no candidate
    have hempty : (stored.filter fun r => r.1.covers (Target.name topic) (Target.name scope)) = [] := by
      rw [List.filter_eq_nil_iff]
      intro r hr hcovers
      rw [hmem, hnone r.1 hcovers] at hr
      cases hr
    simp [hempty, hlevel]

/-! ## Look-up in the history of assignments -/

/-- A level that a caller gives to a topic and a scope. -/
structure Assignment where
  level : Level
  topic : String
  scope : String

def Assignment.target (a : Assignment) : Target := .of a.topic a.scope

/-- The filter that assignments make of the empty one, one after another. -/
def assigned (as : List Assignment) : Filter :=
  as.foldl (fun f a => f.set a.level a.topic a.scope) empty

/-- The assignments whose targets cover a topic and a scope. -/
def covering (as : List Assignment) (topic scope : String) : List Assignment :=
  as.filter fun a => a.target.covers (Target.name topic) (Target.name scope)

/-- The assignments whose targets are the most specific ones. -/
def mostSpecific (as : List Assignment) : List Assignment :=
  as.filter fun a => as.all fun b => decide (a.target.specificity ≤ b.target.specificity)

/-- Assignments are rules that are set one after another. -/
theorem assigned_eq_setAll (as : List Assignment) :
    assigned as = empty.setAll (as.map fun a => (a.target, a.level)) := by
  rw [assigned, setAll, List.foldl_map]
  rfl

/-- What assignments make is normal. -/
theorem normal_assigned (as : List Assignment) : (assigned as).Normal := by
  rw [assigned_eq_setAll]
  exact normal_empty.setAll _

/-- The rule of a target is its last assignment. -/
theorem rule?_assigned (as : List Assignment) (t : Target) :
    (assigned as).rule? t.topic t.scope
      = ((as.filter fun a => decide (a.target = t)).getLast?).map (·.level) := by
  have heq : ∀ a : Assignment, (t.topic = a.target.topic ∧ t.scope = a.target.scope) ↔ a.target = t :=
    fun a => ⟨fun h => Target.ext_names h.1.symm h.2.symm, fun h => by simp [h]⟩
  rw [assigned_eq_setAll, rule?_setAll, rule?_empty, Option.or_none, ← List.map_reverse, List.find?_map,
    Option.map_map, ← List.head?_reverse, ← List.filter_reverse, List.head?_filter]
  simp only [Function.comp_def, heq]

/-- A target has no rule exactly if nothing was assigned to it. -/
theorem rule?_assigned_eq_none_iff {as : List Assignment} {t : Target} :
    (assigned as).rule? t.topic t.scope = none ↔ ∀ a ∈ as, a.target ≠ t := by
  rw [rule?_assigned, Option.map_eq_none_iff, List.getLast?_eq_none_iff, List.filter_eq_nil_iff]
  simp only [decide_eq_true_eq, ne_eq]

/-- The most specific assignments that cover are those of the target that governs. -/
theorem Governs.mostSpecific_covering {as : List Assignment} {topic scope : String} {t : Target} {level : Level}
    (h : (assigned as).Governs topic scope t level) :
    mostSpecific (covering as topic scope) = as.filter fun a => decide (a.target = t) := by
  -- an assignment leaves its target with a rule
  have hrule : ∀ {a}, a ∈ as → (assigned as).rule? a.target.topic a.target.scope ≠ none :=
    fun ha hnone => rule?_assigned_eq_none_iff.1 hnone _ ha rfl
  rw [mostSpecific, covering, List.filter_filter]
  refine List.filter_congr fun a ha => ?_
  rw [Bool.eq_iff_iff, Bool.and_eq_true, decide_eq_true_eq, List.all_eq_true]
  simp only [List.mem_filter, decide_eq_true_eq]
  constructor
  · rintro ⟨hleast, hcovers⟩
    -- the target that governs was assigned to, so the assignment is not less specific than it
    obtain ⟨b, hb, rfl⟩ : ∃ b ∈ as, b.target = t := by
      by_contra hnone
      have : (assigned as).rule? t.topic t.scope = none :=
        rule?_assigned_eq_none_iff.2 fun b hb heq => hnone ⟨b, hb, heq⟩
      rw [h.rule] at this
      cases this
    have hle := hleast b ⟨hb, h.covers⟩
    exact Target.eq_of_covers hcovers h.covers (Nat.le_antisymm hle (h.least _ hcovers (hrule ha)))
  · -- an assignment to the target that governs is as specific as any other that covers the names
    rintro rfl
    exact ⟨fun b hb => h.least _ hb.2 (hrule hb.1), h.covers⟩

/-- Among some assignments there is a most specific one. -/
theorem mostSpecific_eq_nil_iff {as : List Assignment} : mostSpecific as = [] ↔ as = [] := by
  refine ⟨fun h => ?_, fun h => by rw [h]; rfl⟩
  rw [← List.argmin_eq_none (f := fun a : Assignment => a.target.specificity), Option.eq_none_iff_forall_not_mem]
  intro a ha
  refine List.filter_eq_nil_iff.1 h a (List.argmin_mem ha) (List.all_eq_true.2 fun b hb => decide_eq_true ?_)
  exact List.le_of_mem_argmin (f := fun a : Assignment => a.target.specificity) hb ha

/-- Look-up finds the last one of the most specific assignments that cover. -/
theorem level_mostSpecific (as : List Assignment) (topic scope : String) :
    (assigned as).level topic scope
      = ((mostSpecific (covering as topic scope)).getLast?.map (·.level)).getD .unset := by
  rcases (assigned as).governs_or_unset topic scope with ⟨t, ht⟩ | ⟨hlevel, hnone⟩
  · rw [ht.mostSpecific_covering, ← rule?_assigned, ht.rule]
    rfl
  · -- nothing was assigned to a target that covers the names
    have hcovering : covering as topic scope = [] := List.filter_eq_nil_iff.2 fun a ha hcovers =>
      rule?_assigned_eq_none_iff.1 (hnone a.target hcovers) a ha rfl
    rw [hlevel, hcovering]
    rfl

/-- **Look-up is exhaustive matching.**  Whatever assignments make a filter, it asks of a topic and a scope the
level of the last assignment among those whose target is the most specific one that covers them, and `unset` if
no assignment covers them.  That target is unique, so searching the stored rules finds the same level in
whatever order they are stored. -/
theorem level_assigned (as : List Assignment) (topic scope : String) :
    let best := mostSpecific (covering as topic scope)
    (assigned as).level topic scope = (best.getLast?.map (·.level)).getD .unset ∧
      (best = [] ↔ covering as topic scope = []) ∧
      (∀ a ∈ best, ∀ b ∈ best, a.target = b.target) ∧
      ∀ stored, stored.Perm (assigned as).rules →
        search stored (Target.name topic) (Target.name scope) = (assigned as).level topic scope := by
  intro best
  -- the most specific of the covering targets is unique: of two that cover a probe neither is more specific
  have hcovers : ∀ {a}, a ∈ best → a.target.covers (Target.name topic) (Target.name scope) = true :=
    fun ha => (List.mem_filter.1 (List.mem_filter.1 ha).1).2
  have hunique : ∀ a ∈ best, ∀ b ∈ best, a.target = b.target := by
    intro a ha b hb
    have hle : ∀ {a b}, a ∈ best → b ∈ best → a.target.specificity ≤ b.target.specificity := by
      intro a b ha hb
      have hall := (List.mem_filter.1 ha).2
      exact of_decide_eq_true (List.all_eq_true.1 hall b (List.mem_filter.1 hb).1)
    exact Target.eq_of_covers (hcovers ha) (hcovers hb) (Nat.le_antisymm (hle ha hb) (hle hb ha))
  have hstored : ∀ stored, stored.Perm (assigned as).rules →
      search stored (Target.name topic) (Target.name scope) = (assigned as).level topic scope :=
    fun stored h => (normal_assigned as).search_eq_level h topic scope
  rcases (assigned as).governs_or_unset topic scope with ⟨t, ht⟩ | ⟨hlevel, hnone⟩
  · -- a target governs the probe, and the last assignment of it is what was stored
    have hbest : best = as.filter fun a => decide (a.target = t) := ht.mostSpecific_covering
    have hlast : best.getLast?.map (·.level) = some ((assigned as).level topic scope) := by
      rw [hbest, ← rule?_assigned, ht.rule]
    have hne : best ≠ [] := by
      rintro hnil
      rw [hnil] at hlast
      cases hlast
    refine ⟨by rw [hlast]; rfl, iff_of_false hne fun hnil => hne ?_, hunique, hstored⟩
    rw [show best = mostSpecific [] from congrArg mostSpecific hnil]
    rfl
  · -- nothing governs the probe, so nothing assigned covers it
    have hcovering : covering as topic scope = [] := by
      rw [covering, List.filter_eq_nil_iff]
      intro a ha hcovers
      exact rule?_assigned_eq_none_iff.1 (hnone a.target hcovers) a ha rfl
    have hbest : best = [] := by
      rw [show best = mostSpecific [] from congrArg mostSpecific hcovering]
      rfl
    exact ⟨by rw [hlevel, hbest]; rfl, iff_of_true hbest hcovering, hunique, hstored⟩

end Filter

end Logbook
