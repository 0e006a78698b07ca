import Logbook.Fields
import Logbook.Level
import Logbook.Target

/-!
# Level filters

A `Filter` holds a level for each of some targets.  What it asks of an entry is the level of the most
specific target that covers the entry's topic and scope (`Filter.level`): the exact pair, then the topic with
any scope, then the scope with any topic, then the default.  Without a rule that covers it, the answer is
`unset`.

Interface lemmas: `rule?_set` says that setting a rule changes that rule alone.
-/

namespace Logbook

/-- Levels by topic and scope. -/
structure Filter where
  scopes : Fields (Fields Level none) none

namespace Filter

def empty : Filter := ⟨.nil⟩

instance : Inhabited Filter := ⟨empty⟩

/-- The rule at exactly this topic and scope, both as they are compared. -/
def rule? (f : Filter) (topic scope : String) : Option Level :=
  (f.scopes.find? topic).bind fun levels => levels.find? scope

/-- Add or replace the rule of a target. -/
def setTarget (f : Filter) (level : Level) (t : Target) : Filter :=
  ⟨f.scopes.insert t.topic (((f.scopes.find? t.topic).getD .nil).insert t.scope level)⟩

/-- Add or replace the rule of a topic and a scope. -/
def set (f : Filter) (level : Level) (topic scope : String) : Filter :=
  f.setTarget level (.of topic scope)

def setDefault (f : Filter) (level : Level) : Filter := f.set level Target.any Target.any

/-- The filter that asks the same level of everything. -/
def uniform (level : Level) : Filter := empty.setDefault level

/-- What the filter asks of entries of a topic and a scope. -/
def level (f : Filter) (topic scope : String) : Level :=
  let topic := Target.name topic
  let scope := Target.name scope
  [(topic, scope), (topic, Target.any), (Target.any, scope), (Target.any, Target.any)].findSome?
    (fun key => f.rule? key.1 key.2) |>.getD .unset

def default (f : Filter) : Level := f.level Target.any Target.any

def accepts (f : Filter) (level : Level) (topic scope : String) : Bool :=
  level.passes (f.level topic scope)

/-- All rules in the order of their targets. -/
def rules (f : Filter) : List (Target × Level) :=
  f.scopes.toList.flatMap fun (topic, levels) =>
    levels.toList.map fun (scope, level) => (Target.of topic scope, level)

def isEmpty (f : Filter) : Bool := f.rules.isEmpty

/-- Set rules one after another. -/
def setAll (f : Filter) (rules : List (Target × Level)) : Filter :=
  rules.foldl (fun f r => f.setTarget r.2 r.1) f

instance : BEq Filter := ⟨fun f g => f.rules == g.rules⟩

@[simp] theorem rule?_empty (topic scope : String) : empty.rule? topic scope = none := rfl

/-- The rule of a target is the one that was set last, and the others are as before. -/
theorem rule?_setTarget (f : Filter) (level : Level) (t : Target) (topic scope : String) :
    (f.setTarget level t).rule? topic scope
      = if topic = t.topic ∧ scope = t.scope then some level else f.rule? topic scope := by
  unfold rule? setTarget
  rw [Fields.find?_insert]
  by_cases ht : topic = t.topic
  · subst ht
    by_cases hs : scope = t.scope
    · simp [hs]
    · cases h : f.scopes.find? t.topic <;> simp [hs]
  · simp [ht]

/-- Setting a rule changes that rule alone. -/
theorem rule?_set (f : Filter) (level : Level) (topic scope t s : String) :
    (f.set level topic scope).rule? t s
      = if t = Target.name topic ∧ s = Target.name scope then some level else f.rule? t s := by
  rw [set, rule?_setTarget, Target.topic_of, Target.scope_of]

end Filter

end Logbook
