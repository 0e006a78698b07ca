import Logbook.Text.Blank

/-!
# Topics and scopes

A `Target` addresses a filter rule by a topic and a scope.  Each is a name or the wildcard `any`, which can
also be written as a blank or as `*` (`Target.name`).
-/

namespace Logbook

namespace Target

/-- The wildcard for topics and scopes. -/
def any : String := "any"

/-- The topic and the scope of an entry that names none. -/
def main : String := "main"

/-- A topic or scope as it is compared: trimmed, with the wildcard written out. -/
def name (s : String) : String :=
  let t := Text.trim s
  if t = "" ∨ t = "*" then any else t

/-- The wildcard has no blanks at its ends. -/
theorem trim_any : Text.trim any = any := by
  have hends : Text.trimList any.toList = any.toList := by
    refine Text.trimList_of_ends (fun c hc => ?_) fun c hc => ?_
    · obtain rfl : 'a' = c := by simpa [any] using hc
      decide
    · obtain rfl : 'y' = c := by simpa [any] using hc
      decide
  rw [Text.trim, hends, String.ofList_toList]

/-- The wildcard is compared as it is. -/
@[simp] theorem name_any : name any = any := by
  rw [name, trim_any]
  decide

/-- A blank name is the wildcard. -/
@[simp] theorem name_empty : name "" = any := by decide

/-- A name that is compared is compared as it is. -/
@[simp] theorem name_name (s : String) : name (name s) = name s := by
  by_cases h : Text.trim s = "" ∨ Text.trim s = "*"
  · have : name s = any := by simp [name, h]
    simp [this]
  · have hs : name s = Text.trim s := by simp [name, h]
    rw [hs, name, Text.trim_trim, if_neg h]

end Target

/-- A topic and a scope, both as they are compared. -/
structure Target where
  topic : String
  scope : String
  topic_name : Target.name topic = topic
  scope_name : Target.name scope = scope
deriving DecidableEq

namespace Target

def of (topic scope : String) : Target :=
  ⟨name topic, name scope, name_name topic, name_name scope⟩

@[simp] theorem topic_of (topic scope : String) : (of topic scope).topic = name topic := by rw [of]

@[simp] theorem scope_of (topic scope : String) : (of topic scope).scope = name scope := by rw [of]

/-- The target that covers everything. -/
def everything : Target := of any any

def isEverything (t : Target) : Bool := t.topic = any && t.scope = any

/-- Whether the target covers a topic and a scope. -/
def covers (t : Target) (topic scope : String) : Bool :=
  (t.topic = any || t.topic = topic) && (t.scope = any || t.scope = scope)

/-- Rank among the targets that cover the same; the lower, the more specific. -/
def specificity (t : Target) : Nat :=
  match decide (t.topic = any), decide (t.scope = any) with
  | false, false => 0
  | false, true => 1
  | true, false => 2
  | true, true => 3

/-- Targets are ordered by topic, then by scope. -/
def before (s t : Target) : Bool :=
  decide (s.topic < t.topic) || (decide (s.topic = t.topic) && decide (s.scope < t.scope))

def render (t : Target) : String := t.topic ++ ":" ++ t.scope

end Target

end Logbook
