import Logbook.Filter
import Logbook.Text.Split

/-!
# Filter patterns

A filter is written as clauses with `;` between them:

* `INFO` sets the default,
* `DEBUG:{auth}` sets every scope of a topic,
* `TRACE:{auth:login,logout}` sets the scopes of a topic that are listed,
* `WARN:{:cache}` sets a scope of every topic.

Reading a pattern gives the assignments it makes in order (`Filter.assignments`), and the filter is what
they leave; a blank pattern asks for `info`.  Writing a filter (`Filter.render`) gives one clause per rule.
-/

namespace Logbook.Filter

/-- The names of a clause are trimmed and compared like those of any target. -/
def targetOf (topic scope : List Char) : Target := .of (String.ofList topic) (String.ofList scope)

/-- Take a brace off each end, where there is one. -/
def unbrace (cs : List Char) : List Char :=
  let cs := if cs.head? = some '\x7b' then cs.drop 1 else cs
  if cs.getLast? = some '\x7d' then cs.dropLast else cs

/-- The targets written behind the level of a clause. -/
def targets (text : List Char) : List Target :=
  let text := unbrace (Text.trimList text)
  match Text.splitOnce? ':' text with
  | none => [targetOf text Target.any.toList]
  | some (topic, scopes) =>
    if Text.isBlankList scopes then [targetOf topic Target.any.toList]
    else (Text.split ',' scopes).map fun scope => targetOf topic scope

/-- The rules that one clause sets. -/
def clause (text : List Char) : List (Target × Level) :=
  match Text.splitOnce? ':' text with
  | none => [(.everything, Level.ofName (String.ofList text))]
  | some (name, rest) =>
    (targets rest).map fun t => (t, Level.ofName (String.ofList name))

/-- The clauses of a pattern, trimmed; empty ones do not count. -/
def clauses (text : List Char) : List (List Char) :=
  ((Text.split ';' text).map Text.trimList).filter fun c => !c.isEmpty

/-- The rules that a pattern sets, in order. -/
def assignments (text : List Char) : List (Target × Level) :=
  if Text.isBlankList text then [(.everything, .info)] else (clauses text).flatMap clause

/-- The filter a pattern describes. -/
def parse (text : String) : Filter := empty.setAll (assignments text.toList)

/-- One rule as a clause. -/
def renderRule (t : Target) (level : Level) : String :=
  match decide (t.topic = Target.any), decide (t.scope = Target.any) with
  | true, true => level.name
  | false, true => level.name ++ ":\x7b" ++ t.topic ++ "\x7d"
  | true, false => level.name ++ ":\x7b:" ++ t.scope ++ "\x7d"
  | false, false => level.name ++ ":\x7b" ++ t.topic ++ ":" ++ t.scope ++ "\x7d"

/-- The filter as a pattern, one clause per rule. -/
def render (f : Filter) : String :=
  ";".intercalate (f.rules.map fun r => renderRule r.1 r.2)

end Logbook.Filter
