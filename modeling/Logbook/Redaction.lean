import Logbook.Record
import Logbook.Redaction.Keys
import Logbook.Redaction.Pattern

/-!
# Redaction of records

`Record.redact` applies rules to all values of a record, at any depth.  Deferred values are computed first, so
that what they give is redacted too.  Then, for each field: a guarded value gives out what it wants and is left
alone; a field named by a key rule is masked whole; texts go through the patterns in their order; what is nested
too deeply is masked.  The fields that route the record keep their values.
-/

namespace Logbook

namespace Redaction

inductive Rule where
  | pattern (p : Pattern)
  | keys (k : Keys)

/-- The patterns of a list of rules, in order. -/
def patterns : List Rule → List Pattern
  | [] => []
  | .pattern p :: rest => p :: patterns rest
  | .keys _ :: rest => patterns rest

/-- Whether a key rule names the field. -/
def masks (rules : List Rule) (key : String) : Bool :=
  rules.any fun
    | .keys k => k.covers key
    | .pattern _ => false

/-- Apply the patterns one after another. -/
def redactText (rules : List Rule) (text : String) : String :=
  (patterns rules).foldl (fun text p => (p.redact text).1) text

/-- The fields that sinks look at to route a record. -/
def isRouting (key : String) : Bool :=
  key = Record.levelKey || key = Record.topicKey || key = Record.scopeKey

variable {m : Type → Type} [Monad m]

/-- Compute a value; if it is guarded take what it gives out, else go on with `rest`. -/
def disclosing (s : Sources m) (rest : Value → m Value) (v : Value) : m Value := do
  match ← v.resolve s with
  | .guarded source => s.disclose source
  | v => rest v

/-- Redact a field, `rest` doing so when the value is neither guarded nor masked. -/
def redactField (s : Sources m) (rules : List Rule) (rest : Value → m Value) (key : String) : Value → m Value :=
  disclosing s fun v => if masks rules key then pure (.text mask) else rest v

/-- Redact a computed value; containers may nest so deep, this one included. -/
def redactValue (s : Sources m) (rules : List Rule) : (room : Nat) → Value → m Value
  | 0, _ => pure (.text mask)
  | room + 1, v =>
    match v with
    | .text t => pure (.text (redactText rules t))
    | .array items => do
      let items ← items.mapM (disclosing s (redactValue s rules room))
      pure (.array items)
    | .record fields => do
      let fields ← fields.mapM (redactField s rules (redactValue s rules room))
      pure (.record fields)
    | v => pure v

/-- How deep containers may nest below a record. -/
def roomAtTop : Nat := Value.depthLimit + 1

end Redaction

variable {m : Type → Type} [Monad m]

/-- Apply rules to a record. -/
def Record.redact (s : Sources m) (rules : List Redaction.Rule) (r : Record) : m Record :=
  r.mapM fun key v =>
    if Redaction.isRouting key then v.resolve s
    else Redaction.redactField s rules (Redaction.redactValue s rules Redaction.roomAtTop) key v

/-- Mask the named fields at any depth. -/
def Record.redactKeys (s : Sources m) (keys : List String) (r : Record) : m Record :=
  r.redact s [.keys (.ofList keys)]

end Logbook
