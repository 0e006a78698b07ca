import Logbook.Proofs.Session

/-!
# Journals

A `Journal` says what a session amounts to without chains, sinks, stores and counters.  Each logger is a
`Lineage`: its topic, its scope and its layers of fields and rules, newest first.  Each entry that is
logged is a `Call`, which keeps everything that decides about it: the lineage of its logger, the filter in
force and the hidden state it is made in.

## Key results

- `find?_overlay`: the record of a call holds the value of the first source that has the key
- `leaves_record`: the record a call leaves, in the words of its sources
-/

namespace Logbook

/-- Several records in one, the first that has a key giving its value. -/
def Record.overlay : List Record → Record
  | [] => .empty
  | r :: rest => r.merge (overlay rest)

/-- The first source that has a key decides. -/
@[simp] theorem Record.find?_overlay (sources : List Record) (key : String) :
    (Record.overlay sources).find? key = sources.findSome? (·.find? key) := by
  induction sources with
  | nil => rfl
  | cons r rest ih =>
    rw [Record.overlay, Record.find?_merge, ih, List.findSome?_cons]
    cases r.find? key <;> rfl

namespace Filter

/-- The default one level up, as far as only fatal entries get through. -/
def more (f : Filter) : Filter :=
  if .unset ≤ f.default ∧ f.default < .fatal then f.setDefault f.default.next else f

/-- The default one level down, as far as all entries from trace on get through. -/
def less (f : Filter) : Filter :=
  if .trace < f.default then f.setDefault f.default.previous else f

end Filter

/-- The fields and rules added at one place. -/
structure Layer where
  record : Record
  rules : List Redaction.Rule

/-- How a logger came about. -/
structure Lineage where
  topic : String
  scope : String
  /-- The newest layer comes first. -/
  layers : List Layer

namespace Lineage

variable {σ : Type}

/-- A new layer; its texts for topic and scope take the place of those before. -/
def derive (s : Suppliers σ) (g : Lineage) (record : Record) (rules : List Redaction.Rule) :
    StateM σ Lineage := do
  let topic ← record.textOf s Record.topicKey
  let scope ← record.textOf s Record.scopeKey
  pure ⟨topic.getD g.topic, scope.getD g.scope, ⟨record, rules⟩ :: g.layers⟩

/-- What loggers descend from. -/
def origin : Lineage := ⟨Target.main, Target.main, []⟩

end Lineage

/-- An entry that is logged. -/
structure Call (σ : Type) where
  lineage : Lineage
  /-- The filter in force. -/
  filter : Filter
  now : Instant
  level : Level
  message : StateM σ String
  error : Option ErrorChain
  hidden : σ

namespace Call

variable {σ : Type}

/-- The filter in force lets the entry through. -/
def passes (c : Call σ) : Bool := c.filter.accepts c.level c.lineage.topic c.lineage.scope

/-- The text of the message, and the hidden state that asking for it leaves. -/
def text (c : Call σ) : String × σ := c.message c.hidden

/-- What the entry itself holds. -/
def entry (c : Call σ) : Record := Logger.entry c.now c.level c.text.1 c.error

/-- Where the fields of the record come from: identity, entry, layers from the newest to the oldest. -/
def sources (identity : Record) (c : Call σ) : List Record :=
  identity :: c.entry :: c.lineage.layers.map (·.record)

/-- The rules of the layers, from the oldest to the newest. -/
def rules (c : Call σ) : List Redaction.Rule := c.lineage.layers.reverse.flatMap (·.rules)

/-- The redacted record, and the hidden state that redaction leaves. -/
def finish (s : Suppliers σ) (identity : Record) (c : Call σ) : Record × σ :=
  (Record.overlay (c.sources identity)).redact s c.rules c.text.2

/-- What a memory with this layout keeps of the call. -/
def record (s : Suppliers σ) (identity : Record) (layout : Layout) (c : Call σ) : Record :=
  layout.arrange (c.finish s identity).1

/-- The record is laid out from the redacted record that has, for each key, the value of the first source
with that key. -/
def Leaves (s : Suppliers σ) (identity : Record) (layout : Layout) (c : Call σ) (r : Record) : Prop :=
  ∃ merged : Record, (∀ key, merged.find? key = (c.sources identity).findSome? (·.find? key)) ∧
    r = layout.arrange (merged.redact s c.rules c.text.2).1

/-- What a call leaves is its record. -/
theorem leaves_record (s : Suppliers σ) (identity : Record) (layout : Layout) (c : Call σ) :
    c.Leaves s identity layout (c.record s identity layout) :=
  ⟨Record.overlay (c.sources identity), Record.find?_overlay _, rfl⟩

end Call

structure Journal (σ : Type) where
  /-- The loggers by their numbers. -/
  lineages : List Lineage
  filter : Filter
  hidden : σ
  /-- The entries logged so far, oldest first. -/
  calls : List (Call σ)

namespace Journal

variable {σ : Type}

/-- Do something with the lineage of a number. -/
def withLineage (j : Journal σ) (n : Nat) (f : Lineage → Journal σ) : Journal σ :=
  j.lineages[n]?.elim j f

def derive (s : Suppliers σ) (j : Journal σ) (g : Lineage) (record : Record)
    (rules : List Redaction.Rule) : Journal σ :=
  let (child, hidden) := g.derive s record rules j.hidden
  { j with lineages := j.lineages ++ [child], hidden }

/-- Log an entry; only one that passes is asked for its message and redacted. -/
def log (s : Suppliers σ) (identity : Record) (j : Journal σ) (c : Call σ) : Journal σ :=
  { j with
    calls := j.calls ++ [c]
    hidden := if c.passes then (c.finish s identity).2 else j.hidden }

def step (s : Suppliers σ) (identity : Record) (j : Journal σ) : Step σ → Journal σ
  | .derive on record rules => j.withLineage on fun g => j.derive s g record rules
  | .emit on now level message error =>
    j.withLineage on fun g => j.log s identity ⟨g, j.filter, now, level, message, error, j.hidden⟩
  | .setLevel on level topic scope =>
    j.withLineage on fun _ => { j with filter := j.filter.set level topic scope }
  | .filterMore on => j.withLineage on fun _ => { j with filter := j.filter.more }
  | .filterLess on => j.withLineage on fun _ => { j with filter := j.filter.less }

def run (s : Suppliers σ) (identity : Record) (j : Journal σ) (steps : List (Step σ)) : Journal σ :=
  steps.foldl (step s identity) j

/-- The journal of a session with nothing but its root logger. -/
def start (s : Suppliers σ) (record : Record) (rules : List Redaction.Rule) (filter : Filter)
    (hidden : σ) : Journal σ :=
  let (root, hidden) := Lineage.origin.derive s record rules hidden
  ⟨[root], filter, hidden, []⟩

/-- The entries that got through the filter. -/
def passed (j : Journal σ) : List (Call σ) := j.calls.filter (·.passes)

/-- The entries that the filter refused. -/
def refused (j : Journal σ) : List (Call σ) := j.calls.filter (!·.passes)

/-- Logging a call leaves the filter as it is. -/
@[simp] theorem filter_log (s : Suppliers σ) (identity : Record) (j : Journal σ) (c : Call σ) :
    (j.log s identity c).filter = j.filter := rfl

/-- A call that passes is among those that passed. -/
@[simp] theorem passed_log (s : Suppliers σ) (identity : Record) (j : Journal σ) (c : Call σ) :
    (j.log s identity c).passed = if c.passes then j.passed ++ [c] else j.passed := by
  cases h : c.passes <;> simp [passed, log, h]

/-- A call that is refused is among those that were. -/
@[simp] theorem refused_log (s : Suppliers σ) (identity : Record) (j : Journal σ) (c : Call σ) :
    (j.log s identity c).refused = if c.passes then j.refused else j.refused ++ [c] := by
  cases h : c.passes <;> simp [refused, log, h]

end Journal

end Logbook
