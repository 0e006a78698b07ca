import Logbook.Redaction
import Logbook.Target

/-!
# Chains of fields

A logger adds fields and redaction rules node by node.  A `Chain` holds the nodes from the newest, the leaf, back to
the oldest, and the identity of the program on top.  An entry is finished by merging the chain into it
(`Chain.flatten`: the identity wins, then the entry, then the nodes from the leaf on) and applying all rules from the
oldest node on (`Chain.finish`).  The topic and the scope that filters look at are fixed when a node is added.
-/

namespace Logbook

/-- The fields and rules added at one place. -/
structure Node where
  record : Record
  rules : List Redaction.Rule
  /-- The topic of the newest node with one. -/
  topic : String
  scope : String

/-- What a program knows of its surroundings. -/
structure Host where
  name : String
  process : UInt64
  /-- The source of the name of the current thread. -/
  thread : Nat

structure Chain where
  name : String
  /-- The fields that no other can replace. -/
  identity : Record
  leaf : Node
  /-- The other nodes, newest first. -/
  ancestors : List Node

/-- The identity of a program under a name. -/
def Host.identity (h : Host) (name : String) : Record :=
  .ofEntries [(Record.nameKey, .text name), (Record.hostKey, .text h.name),
    (Record.processKey, .uint h.process), (Record.threadKey, .deferred h.thread)]

namespace Chain

variable {m : Type → Type} [Monad m]

/-- All nodes, newest first. -/
def nodes (c : Chain) : List Node := c.leaf :: c.ancestors

def topic (c : Chain) : String := c.leaf.topic

def scope (c : Chain) : String := c.leaf.scope

/-- A node over fields; topic and scope are those given unless the fields have texts for them. -/
def node (s : Sources m) (record : Record) (rules : List Redaction.Rule) (topic scope : String) :
    m Node := do
  let t ← record.textOf s Record.topicKey
  let u ← record.textOf s Record.scopeKey
  pure ⟨record, rules, t.getD topic, u.getD scope⟩

/-- A chain of one node. -/
def root (s : Sources m) (h : Host) (name : String) (record : Record) (rules : List Redaction.Rule) :
    m Chain := do
  let leaf ← node s record rules Target.main Target.main
  pure ⟨name, h.identity name, leaf, []⟩

/-- Add a node. -/
def derive (s : Sources m) (c : Chain) (record : Record) (rules : List Redaction.Rule) : m Chain := do
  let leaf ← node s record rules c.topic c.scope
  pure ⟨c.name, c.identity, leaf, c.nodes⟩

/-- An entry with all fields of the chain. -/
def flatten (c : Chain) (entry : Record) : Record :=
  c.nodes.foldl (fun r n => r.merge n.record) (c.identity.merge entry)

/-- All rules, oldest first. -/
def rules (c : Chain) : List Redaction.Rule := c.nodes.reverse.flatMap (·.rules)

/-- An entry with all fields, redacted. -/
def finish (s : Sources m) (c : Chain) (entry : Record) : m Record :=
  (c.flatten entry).redact s c.rules

/-- The fields that the chain adds to every entry. -/
def fields (c : Chain) : Record := c.flatten .empty

/-- The field of a key: from the identity, or else from the newest node that has it. -/
def field? (c : Chain) (key : String) : Option Value :=
  (c.identity.find? key).or (c.nodes.findSome? fun n => n.record.find? key)

/-! ## Ways to derive -/

def withField (s : Sources m) (c : Chain) (key : String) (value : Value) : m Chain :=
  c.derive s (Record.empty.set key value) []

def withFields (s : Sources m) (c : Chain) (entries : List (String × Value)) : m Chain :=
  c.derive s (.ofEntries entries) []

def withRecord (s : Sources m) (c : Chain) (record : Record) : m Chain := c.derive s record []

def withTopic (s : Sources m) (c : Chain) (topic : Value) : m Chain :=
  c.withField s Record.topicKey topic

def withScope (s : Sources m) (c : Chain) (scope : Value) : m Chain :=
  c.withField s Record.scopeKey scope

/-- Topic, scope and more fields in one node. -/
def withChild (s : Sources m) (c : Chain) (topic scope : Value) (entries : List (String × Value)) :
    m Chain :=
  c.derive s (((Record.empty.set Record.topicKey topic).set Record.scopeKey scope).setAll entries) []

def withRule (s : Sources m) (c : Chain) (rule : Redaction.Rule) : m Chain := c.derive s .empty [rule]

def withRedactedKeys (s : Sources m) (c : Chain) (keys : List String) : m Chain :=
  c.withRule s (.keys (.ofList keys))

end Chain

end Logbook
