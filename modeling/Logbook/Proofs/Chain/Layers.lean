import Logbook.Logger
import Logbook.Proofs.Sink.Routing

/-!
# Layers of a chain

A chain is grown layer by layer, and what it does to entries does not depend on how its fields and rules are spread
over the layers.  The fields count as merged from the newest layer on, the patterns in the order in which they were
added, and the key rules as one set of names (`Chain.finish_congr`).  So two layers that follow each other can be put
in one (`Layer.onto`).  The topic and the scope, which filters look at, are settled layer by layer; they stay the same
if those of the two layers are texts.

## Key results

- `Record.redact_congr`: what redaction depends on
- `Chain.finish_congr`: what a chain does to entries
- `Chain.Agrees.derived`: chains that agree are derived to chains that agree
- `Chain.Alike.emit_eq`: loggers whose chains are alike log every entry in the same way
- `Chain.alike_of_onto`: two layers in one, and what else does not tell chains apart
-/

namespace Logbook

variable {σ : Type}

/-! ## What redaction depends on -/

namespace Redaction

/-- The names that key rules mask, in lower case. -/
def keyNames : List Rule → List String
  | [] => []
  | .pattern _ :: rest => keyNames rest
  | .keys k :: rest => k.names ++ keyNames rest

/-- A key is masked if its lower-case name is among the names of the key rules. -/
theorem masks_iff {rules : List Rule} {key : String} : masks rules key = true ↔ Text.lower key ∈ keyNames rules := by
  induction rules with
  | nil => simp [masks, keyNames]
  | cons rule rules ih =>
    rw [masks, List.any_cons, Bool.or_eq_true, ← masks, ih]
    cases rule with
    | pattern p => simp [keyNames]
    | keys k => simp [keyNames, Keys.covers]

/-- Key rules that cover the same names mask the same fields, whatever their order. -/
theorem masks_congr {rules rules' : List Rule} (h : ∀ name, name ∈ keyNames rules ↔ name ∈ keyNames rules') :
    masks rules = masks rules' := by
  funext key
  rw [Bool.eq_iff_iff, masks_iff, masks_iff, h]

/-- Values are redacted by the patterns in their order and by the names that are masked. -/
theorem redactValue_congr (s : Suppliers σ) {rules rules' : List Rule} (hpatterns : patterns rules = patterns rules')
    (hmasks : masks rules = masks rules') (room : Nat) : redactValue s rules room = redactValue s rules' room := by
  have htext : redactText rules = redactText rules' := by
    funext text
    rw [redactText, redactText, hpatterns]
  -- by induction on the levels left: texts are changed by the patterns, and what is masked depends on the names
  induction room with
  | zero => rfl
  | succ room ih =>
    funext v
    cases v with
    | text t => rw [redactValue, redactValue, htext]
    | array items => rw [redactValue, redactValue, ih]
    | record fields =>
      have hfield : redactField s rules (redactValue s rules' room)
          = redactField s rules' (redactValue s rules' room) := by
        funext key
        rw [redactField, redactField, hmasks]
      rw [redactValue, redactValue, ih, hfield]
    | _ => rfl

/-- The patterns of two lists of rules are the patterns of both. -/
theorem patterns_append (older newer : List Rule) : patterns (older ++ newer) = patterns older ++ patterns newer := by
  induction older with
  | nil => rfl
  | cons rule older ih => cases rule <;> simp [patterns, ih]

/-- The names in two lists of rules are the names in both. -/
theorem keyNames_append (older newer : List Rule) : keyNames (older ++ newer) = keyNames older ++ keyNames newer := by
  induction older with
  | nil => rfl
  | cons rule older ih => cases rule <;> simp [keyNames, ih]

end Redaction

namespace Record

/-- Redaction depends on the patterns in their order and on the set of names that key rules mask. -/
theorem redact_congr (s : Suppliers σ) {rules rules' : List Redaction.Rule}
    (hpatterns : Redaction.patterns rules = Redaction.patterns rules')
    (hkeys : ∀ name, name ∈ Redaction.keyNames rules ↔ name ∈ Redaction.keyNames rules') (r : Record) :
    r.redact s rules = r.redact s rules' := by
  have hmasks := Redaction.masks_congr hkeys
  have hfield : Redaction.redactField s rules = Redaction.redactField s rules' := by
    funext rest key
    rw [Redaction.redactField, Redaction.redactField, hmasks]
  rw [redact, redact, Redaction.redactValue_congr s hpatterns hmasks, hfield]

/-! ## Merging -/

/-- Merging is associative. -/
theorem merge_assoc (r source source' : Record) :
    (r.merge source).merge source' = r.merge (source.merge source') :=
  Fields.ext fun key => by
    rw [find?_merge, find?_merge, find?_merge, find?_merge, Option.or_assoc]

/-- Setting entries is merging the record of the entries. -/
theorem setAll_eq_merge (r : Record) (entries : List (String × Value)) :
    r.setAll entries = r.merge (ofEntries entries) :=
  Fields.ext fun key => by
    rw [find?_setAll, find?_merge, ofEntries, find?_setAll]
    rfl

/-- The text of a field depends on the field. -/
theorem textOf_congr (s : Suppliers σ) {r r' : Record} {key : String} (h : r.find? key = r'.find? key) :
    r.textOf s key = r'.textOf s key := by
  rw [textOf, textOf, h]

/-- A field that is missing has no text. -/
theorem textOf_of_none (s : Suppliers σ) {r : Record} {key : String} (h : r.find? key = none) :
    r.textOf s key = pure none := by
  rw [textOf, h]

/-- Topic and scope, where the record has them, are texts. -/
def hasTextTarget (r : Record) : Bool := targetKeys.all fun key => (r.find? key).all fun v => v.text?.isSome

/-- A topic and a scope that are there are texts. -/
theorem hasTextTarget_iff (r : Record) :
    r.hasTextTarget ↔ ∀ key ∈ targetKeys, ∀ v, r.find? key = some v → v.text?.isSome := by
  simp only [hasTextTarget, List.all_eq_true, Option.all_eq_true]

/-- A text is not deferred. -/
theorem hasPlainTarget_of_text {r : Record} (h : r.hasTextTarget) : r.hasPlainTarget := by
  rw [hasTextTarget_iff] at h
  rw [hasPlainTarget_iff]
  intro key hkey v hv
  have htext := h key hkey v hv
  cases v with
  | deferred source => cases htext
  | _ => rfl

/-- Of a merged record the text of a target key is the text of the first record that has one, if both have texts
only. -/
theorem text?_merge {r source : Record} (h : r.hasTextTarget) {key : String} (hkey : key ∈ targetKeys) :
    ((r.merge source).find? key).bind Value.text?
      = ((r.find? key).bind Value.text?).or ((source.find? key).bind Value.text?) := by
  rw [find?_merge]
  cases hv : r.find? key with
  | none => rfl
  | some v =>
    obtain ⟨text, htext⟩ := Option.isSome_iff_exists.1 ((hasTextTarget_iff r).1 h key hkey v hv)
    rw [Option.some_or, Option.bind_some, htext, Option.some_or]

/-- Two records without other topics and scopes than texts are merged into such a record. -/
theorem hasTextTarget_merge {r source : Record} (h : r.hasTextTarget) (hsource : source.hasTextTarget) :
    (r.merge source).hasTextTarget := by
  rw [hasTextTarget_iff] at h hsource ⊢
  intro key hkey v hv
  rw [find?_merge, Option.or_eq_some_iff] at hv
  rcases hv with hv | ⟨-, hv⟩
  · exact h key hkey v hv
  · exact hsource key hkey v hv

end Record

/-! ## Growing a chain -/

/-- Two layers in one: the fields of the newer one win, and its rules come behind those of the older one. -/
def Layer.onto (newer older : Layer) : Layer := ⟨newer.record.merge older.record, older.rules ++ newer.rules⟩

/-- A layer together with the hidden state in which it is added. -/
structure Derivation (σ : Type) where
  layer : Layer
  hidden : σ

namespace Chain

/-- Derive a chain by one layer after another. -/
def derived (s : Suppliers σ) (c : Chain) (ds : List (Derivation σ)) : Chain :=
  ds.foldl (fun c d => (c.derive s d.layer.record d.layer.rules d.hidden).1) c

/-- Add a layer to a chain, or begin one with it. -/
def extend (s : Suppliers σ) (h : Host) (name : String) (c : Option Chain) (d : Derivation σ) : Chain :=
  match c with
  | none => (root s h name d.layer.record d.layer.rules d.hidden).1
  | some c => (c.derive s d.layer.record d.layer.rules d.hidden).1

/-- The chain that layers make, the oldest one first; there is none without a layer. -/
def grown (s : Suppliers σ) (h : Host) (name : String) (ds : List (Derivation σ)) : Option Chain :=
  ds.foldl (fun c d => some (extend s h name c d)) none

/-- The fields of all nodes, those of newer ones first. -/
def merged (c : Chain) : Record := .overlay (c.nodes.map (·.record))

/-! ## What does not tell chains apart -/

/-- The chains do the same to entries: their fields are merged to the same record, their patterns come in the same
order, and their key rules name the same keys. -/
structure Agrees (c c' : Chain) : Prop where
  name : c.name = c'.name
  identity : c.identity = c'.identity
  merged : c.merged = c'.merged
  patterns : Redaction.patterns c.rules = Redaction.patterns c'.rules
  keys : ∀ key, key ∈ Redaction.keyNames c.rules ↔ key ∈ Redaction.keyNames c'.rules

/-- Nothing tells the chains apart, neither what they say of themselves nor what they make of entries. -/
structure Alike (s : Suppliers σ) (c c' : Chain) : Prop where
  name : c.name = c'.name
  topic : c.topic = c'.topic
  scope : c.scope = c'.scope
  field : ∀ key, c.field? key = c'.field? key
  finish : ∀ r, c.finish s r = c'.finish s r

/-- A chain puts its identity before the entry, and the entry before the fields. -/
theorem flatten_eq_merge (c : Chain) (r : Record) : c.flatten r = c.identity.merge (r.merge c.merged) :=
  c.flatten_eq_overlay r

/-- A field of a chain is one of its identity or of its layers. -/
theorem field?_eq_merged (c : Chain) (key : String) :
    c.field? key = (c.identity.find? key).or (c.merged.find? key) := by
  rw [field?, merged, Record.find?_overlay, List.findSome?_map]
  rfl

/-- What a chain makes of an entry depends on its identity, its merged fields, the order of its patterns and the
names that its key rules cover. -/
theorem finish_congr (s : Suppliers σ) {c c' : Chain} (hidentity : c.identity = c'.identity)
    (hmerged : c.merged = c'.merged) (hpatterns : Redaction.patterns c.rules = Redaction.patterns c'.rules)
    (hkeys : ∀ key, key ∈ Redaction.keyNames c.rules ↔ key ∈ Redaction.keyNames c'.rules) (r : Record) :
    c.finish s r = c'.finish s r := by
  rw [finish, finish, flatten_eq_merge, flatten_eq_merge, hidentity, hmerged,
    Record.redact_congr s hpatterns hkeys]

/-- The new layer comes before those of the chain. -/
theorem merged_derive (s : Suppliers σ) (c : Chain) (record : Record) (rules : List Redaction.Rule) (hidden : σ) :
    (c.derive s record rules hidden).1.merged = record.merge c.merged := rfl

/-- The rules of the new layer come behind those of the chain. -/
theorem rules_derive (s : Suppliers σ) (c : Chain) (record : Record) (rules : List Redaction.Rule) (hidden : σ) :
    (c.derive s record rules hidden).1.rules = c.rules ++ rules := by
  show ((node s record rules c.topic c.scope hidden).1 :: c.nodes).reverse.flatMap (·.rules) = _
  rw [List.reverse_cons, List.flatMap_append, List.flatMap_singleton]
  rfl

/-- Deriving asks for the topic first and then for the scope of the new layer; where there is no text the chain keeps
its own. -/
theorem derive_asks (s : Suppliers σ) (c : Chain) (record : Record) (rules : List Redaction.Rule) (hidden : σ) :
    let derived := c.derive s record rules hidden
    let topic := record.textOf s Record.topicKey hidden
    let scope := record.textOf s Record.scopeKey topic.2
    derived.1.topic = topic.1.getD c.topic ∧ derived.1.scope = scope.1.getD c.scope ∧ derived.2 = scope.2 :=
  ⟨rfl, rfl, rfl⟩

/-- Topic and scope of a derived chain depend on the chain before by its topic and its scope only. -/
theorem derive_congr (s : Suppliers σ) {c c' : Chain} (htopic : c.topic = c'.topic) (hscope : c.scope = c'.scope)
    (record : Record) (rules : List Redaction.Rule) (hidden : σ) :
    let derived := (c.derive s record rules hidden).1
    let derived' := (c'.derive s record rules hidden).1
    derived.topic = derived'.topic ∧ derived.scope = derived'.scope := by
  obtain ⟨ht, hs, -⟩ := derive_asks s c record rules hidden
  obtain ⟨ht', hs', -⟩ := derive_asks s c' record rules hidden
  exact ⟨by rw [ht, ht', htopic], by rw [hs, hs', hscope]⟩

/-- A layer whose topic and scope are texts, or missing, gives them to the chain. -/
theorem derive_target (s : Suppliers σ) (c : Chain) {record : Record} (hr : record.hasPlainTarget)
    (rules : List Redaction.Rule) (hidden : σ) :
    let derived := (c.derive s record rules hidden).1
    derived.topic = ((record.find? Record.topicKey).bind Value.text?).getD c.topic ∧
      derived.scope = ((record.find? Record.scopeKey).bind Value.text?).getD c.scope :=
  (node_target s hr rules c.topic c.scope hidden).2

namespace Agrees

variable {c c' : Chain}

/-- Chains that agree go on to agree when the same layer is added to both, in whatever hidden states. -/
theorem derive (h : Agrees c c') (s : Suppliers σ) (record : Record) (rules : List Redaction.Rule)
    (hidden hidden' : σ) : Agrees (c.derive s record rules hidden).1 (c'.derive s record rules hidden').1 where
  name := h.name
  identity := h.identity
  merged := by rw [merged_derive, merged_derive, h.merged]
  patterns := by
    rw [rules_derive, rules_derive, Redaction.patterns_append, Redaction.patterns_append, h.patterns]
  keys key := by
    rw [rules_derive, rules_derive, Redaction.keyNames_append, Redaction.keyNames_append, List.mem_append,
      List.mem_append, h.keys]

/-- Chains that agree finish every record alike. -/
theorem finish_eq (h : Agrees c c') (s : Suppliers σ) (r : Record) : c.finish s r = c'.finish s r :=
  finish_congr s h.identity h.merged h.patterns h.keys r

/-- Chains that agree and have the same topic and scope are alike. -/
theorem alike (h : Agrees c c') (s : Suppliers σ) (htopic : c.topic = c'.topic) (hscope : c.scope = c'.scope) :
    Alike s c c' where
  name := h.name
  topic := htopic
  scope := hscope
  field key := by rw [field?_eq_merged, field?_eq_merged, h.identity, h.merged]
  finish := h.finish_eq s

/-- The same layers lead from chains that agree to chains that agree, and their topics and scopes are the same if they
were before. -/
theorem derived (h : Agrees c c') (s : Suppliers σ) (ds : List (Derivation σ)) :
    Agrees (c.derived s ds) (c'.derived s ds) ∧
      (c.topic = c'.topic → c.scope = c'.scope → Alike s (c.derived s ds) (c'.derived s ds)) := by
  -- by induction on the layers behind: agreeing is kept, and so are the topic and the scope
  induction ds generalizing c c' with
  | nil => exact ⟨h, h.alike s⟩
  | cons d ds ih =>
    obtain ⟨hagrees, halike⟩ := ih (h.derive s d.layer.record d.layer.rules d.hidden d.hidden)
    refine ⟨hagrees, fun htopic hscope => ?_⟩
    obtain ⟨htopic', hscope'⟩ := derive_congr s htopic hscope d.layer.record d.layer.rules d.hidden
    exact halike htopic' hscope'

end Agrees

/-! ## Delivery -/

/-- Chains that finish entries alike bring every record to a sink in the same way. -/
theorem write_through_congr {s : Suppliers σ} {c c' : Chain} (h : ∀ r, c.finish s r = c'.finish s r) (sink : Sink)
    (r : Record) : Sink.write s r (.through c sink) = Sink.write s r (.through c' sink) := by
  rw [Sink.write, Sink.write, h]

/-- Where nothing tells two chains apart, their loggers log every entry in the same way: the gate, what is delivered,
what is counted and what is reported are the same. -/
theorem Alike.emit_eq {s : Suppliers σ} {l : Logger} {c' : Chain} (h : l.chain.Alike s c') (now : Instant)
    (level : Level) (message : StateM σ String) (error : Option ErrorChain) :
    (l.withChain c').emit s now level message error = l.emit s now level message error := by
  -- the gate looks at the topic and the scope
  have hgate : (l.withChain c').isEnabled = l.isEnabled := by
    funext st level
    show l.sink.accepts st level c'.topic c'.scope = l.sink.accepts st level l.chain.topic l.chain.scope
    rw [h.topic, h.scope]
  have hwrite : ∀ r, (l.withChain c').asSink.write s r = l.asSink.write s r :=
    write_through_congr (fun r => (h.finish r).symm) l.sink
  -- of the chain a report shows the name only
  have hsettle : (l.withChain c').settle = l.settle := by
    have hname : (l.withChain c').name = l.name := h.name.symm
    funext outcome st
    simp only [Logger.settle, Logger.report, hname]
    rfl
  simp only [Logger.emit, hgate, hwrite, hsettle]
  rfl

/-! ## Two layers in one -/

section Onto

variable (s : Suppliers σ) (h : Host) (name : String)

/-- Once there is a chain, the layers that are left derive it. -/
theorem foldl_extend (c : Chain) (ds : List (Derivation σ)) :
    ds.foldl (fun c d => some (extend s h name c d)) (some c) = some (c.derived s ds) := by
  induction ds generalizing c with
  | nil => rfl
  | cons d ds ih => exact ih _

/-- The fields and rules that the layers so far leave to a new one. -/
theorem extend_eq (c : Option Chain) (d : Derivation σ) :
    let extended := extend s h name c d
    extended.name = c.elim name (·.name) ∧ extended.identity = c.elim (h.identity name) (·.identity) ∧
      extended.merged = d.layer.record.merge (c.elim .empty (·.merged)) ∧
      extended.rules = c.elim [] (·.rules) ++ d.layer.rules := by
  cases c with
  | none => exact ⟨rfl, rfl, rfl, by simp [extend, Chain.rules, nodes, root, node]; rfl⟩
  | some c => exact ⟨rfl, rfl, rfl, rules_derive s c _ _ _⟩

/-- Topic and scope where those of the new layer are texts. -/
theorem extend_target (c : Option Chain) {d : Derivation σ} (hd : d.layer.record.hasTextTarget) :
    let extended := extend s h name c d
    extended.topic = ((d.layer.record.find? Record.topicKey).bind Value.text?).getD (c.elim Target.main (·.topic)) ∧
      extended.scope
        = ((d.layer.record.find? Record.scopeKey).bind Value.text?).getD (c.elim Target.main (·.scope)) := by
  -- a text has nothing to compute, so the state does not matter
  have hplain := Record.hasPlainTarget_of_text hd
  cases c with
  | none => exact (node_target s hplain d.layer.rules Target.main Target.main d.hidden).2
  | some c => exact derive_target s c hplain d.layer.rules d.hidden

/-- A layer on another one does to entries what the two do in one. -/
theorem agrees_onto (c : Option Chain) (older newer : Derivation σ) (hidden : σ) :
    Agrees (extend s h name (some (extend s h name c older)) newer)
      (extend s h name c ⟨newer.layer.onto older.layer, hidden⟩) := by
  obtain ⟨hname, hidentity, hmerged, hrules⟩ := extend_eq s h name c older
  obtain ⟨hname', hidentity', hmerged', hrules'⟩ := extend_eq s h name (some (extend s h name c older)) newer
  obtain ⟨hname'', hidentity'', hmerged'', hrules''⟩ :=
    extend_eq s h name c ⟨newer.layer.onto older.layer, hidden⟩
  -- the rules come in the same order, so patterns and keys need no case of their own
  have hsame : (extend s h name (some (extend s h name c older)) newer).rules
      = (extend s h name c ⟨newer.layer.onto older.layer, hidden⟩).rules := by
    rw [hrules', hrules'', Option.elim_some, hrules, List.append_assoc, Layer.onto]
  constructor
  · rw [hname', hname'', Option.elim_some, hname]
  · rw [hidentity', hidentity'', Option.elim_some, hidentity]
  · rw [hmerged', hmerged'', Option.elim_some, hmerged, Layer.onto, Record.merge_assoc]
  · rw [hsame]
  · intro key
    rw [hsame]

/-- Where the topics and scopes of both layers are texts, the two leave the topic and the scope that they leave in
one. -/
theorem target_onto (c : Option Chain) {older newer : Derivation σ} (holder : older.layer.record.hasTextTarget)
    (hnewer : newer.layer.record.hasTextTarget) (hidden : σ) :
    let apart := extend s h name (some (extend s h name c older)) newer
    let one := extend s h name c ⟨newer.layer.onto older.layer, hidden⟩
    apart.topic = one.topic ∧ apart.scope = one.scope := by
  intro apart one
  -- a merged record has the text of the newer layer, or else the one of the older
  have hone : one.topic = _ ∧ one.scope = _ := extend_target s h name c (d := ⟨newer.layer.onto older.layer, hidden⟩)
    (Record.hasTextTarget_merge hnewer holder)
  have hapart : apart.topic = _ ∧ apart.scope = _ := extend_target s h name (some (extend s h name c older)) hnewer
  obtain ⟨htopic, hscope⟩ := extend_target s h name c holder
  have htext : ∀ key ∈ Record.targetKeys, ((newer.layer.onto older.layer).record.find? key).bind Value.text? = _ :=
    fun key hkey => Record.text?_merge hnewer hkey
  constructor
  · rw [hapart.1, hone.1, htext _ (by decide), Option.elim_some, htopic, Option.getD_or]
  · rw [hapart.2, hone.2, htext _ (by decide), Option.elim_some, hscope, Option.getD_or]

end Onto

/-! ## Topic, scope and fields in one layer -/

/-- A record of one entry has no other key. -/
theorem find?_single_of_ne {key other : String} (h : key ≠ other) (v : Value) :
    (Record.empty.set other v).find? key = none := by
  rw [Record.find?_set, if_neg fun hset => h hset.1]
  rfl

/-- Entries without a topic and a scope make a record without them. -/
theorem find?_ofEntries_of_target {entries : List (String × Value)} (hentries : ∀ e ∈ entries, e.1 ∉ Record.targetKeys)
    {key : String} (hkey : key ∈ Record.targetKeys) : (Record.ofEntries entries).find? key = none := by
  rw [Record.ofEntries, Record.find?_setAll_of_forall_ne]
  · rfl
  · rintro e he rfl
    exact hentries e he hkey

/-- Topic and scope set first, and entries under other keys after them, are the entries with the scope and the topic
merged in behind them. -/
theorem setAll_target {topic scope : Value} {entries : List (String × Value)}
    (hentries : ∀ e ∈ entries, e.1 ∉ Record.targetKeys) :
    ((Record.empty.set Record.topicKey topic).set Record.scopeKey scope).setAll entries
      = (Record.ofEntries entries).merge
          ((Record.empty.set Record.scopeKey scope).merge (Record.empty.set Record.topicKey topic)) := by
  have hne : Record.topicKey ≠ Record.scopeKey := by decide
  have hempty : ∀ key, Record.empty.find? key = none := fun _ => rfl
  have hnone : ∀ key ∈ Record.targetKeys, (Record.ofEntries entries).find? key = none :=
    fun key hkey => find?_ofEntries_of_target hentries hkey
  rw [Record.setAll_eq_merge]
  refine Fields.ext fun key => ?_
  simp only [Record.find?_merge, Record.find?_set, hempty]
  -- the target keys are missing from the entries, and all other keys from the records of topic and scope
  by_cases htopic : key = Record.topicKey
  · subst htopic
    simp [hnone Record.topicKey (by decide), hne]
  · by_cases hscope : key = Record.scopeKey
    · subst hscope
      simp [hnone Record.scopeKey (by decide), hne.symm]
    · simp [htopic, hscope]

section Child

variable (s : Suppliers σ) (c : Chain) (topic scope : Value) {entries : List (String × Value)}

/-- A child made at once asks for the same texts, in the same order, as one made step by step, and finds the same topic
and scope. -/
theorem withChild_asks (hentries : ∀ e ∈ entries, e.1 ∉ Record.targetKeys) (hidden : σ) :
    let one := c.withChild s topic scope entries hidden
    let named := c.withTopic s topic hidden
    let placed := named.1.withScope s scope named.2
    let apart := placed.1.withFields s entries placed.2
    one.1.topic = apart.1.topic ∧ one.1.scope = apart.1.scope ∧ one.2 = apart.2 := by
  intro one named placed apart
  let topics := Record.empty.set Record.topicKey topic
  let scopes := Record.empty.set Record.scopeKey scope
  let others := Record.ofEntries entries
  -- in the names of the merged record: what each layer would set
  let all := (topics.set Record.scopeKey scope).setAll entries
  have hall : all = others.merge (scopes.merge topics) := setAll_target hentries
  -- which of the layers has a topic, and which has a scope
  have htopics : topics.find? Record.scopeKey = none := find?_single_of_ne (by decide) topic
  have hscopes : scopes.find? Record.topicKey = none := find?_single_of_ne (by decide) scope
  have hothers : ∀ key ∈ Record.targetKeys, others.find? key = none :=
    fun key hkey => find?_ofEntries_of_target hentries hkey
  have htopic : all.textOf s Record.topicKey = topics.textOf s Record.topicKey := Record.textOf_congr s (by
    rw [hall, Record.find?_merge, Record.find?_merge, hothers _ (by decide), hscopes, Option.none_or, Option.none_or])
  have hscope : all.textOf s Record.scopeKey = scopes.textOf s Record.scopeKey := Record.textOf_congr s (by
    rw [hall, Record.find?_merge, Record.find?_merge, hothers _ (by decide), htopics, Option.none_or, Option.or_none])
  -- so only one layer of the three asks for a topic, and only the next one for a scope
  let asked := topics.textOf s Record.topicKey hidden
  have hone : one.1.topic = asked.1.getD c.topic ∧
      one.1.scope = (scopes.textOf s Record.scopeKey asked.2).1.getD c.scope ∧
      one.2 = (scopes.textOf s Record.scopeKey asked.2).2 := by
    have h := derive_asks s c all [] hidden
    simp only [htopic, hscope] at h
    exact h
  have hnamed : named.1.topic = asked.1.getD c.topic ∧ named.1.scope = c.scope ∧ named.2 = asked.2 := by
    have h := derive_asks s c topics [] hidden
    simp only [Record.textOf_of_none s htopics] at h
    exact h
  have hplaced : placed.1.topic = named.1.topic ∧
      placed.1.scope = (scopes.textOf s Record.scopeKey named.2).1.getD named.1.scope ∧
      placed.2 = (scopes.textOf s Record.scopeKey named.2).2 := by
    have h := derive_asks s named.1 scopes [] named.2
    simp only [Record.textOf_of_none s hscopes] at h
    exact h
  have hapart : apart.1.topic = placed.1.topic ∧ apart.1.scope = placed.1.scope ∧ apart.2 = placed.2 := by
    have h := derive_asks s placed.1 others [] placed.2
    simp only [Record.textOf_of_none s (hothers _ (by decide : Record.topicKey ∈ Record.targetKeys)),
      Record.textOf_of_none s (hothers _ (by decide : Record.scopeKey ∈ Record.targetKeys))] at h
    exact h
  refine ⟨?_, ?_, ?_⟩
  · rw [hone.1, hapart.1, hplaced.1, hnamed.1]
  · rw [hone.2.1, hapart.2.1, hplaced.2.1, hnamed.2.1, hnamed.2.2]
  · rw [hone.2.2, hapart.2.2, hplaced.2.2, hnamed.2.2]

/-- A layer without rules leaves the rules as they are. -/
theorem rules_derive_nil (record : Record) (hidden : σ) : (c.derive s record [] hidden).1.rules = c.rules := by
  rw [rules_derive, List.append_nil]

/-- A child made at once does to entries what one made step by step does. -/
theorem agrees_withChild (hentries : ∀ e ∈ entries, e.1 ∉ Record.targetKeys) (hidden : σ) :
    let one := c.withChild s topic scope entries hidden
    let named := c.withTopic s topic hidden
    let placed := named.1.withScope s scope named.2
    let apart := placed.1.withFields s entries placed.2
    Agrees one.1 apart.1 := by
  intro one named placed apart
  let topics := Record.empty.set Record.topicKey topic
  let scopes := Record.empty.set Record.scopeKey scope
  let others := Record.ofEntries entries
  let all := (topics.set Record.scopeKey scope).setAll entries
  -- the layers are merged one after another, or the merged layer is
  have hall : all = others.merge (scopes.merge topics) := setAll_target hentries
  have hrules : one.1.rules = apart.1.rules :=
    calc one.1.rules
        = c.rules := rules_derive_nil s c all hidden
      _ = named.1.rules := (rules_derive_nil s c topics hidden).symm
      _ = placed.1.rules := (rules_derive_nil s named.1 scopes named.2).symm
      _ = apart.1.rules := (rules_derive_nil s placed.1 others placed.2).symm
  refine ⟨rfl, rfl, ?_, by rw [hrules], fun key => by rw [hrules]⟩
  show all.merge c.merged = others.merge (scopes.merge (topics.merge c.merged))
  rw [hall, Record.merge_assoc, Record.merge_assoc]

end Child

/-! ## The main result -/

/-- **Collapsing a chain changes nothing.**  Two layers that follow each other in a chain, wherever they stand, can be
put in one: every entry comes out of the chain as the same record, and is brought to every sink as that, and if the
topics and scopes of both layers are texts or missing, then nothing tells the chains apart.  More generally an entry
comes out alike of all chains of one identity with the same merged fields, the same patterns in the same order and key
rules for the same names.  So a chain that is derived by topic, scope and fields at once is like one that is derived by
them one after another, and so is all that is derived from it, unless there is a topic or a scope among the fields. -/
theorem alike_of_onto (s : Suppliers σ) :
    (∀ (h : Host) (name : String) (before after : List (Derivation σ)) (older newer : Derivation σ) (hidden : σ),
      ∃ apart one,
        grown s h name (before ++ older :: newer :: after) = some apart ∧
        grown s h name (before ++ ⟨newer.layer.onto older.layer, hidden⟩ :: after) = some one ∧
        (∀ r, apart.finish s r = one.finish s r) ∧
        (∀ (sink : Sink) r, Sink.write s r (.through apart sink) = Sink.write s r (.through one sink)) ∧
        (older.layer.record.hasTextTarget → newer.layer.record.hasTextTarget → Alike s apart one)) ∧
    (∀ c c' : Chain, c.identity = c'.identity → c.merged = c'.merged →
      Redaction.patterns c.rules = Redaction.patterns c'.rules →
      (∀ key, key ∈ Redaction.keyNames c.rules ↔ key ∈ Redaction.keyNames c'.rules) →
      ∀ r, c.finish s r = c'.finish s r) ∧
    (∀ (c : Chain) (topic scope : Value) (entries : List (String × Value)) (hidden : σ),
      (∀ e ∈ entries, e.1 ∉ Record.targetKeys) →
      let one := c.withChild s topic scope entries hidden
      let named := c.withTopic s topic hidden
      let placed := named.1.withScope s scope named.2
      let apart := placed.1.withFields s entries placed.2
      one.2 = apart.2 ∧ ∀ ds, Alike s (one.1.derived s ds) (apart.1.derived s ds)) := by
  refine ⟨fun h name before after older newer hidden => ?_, fun c c' => finish_congr s,
    fun c topic scope entries hidden hentries => ?_⟩
  · let base := grown s h name before
    let apart := extend s h name (some (extend s h name base older)) newer
    -- the two layers agree with the one, and all layers behind them keep that
    let one := extend s h name base ⟨newer.layer.onto older.layer, hidden⟩
    have hagrees : Agrees apart one := agrees_onto s h name base older newer hidden
    obtain ⟨hall, halike⟩ := hagrees.derived s after
    have hwrite := write_through_congr (hall.finish_eq s)
    refine ⟨apart.derived s after, one.derived s after, ?_, ?_, hall.finish_eq s, hwrite,
      fun holder hnewer => ?_⟩
    · rw [grown, List.foldl_append]
      exact foldl_extend s h name apart after
    · rw [grown, List.foldl_append]
      exact foldl_extend s h name one after
    · obtain ⟨htopic, hscope⟩ := target_onto s h name base holder hnewer hidden
      exact halike htopic hscope
  · have hagrees := agrees_withChild s c topic scope hentries hidden
    obtain ⟨htopic, hscope, hhidden⟩ := withChild_asks s c topic scope hentries hidden
    exact ⟨hhidden, fun ds => (hagrees.derived s ds).2 htopic hscope⟩

/-- Two layers with texts and rules of their own, under a layer with a deferred topic; the same names in two key rules
and in one; and a child with a deferred topic. -/
theorem alike_of_onto_auth :
    let s : Suppliers Nat := ⟨fun _ n => (.text "late", n + 1), fun _ n => (.null, n)⟩
    let h : Host := ⟨"host", 1, 0⟩
    let older : Layer := ⟨.ofEntries [("topic", .text "auth"), ("user", .text "bob")], [.keys (.ofList ["Token"])]⟩
    let newer : Layer := ⟨.ofEntries [("scope", .text "login"), ("user", .int 7)], [.pattern .email]⟩
    let first : Derivation Nat := ⟨⟨.ofEntries [("app", .text "shop")], []⟩, 0⟩
    let last : Derivation Nat := ⟨⟨.ofEntries [("topic", .deferred 3)], []⟩, 5⟩
    let c := (root s h "svc" .empty [.keys (.ofList ["a"]), .keys (.ofList ["B"])] 0).1
    let c' := (root s h "svc" .empty [.keys (.ofList ["b", "A"])] 0).1
    let child := c.withChild s (.deferred 1) (.text "x") [("id", .int 1)] 0
    let named := c.withTopic s (.deferred 1) 0
    let placed := named.1.withScope s (.text "x") named.2
    let apart := placed.1.withFields s [("id", .int 1)] placed.2
    (older.record.hasTextTarget ∧ newer.record.hasTextTarget ∧
      ∃ apart one, grown s h "svc" ([first] ++ ⟨older, 1⟩ :: ⟨newer, 2⟩ :: [last]) = some apart ∧
        grown s h "svc" ([first] ++ ⟨newer.onto older, 9⟩ :: [last]) = some one ∧ Alike s apart one) ∧
    ((∀ key, key ∈ Redaction.keyNames c.rules ↔ key ∈ Redaction.keyNames c'.rules) ∧
      ∀ r, c.finish s r = c'.finish s r) ∧
    child.1.topic = "late" ∧ child.2 = 1 ∧ child.2 = apart.2 ∧ Alike s child.1 apart.1 := by
  intro s h older newer first last c c' child named placed apart
  obtain ⟨honto, hcongr, hchild⟩ := alike_of_onto s
  have holder : older.record.hasTextTarget := by decide
  have hnewer : newer.record.hasTextTarget := by decide
  have hkeys : ∀ key, key ∈ Redaction.keyNames c.rules ↔ key ∈ Redaction.keyNames c'.rules := by
    have hnames : Redaction.keyNames c.rules = ["a", "b"] ∧ Redaction.keyNames c'.rules = ["b", "a"] := by decide
    intro key
    rw [hnames.1, hnames.2, List.mem_pair, List.mem_pair, or_comm]
  -- each side is evaluated for itself, so that the two lists of keys are not compared
  have hidentity : c.identity = h.identity "svc" ∧ c'.identity = h.identity "svc" := ⟨rfl, rfl⟩
  have hmerged : c.merged = .empty ∧ c'.merged = .empty := ⟨rfl, rfl⟩
  have hpatterns : Redaction.patterns c.rules = [] ∧ Redaction.patterns c'.rules = [] := ⟨rfl, rfl⟩
  have hfinish := hcongr c c' (hidentity.1.trans hidentity.2.symm) (hmerged.1.trans hmerged.2.symm)
    (hpatterns.1.trans hpatterns.2.symm) hkeys
  obtain ⟨one, two, hone, htwo, -, -, halike⟩ := honto h "svc" [first] [last] ⟨older, 1⟩ ⟨newer, 2⟩ 9
  obtain ⟨hhidden, hderived⟩ := hchild c (.deferred 1) (.text "x") [("id", .int 1)] 0 (by decide)
  exact ⟨⟨holder, hnewer, one, two, hone, htwo, halike holder hnewer⟩,
    ⟨hkeys, hfinish⟩, by decide, by decide, hhidden, hderived []⟩

end Chain

end Logbook
