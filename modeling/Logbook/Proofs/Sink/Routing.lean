import Logbook.Logger
import Logbook.Proofs.Session.Memory
import Logbook.Proofs.Sink.Frame

/-!
# The gate and the record

Before an entry is made, the gate of its logger asks the filters for the logger's topic and scope.  Later a fan
asks them for the routing key of the finished record, which may have passed the chains of more loggers.  The two
are found in different ways.  The gate goes by the newest *text* among the nodes of the logger, which was fixed
node by node.  The record goes by the newest *field* of all the chains it passed, and by the main topic and scope
if that field is no text.

## Key results

- `Chain.Built.target_eq`: what the gate goes by
- `Logger.route_finished`: what the record goes by
- `Logger.routingKey_finished`: where the two are the same, so are the gate's question and the record's key
- `Logger.isEnabled_unrouted`: where they differ, an entry can pass the gate and find no output
-/

namespace Logbook

variable {σ : Type}

/-! ## Fields that need no computing -/

/-- The first that `f` finds is the first that `f` and then `g` find, if `g` finds something there. -/
theorem findSome?_bind_of_eq_some {α β γ : Type} {f : α → Option β} {g : β → Option γ} {as : List α} {b : β}
    {c : γ} (hf : as.findSome? f = some b) (hg : g b = some c) :
    as.findSome? (fun a => (f a).bind g) = some c := by
  -- by induction on the list, up to the first that is some
  induction as with
  | nil => cases hf
  | cons a as ih =>
    rw [List.findSome?_cons] at hf ⊢
    cases ha : f a with
    | none =>
      rw [ha] at hf
      exact ih hf
    | some b' =>
      rw [ha] at hf
      cases hf
      simp [hg]

/-- Nothing is found in what is not found. -/
theorem findSome?_bind_of_eq_none {α β γ : Type} {f : α → Option β} {g : β → Option γ} {as : List α}
    (hf : as.findSome? f = none) : as.findSome? (fun a => (f a).bind g) = none := by
  rw [List.findSome?_eq_none_iff] at hf ⊢
  intro a ha
  rw [hf a ha, Option.bind_none]

/-- Visiting the entries gives a key the value that visiting its entry gives in any state. -/
theorem Fields.find?_mapM {α β : Type} {g : String → α → StateM σ β} {key : String} {u : α → β} {b : Option String}
    {f : Fields α b} (hg : ∀ v, f.find? key = some v → ∀ hidden, (g key v hidden).1 = u v) (hidden : σ) :
    (f.mapM g hidden).1.find? key = (f.find? key).map u := by
  obtain ⟨hidden', hfind⟩ := exists_find?_mapM (f := g) key f hidden
  rw [hfind]
  exact Option.map_congr fun v hv => hg v hv hidden'

namespace Record

/-- The keys of topic and scope. -/
def targetKeys : List String := [topicKey, scopeKey]

/-- A topic and a scope are fields that route. -/
theorem isRouting_of_mem : ∀ {key}, key ∈ targetKeys → Redaction.isRouting key := by
  unfold targetKeys
  decide

/-- Topic and scope, where the record has them, are not deferred. -/
def hasPlainTarget (r : Record) : Bool := targetKeys.all fun key => (r.find? key).all (!·.isDeferred)

/-- A topic and a scope that are there do not have to be computed. -/
theorem hasPlainTarget_iff (r : Record) :
    r.hasPlainTarget ↔ ∀ key ∈ targetKeys, ∀ v, r.find? key = some v → v.isDeferred = false := by
  simp [hasPlainTarget, Option.all_eq_true]

/-- The text of a field that is not deferred is there at once. -/
theorem textOf_eq (s : Suppliers σ) {r : Record} {key : String}
    (h : ∀ v, r.find? key = some v → v.isDeferred = false) :
    r.textOf s key = pure ((r.find? key).bind Value.text?) := by
  rw [textOf]
  cases hv : r.find? key with
  | none => rfl
  | some v => simp [Value.resolve_of_not_deferred s (h v hv)]

/-- The routing key as the fields have it, deferred ones counting for nothing. -/
def route (r : Record) : RoutingKey :=
  ⟨((r.find? levelKey).bind Value.level?).getD .unset, ((r.find? topicKey).bind Value.text?).getD Target.main,
    ((r.find? scopeKey).bind Value.text?).getD Target.main⟩

/-- Where topic and scope are not deferred, asking for the routing key gives what is in the fields and changes
nothing. -/
theorem routingKey_eq (s : Suppliers σ) {r : Record} (h : r.hasPlainTarget) (hidden : σ) :
    r.routingKey s hidden = (r.route, hidden) := by
  rw [hasPlainTarget_iff] at h
  rw [routingKey, textOf_eq s (h topicKey (by decide)), textOf_eq s (h scopeKey (by decide))]
  rfl

/-- Redaction leaves the routing fields as they are, unless they are deferred. -/
theorem find?_redact (s : Suppliers σ) (rules : List Redaction.Rule) {r : Record} {key : String}
    (hkey : Redaction.isRouting key) (h : ∀ v, r.find? key = some v → v.isDeferred = false) (hidden : σ) :
    (r.redact s rules hidden).1.find? key = r.find? key := by
  have hvisit : (r.redact s rules hidden).1.find? key = (r.find? key).map id := by
    refine Fields.find?_mapM (fun v hv hidden => ?_) hidden
    -- a routing field skips the rules and is only resolved
    rw [if_pos hkey, Value.resolve_of_not_deferred s (h v hv)]
    rfl
  rw [hvisit, Option.map_id_fun, id]

end Record

/-! ## Chains -/

/-- What stands under a key after entries were set: what stood there, or else the first value that is not null. -/
theorem Record.find?_setAll (r : Record) (entries : List (String × Value)) (key : String) :
    (r.setAll entries).find? key
      = (r.find? key).or (entries.findSome? fun e => if key = e.1 ∧ e.2.isNull = false then some e.2 else none) := by
  induction entries generalizing r with
  | nil => simp [setAll]
  | cons e entries ih =>
    rw [setAll, List.foldl_cons, ← setAll, ih, find?_set, List.findSome?_cons]
    -- the first entry counts only if nothing stands under its key yet
    by_cases hset : key = e.1 ∧ e.2.isNull = false
    · obtain ⟨rfl, hnull⟩ := hset
      cases hr : r.find? e.1 <;> simp [hnull]
    · rw [if_neg hset, if_neg fun h => hset ⟨h.1, h.2.1⟩]

/-- Setting other keys leaves a key as it is. -/
theorem Record.find?_setAll_of_forall_ne {entries : List (String × Value)} {key : String}
    (h : ∀ e ∈ entries, key ≠ e.1) (r : Record) : (r.setAll entries).find? key = r.find? key := by
  rw [find?_setAll, List.findSome?_eq_none_iff.2 fun e he => if_neg fun hset => h e he hset.1, Option.or_none]

/-- What the identity of a program holds under a key. -/
theorem Host.find?_identity_eq (h : Host) (name key : String) :
    (h.identity name).find? key
      = if key = Record.nameKey then some (.text name)
        else if key = Record.hostKey then some (.text h.name)
        else if key = Record.processKey then some (.uint h.process)
        else if key = Record.threadKey then some (.deferred h.thread)
        else none := by
  rw [identity, Record.ofEntries, Record.find?_setAll]
  -- none of the four values is null, so the first entry of the key is found
  simp only [Record.empty, Fields.find?_nil, Option.none_or, List.findSome?_cons, List.findSome?_nil, Value.isNull,
    and_true]
  split_ifs <;> rfl

/-- The identity of a program routes nothing. -/
theorem Host.find?_identity (h : Host) (name : String) {key : String} (hkey : Redaction.isRouting key) :
    (h.identity name).find? key = none := by
  have hkeys : ∀ other ∈ [Record.nameKey, Record.hostKey, Record.processKey, Record.threadKey],
      Redaction.isRouting other = false := by decide
  have hne : ∀ other ∈ [Record.nameKey, Record.hostKey, Record.processKey, Record.threadKey], key ≠ other := by
    rintro other hother rfl
    exact absurd (hkeys _ hother) (by simp [hkey])
  simp only [List.forall_mem_cons] at hne
  rw [find?_identity_eq, if_neg hne.1, if_neg hne.2.1, if_neg hne.2.2.1, if_neg hne.2.2.2.1]

namespace Chain

/-- The newest text that the nodes have under a key. -/
def text? (c : Chain) (key : String) : Option String :=
  c.nodes.findSome? fun n => (n.record.find? key).bind Value.text?

/-- The text of a leaf comes before those of its ancestors. -/
theorem text?_mk (name : String) (identity : Record) (leaf : Node) (ancestors : List Node) (key : String) :
    (mk name identity leaf ancestors).text? key
      = ((leaf.record.find? key).bind Value.text?).or
        (ancestors.findSome? fun n => (n.record.find? key).bind Value.text?) := by
  rw [text?, nodes, List.findSome?_cons]
  cases (leaf.record.find? key).bind Value.text? <;> rfl

/-- A chain that was begun and derived with records whose topic and scope are not deferred. -/
inductive Built (s : Suppliers σ) : Chain → Prop where
  | root (h : Host) (name : String) {record : Record} (hr : record.hasPlainTarget) (rules : List Redaction.Rule)
      (hidden : σ) : Built s (Chain.root s h name record rules hidden).1
  | derive {c : Chain} (hc : Built s c) {record : Record} (hr : record.hasPlainTarget)
      (rules : List Redaction.Rule) (hidden : σ) : Built s (c.derive s record rules hidden).1

/-- A node has the texts of its record, or else those it is given. -/
theorem node_target (s : Suppliers σ) {record : Record} (hr : record.hasPlainTarget) (rules : List Redaction.Rule)
    (topic scope : String) (hidden : σ) :
    let n := (node s record rules topic scope hidden).1
    n.record = record ∧ n.topic = ((record.find? Record.topicKey).bind Value.text?).getD topic ∧
      n.scope = ((record.find? Record.scopeKey).bind Value.text?).getD scope := by
  rw [Record.hasPlainTarget_iff] at hr
  rw [node, Record.textOf_eq s (hr Record.topicKey (by decide)), Record.textOf_eq s (hr Record.scopeKey (by decide))]
  exact ⟨rfl, rfl, rfl⟩

/-- A field of the record comes first, then the first of the nodes. -/
theorem find?_flatten (c : Chain) {key : String} (hidentity : c.identity.find? key = none) (r : Record) :
    (c.flatten r).find? key = (r.find? key).or (c.field? key) := by
  rw [flatten_eq_overlay, Record.find?_overlay, field?, hidentity, List.findSome?_cons, hidentity,
    List.findSome?_cons, List.findSome?_map]
  cases r.find? key <;> rfl

namespace Built

variable {s : Suppliers σ} {c : Chain}

/-- The identity routes nothing. -/
theorem find?_identity (h : c.Built s) {key : String} (hkey : Redaction.isRouting key) :
    c.identity.find? key = none := by
  induction h with
  | root h name _ rules hidden => exact h.find?_identity name hkey
  | derive _ _ _ _ ih => exact ih

/-- No topic or scope that it gives a record is deferred. -/
theorem isDeferred_of_field? (h : c.Built s) {key : String} (hkey : key ∈ Record.targetKeys) {v : Value}
    (hv : c.field? key = some v) : v.isDeferred = false := by
  -- every node was made from a record with a plain target, and the identity has none of the keys
  have hnodes : ∀ n ∈ c.nodes, n.record.hasPlainTarget := by
    clear hv
    induction h with
    | root h name hr rules hidden =>
      intro n hn
      rw [List.mem_singleton.1 hn]
      exact hr
    | derive hc hr rules hidden ih =>
      intro n hn
      rcases List.mem_cons.1 hn with rfl | hn
      · exact hr
      · exact ih n hn
  rw [field?, h.find?_identity (Record.isRouting_of_mem hkey), Option.none_or] at hv
  obtain ⟨n, hn, hfound⟩ := List.exists_of_findSome?_eq_some hv
  exact (Record.hasPlainTarget_iff n.record).1 (hnodes n hn) key hkey v hfound

/-- The topic and the scope are the newest texts. -/
theorem target_eq (h : c.Built s) : c.topic = (c.text? Record.topicKey).getD Target.main ∧
    c.scope = (c.text? Record.scopeKey).getD Target.main := by
  induction h with
  | @root h name record hr rules hidden =>
    let n := (node s record rules Target.main Target.main hidden).1
    obtain ⟨hrecord, htopic, hscope⟩ := node_target s hr rules Target.main Target.main hidden
    show n.topic = ((mk name _ n []).text? Record.topicKey).getD _ ∧
      n.scope = ((mk name _ n []).text? Record.scopeKey).getD _
    rw [htopic, hscope, text?_mk, text?_mk, hrecord, Option.getD_or, Option.getD_or]
    exact ⟨rfl, rfl⟩
  | @derive c hc record hr rules hidden ih =>
    let n := (node s record rules c.topic c.scope hidden).1
    obtain ⟨hrecord, htopic, hscope⟩ := node_target s hr rules c.topic c.scope hidden
    show n.topic = ((mk c.name c.identity n c.nodes).text? Record.topicKey).getD _ ∧
      n.scope = ((mk c.name c.identity n c.nodes).text? Record.scopeKey).getD _
    -- a text of the new record comes first, and where there is none the chain before has settled it
    rw [htopic, hscope, text?_mk, text?_mk, hrecord, Option.getD_or, Option.getD_or, ih.1, ih.2]
    exact ⟨rfl, rfl⟩

end Built

/-- Finishing a record leaves its routing fields as they are and adds those of the chain, unless they are
deferred. -/
theorem find?_finish (s : Suppliers σ) (c : Chain) {key : String} (hkey : Redaction.isRouting key)
    (hidentity : c.identity.find? key = none) {r : Record}
    (hv : ∀ v, (r.find? key).or (c.field? key) = some v → v.isDeferred = false) (hidden : σ) :
    (c.finish s r hidden).1.find? key = (r.find? key).or (c.field? key) := by
  have hflat := c.find?_flatten hidentity r
  rw [finish, Record.find?_redact s c.rules hkey (by rw [hflat]; exact hv), hflat]

/-- Finish a record with one chain after another. -/
def finishAll (s : Suppliers σ) : List Chain → Record → StateM σ Record
  | [], r => pure r
  | c :: rest, r => do
    let r ← c.finish s r
    finishAll s rest r

/-- What a record holds under a routing key after all chains: the first field that it or one of them has. -/
theorem find?_finishAll (s : Suppliers σ) {key : String} (hkey : Redaction.isRouting key) {chains : List Chain}
    (hidentity : ∀ c ∈ chains, c.identity.find? key = none) {r : Record}
    (hv : ∀ v, (r.find? key).or (chains.findSome? (·.field? key)) = some v → v.isDeferred = false) (hidden : σ) :
    (finishAll s chains r hidden).1.find? key = (r.find? key).or (chains.findSome? (·.field? key)) := by
  induction chains generalizing r hidden with
  | nil => exact (Option.or_none).symm
  | cons c chains ih =>
    -- the first chain adds its field, and the record it leaves goes on to the others
    have hsplit : (r.find? key).or ((c :: chains).findSome? (·.field? key))
        = ((r.find? key).or (c.field? key)).or (chains.findSome? (·.field? key)) := by
      rw [List.findSome?_cons, Option.or_assoc]
      cases c.field? key <;> rfl
    rw [hsplit] at hv ⊢
    have hfirst := find?_finish s c hkey (hidentity c List.mem_cons_self)
      (fun v h => hv v (by rw [h]; rfl)) hidden
    show (finishAll s chains (c.finish s r hidden).1 (c.finish s r hidden).2).1.find? key = _
    rw [ih (fun c hc => hidentity c (List.mem_cons_of_mem _ hc)) (by rw [hfirst]; exact hv), hfirst]

end Chain

namespace Sink

/-- The chains that a record passes before it is delivered. -/
def chains : Sink → List Chain
  | through chain next => chain :: next.chains
  | _ => []

/-- Where the chains of a sink lead to: an output, nowhere, or a fan. -/
def terminal : Sink → Sink
  | through _ next => next.terminal
  | sink => sink

/-- A sink delivers to its terminal what its chains make of a record. -/
theorem write_terminal (s : Suppliers σ) : (sink : Sink) → (r : Record) → (w : World σ) →
    write s r sink w
      = let finished := Chain.finishAll s sink.chains r w.hidden
        write s finished.1 sink.terminal ⟨finished.2, w.store⟩
  | output _, _, _ => rfl
  | nowhere, _, _ => rfl
  | fan _, _, _ => rfl
  | through chain next, r, w => by
    rw [write_through]
    exact write_terminal s next _ _

/-- A sink accepts what its terminal accepts. -/
theorem accepts_terminal (st : Store) (level : Level) (topic scope : String) (sink : Sink) :
    sink.accepts st level topic scope = sink.terminal.accepts st level topic scope := by
  cases sink with
  | output id => rfl
  | nowhere => rfl
  | fan branches => rfl
  | through chain next => exact accepts_terminal st level topic scope next

end Sink

/-! ## Loggers -/

namespace Logger

/-- An entry is made of its time, its level, its message, which ends with that of the error if there is one, and the
error. -/
theorem entry_eq_ofEntries (now : Instant) (level : Level) (message : String) (error : Option ErrorChain) :
    entry now level message error
      = .ofEntries ([(Record.timeKey, .time now), (Record.levelKey, .level level),
          (Record.messageKey, .text (error.elim message fun e => message ++ ": " ++ e.message))]
        ++ (error.map fun e => (Record.errorKey, e.value)).toList) := by
  cases error <;> simp [entry, Record.ofEntries, Record.setAll]

/-- An entry has its own fields only. -/
theorem find?_entry_eq (now : Instant) (level : Level) (message : String) (error : Option ErrorChain) (key : String) :
    (entry now level message error).find? key
      = if key = Record.timeKey then some (.time now)
        else if key = Record.levelKey then some (.level level)
        else if key = Record.messageKey then some (.text (error.elim message fun e => message ++ ": " ++ e.message))
        else if key = Record.errorKey then error.map ErrorChain.value
        else none := by
  rw [entry_eq_ofEntries, Record.ofEntries, Record.find?_setAll]
  cases error <;>
    simp [Record.empty, List.findSome?_cons, ErrorChain.value, Value.ofErrorChain, Value.isNull] <;>
    split_ifs <;> rfl

/-- An entry has a level, but neither topic nor scope. -/
theorem find?_entry (now : Instant) (level : Level) (message : String) (error : Option ErrorChain) :
    (entry now level message error).find? Record.levelKey = some (.level level) ∧
      ∀ key ∈ Record.targetKeys, (entry now level message error).find? key = none := by
  have hkeys : ∀ key ∈ Record.targetKeys, key ≠ Record.timeKey ∧ key ≠ Record.levelKey ∧
      key ≠ Record.messageKey ∧ key ≠ Record.errorKey := by
    unfold Record.targetKeys
    decide
  refine ⟨?_, fun key hkey => ?_⟩
  · rw [find?_entry_eq, if_neg (by decide), if_pos rfl]
  · obtain ⟨htime, hlevel, hmessage, herror⟩ := hkeys key hkey
    rw [find?_entry_eq, if_neg htime, if_neg hlevel, if_neg hmessage, if_neg herror]

/-- The routing key of a finished entry: its level, and the first fields that the chains have for topic and
scope, if these are texts. -/
theorem route_finished (s : Suppliers σ) {chains : List Chain} (h : ∀ c ∈ chains, c.Built s) (now : Instant)
    (level : Level) (message : String) (error : Option ErrorChain) (hidden : σ) :
    let r := (Chain.finishAll s chains (entry now level message error) hidden).1
    r.hasPlainTarget ∧
      r.route = ⟨level,
        ((chains.findSome? (·.field? Record.topicKey)).bind Value.text?).getD Target.main,
        ((chains.findSome? (·.field? Record.scopeKey)).bind Value.text?).getD Target.main⟩ := by
  intro r
  obtain ⟨hlevel, htarget⟩ := find?_entry now level message error
  have hidentity : ∀ {key}, Redaction.isRouting key → ∀ c ∈ chains, c.identity.find? key = none :=
    fun hkey c hc => (h c hc).find?_identity hkey
  have hdeferred : ∀ key ∈ Record.targetKeys, ∀ v,
      chains.findSome? (·.field? key) = some v → v.isDeferred = false := by
    intro key hkey v hv
    obtain ⟨c, hc, hfield⟩ := List.exists_of_findSome?_eq_some hv
    exact (h c hc).isDeferred_of_field? hkey hfield
  -- the level is the entry's own, which comes before those of the chains
  have hfoundLevel : r.find? Record.levelKey = some (.level level) := by
    rw [Chain.find?_finishAll s (by decide) (hidentity (by decide)), hlevel, Option.some_or]
    rw [hlevel, Option.some_or]
    rintro v ⟨⟩
    rfl
  -- topic and scope are those of the chains, the entry having none
  have hfound : ∀ key ∈ Record.targetKeys, r.find? key = chains.findSome? (·.field? key) := by
    intro key hkey
    have hrouting := Record.isRouting_of_mem hkey
    rw [Chain.find?_finishAll s hrouting (hidentity hrouting), htarget key hkey, Option.none_or]
    rw [htarget key hkey, Option.none_or]
    exact hdeferred key hkey
  refine ⟨(Record.hasPlainTarget_iff r).2 fun key hkey v hv => ?_, ?_⟩
  · rw [hfound key hkey] at hv
    exact hdeferred key hkey v hv
  · rw [Record.route, hfoundLevel, hfound Record.topicKey (by decide), hfound Record.scopeKey (by decide)]
    rfl

/-- What the gate goes by under a key is what the records go by.  If the logger's own chain has a field of the
key, the newest one is a text or none of them is; if it has none, then the first field that the chains behind it
have, if any, is no text. -/
def settles (l : Logger) (key : String) : Bool :=
  match l.chain.field? key with
  | some v => v.text?.isSome || (l.chain.text? key).isNone
  | none => ((l.sink.chains.findSome? (·.field? key)).bind Value.text?).isNone

/-- Where the logger settles a key, the first field of all chains has the text that the gate goes by. -/
theorem bind_text?_of_settles {l : Logger} {key : String} (hidentity : l.chain.identity.find? key = none)
    (h : l.settles key) :
    (l.asSink.chains.findSome? (·.field? key)).bind Value.text? = l.chain.text? key := by
  have hfield : l.chain.field? key = l.chain.nodes.findSome? fun n => n.record.find? key := by
    rw [Chain.field?, hidentity, Option.none_or]
  rw [asSink, Sink.chains, List.findSome?_cons]
  cases hfirst : l.chain.field? key with
  | some v =>
    -- the chain's own field hides those behind it, and no older text can show through it
    rw [hfirst] at hfield
    cases htext : v.text? with
    | some t =>
      rw [Chain.text?, findSome?_bind_of_eq_some hfield.symm htext]
      exact htext
    | none =>
      have hnone : l.chain.text? key = none := by simpa [settles, hfirst, htext] using h
      exact htext.trans hnone.symm
  | none =>
    -- without a field of its own the chain has no text, so those behind it must not give one
    have hnone : (l.sink.chains.findSome? (·.field? key)).bind Value.text? = none := by
      simpa only [settles, hfirst, Option.isNone_iff_eq_none] using h
    rw [hfirst] at hfield
    rw [Chain.text?, findSome?_bind_of_eq_none hfield.symm]
    exact hnone

/-- **The gate and the router agree** where the logger settles topic and scope.  An entry comes to the terminal of
the sink, through all chains, as a record whose routing key is the level of the entry with the topic and the scope
of the logger; and these are what the gate asks the terminal for. -/
theorem routingKey_finished (s : Suppliers σ) (l : Logger) (hbuilt : ∀ c ∈ l.asSink.chains, c.Built s)
    (htopic : l.settles Record.topicKey) (hscope : l.settles Record.scopeKey) (now : Instant) (level : Level)
    (message : String) (error : Option ErrorChain) (w : World σ) :
    let e := entry now level message error
    let finished := Chain.finishAll s l.asSink.chains e w.hidden
    l.asSink.write s e w = l.sink.terminal.write s finished.1 ⟨finished.2, w.store⟩ ∧
      (∀ hidden, finished.1.routingKey s hidden = (⟨level, l.topic, l.scope⟩, hidden)) ∧
      l.isEnabled w.store level = l.sink.terminal.accepts w.store level l.topic l.scope := by
  intro e finished
  have hown : l.chain.Built s := hbuilt l.chain List.mem_cons_self
  obtain ⟨hplain, hroute⟩ := route_finished s hbuilt now level message error w.hidden
  refine ⟨?_, fun hidden => ?_, ?_⟩
  · exact Sink.write_terminal s l.asSink e w
  · -- the record routes by the fields of the chain, and these are settled
    rw [Record.routingKey_eq s hplain, hroute, bind_text?_of_settles (hown.find?_identity (by decide)) htopic,
      bind_text?_of_settles (hown.find?_identity (by decide)) hscope, topic, scope, hown.target_eq.1,
      hown.target_eq.2]
  · rw [isEnabled, Sink.accepts_terminal]

/-- A logger that settles both, although an older topic of its own is a number and the logger behind it has a
topic of its own. -/
theorem routingKey_finished_nested :
    let s : Suppliers Unit := ⟨fun _ => pure .null, fun _ => pure .null⟩
    let h : Host := ⟨"host", 1, 0⟩
    let w : World Unit := ⟨(), (Store.empty.add (.memory (.uniform .info) .bunyan)).2⟩
    let inner := (root s h "inner" (.fan [.output 0]) (Record.empty.set Record.topicKey (.text "late")) [] w).1
    let outer := (root s h "outer" inner.asSink (Record.empty.set Record.topicKey (.int 5)) [] w).1
    let record := (Record.empty.set Record.topicKey (.text "auth")).set Record.scopeKey (.text "login")
    let l := outer.withChain (outer.chain.derive s record [] ()).1
    let finished := Chain.finishAll s l.asSink.chains (entry ⟨0, 0⟩ .info "m" none) ()
    (∀ c ∈ l.asSink.chains, c.Built s) ∧ l.settles Record.topicKey ∧ l.settles Record.scopeKey ∧
      finished.1.routingKey s () = (⟨.info, "auth", "login"⟩, ()) := by
  intro s h w inner outer record l finished
  -- both chains are built by the library
  have hbuilt : ∀ c ∈ l.asSink.chains, c.Built s := by
    intro c hc
    have hchains : l.asSink.chains = [l.chain, inner.chain] := rfl
    rw [hchains, List.mem_pair] at hc
    rcases hc with rfl | rfl
    · exact .derive (.root h "outer" (by decide) [] ()) (by decide) [] ()
    · exact .root h "inner" (by decide) [] ()
  have htopic : l.settles Record.topicKey := by decide
  have hscope : l.settles Record.scopeKey := by decide
  exact ⟨hbuilt, htopic, hscope,
    (routingKey_finished s l hbuilt htopic hscope ⟨0, 0⟩ .info "m" none w).2.1 ()⟩

/-- A number as topic takes a record out of the topic that the gate still goes by.  The entry passes the gate, no
output accepts it, and it is counted as filtered out. -/
theorem isEnabled_unrouted :
    let s : Suppliers Unit := ⟨fun _ => pure .null, fun _ => pure .null⟩
    let filter := (Filter.uniform .info).set .debug "auth" "*"
    let base := root s ⟨"host", 1, 0⟩ "svc" (.fan [.output 0]) .empty []
      ⟨(), (Store.empty.add (.memory filter .bunyan)).2⟩
    let named := base.1.withChain (base.1.chain.withTopic s (.text "auth") ()).1
    let l := named.withChain (named.chain.withTopic s (.int 5) ()).1
    let finished := Chain.finishAll s l.asSink.chains (entry ⟨0, 0⟩ .debug "m" none) ()
    (∀ c ∈ l.asSink.chains, c.Built s) ∧ (finished.1.routingKey s ()).1 ≠ ⟨.debug, l.topic, l.scope⟩ ∧
      l.isEnabled base.2.store .debug = true ∧
      (l.emit s ⟨0, 0⟩ .debug (pure "m") none base.2).2.store.countersOf l.counters = ⟨0, 1, 0⟩ := by
  intro s filter base named l finished
  refine ⟨fun c hc => ?_, by decide, by decide, by decide⟩
  rw [List.mem_singleton.1 hc]
  exact .derive (.derive (.root ⟨"host", 1, 0⟩ "svc" (by decide) [] ()) (by decide) [] ()) (by decide) [] ()

end Logger

end Logbook
