import Logbook.Proofs.Session.Journal
import Mathlib.Data.List.Forall2

/-!
# Sessions over a memory

The loggers of a session whose root writes to a memory leave exactly the records that the session's journal
says, and count exactly its calls.

## Key results

- `Chain.flatten_eq_overlay`: the fields of an entry come from the sources of its call
- `Logger.emit_memory`: what one entry does to a memory
- `Session.Tracks.step`: one step of a session is one step of its journal
- `Session.records_run_start`: the records and the counters of a whole session
-/

namespace Logbook

variable {σ : Type}

/-! ## Loggers and their lineages -/

def Node.layer (n : Node) : Layer := ⟨n.record, n.rules⟩

def Chain.lineage (c : Chain) : Lineage := ⟨c.topic, c.scope, c.nodes.map Node.layer⟩

/-- Merging node after node gives each key the value of the first source with that key. -/
theorem Chain.flatten_eq_overlay (c : Chain) (entry : Record) :
    c.flatten entry = Record.overlay (c.identity :: entry :: c.nodes.map (·.record)) := by
  -- a node gives a key its value only where nothing before it did
  have merged : ∀ (nodes : List Node) (r : Record) (key : String),
      (nodes.foldl (fun r n => r.merge n.record) r).find? key
        = (r.find? key).or ((nodes.map (·.record)).findSome? (·.find? key)) := by
    intro nodes
    induction nodes with
    | nil => intro r key; simp
    | cons n nodes ih =>
      intro r key
      rw [List.foldl_cons, ih, Record.find?_merge, List.map_cons, List.findSome?_cons, Option.or_assoc]
      cases n.record.find? key <;> rfl
  apply Fields.ext
  intro key
  rw [Chain.flatten, merged, Record.find?_merge, Record.find?_overlay, List.findSome?_cons,
    List.findSome?_cons, Option.or_assoc]
  cases c.identity.find? key <;> cases entry.find? key <;> rfl

/-- Deriving a chain derives its lineage. -/
theorem Chain.lineage_derive (s : Suppliers σ) (c : Chain) (record : Record) (rules : List Redaction.Rule)
    (hidden : σ) :
    c.lineage.derive s record rules hidden
      = ((c.derive s record rules hidden).1.lineage, (c.derive s record rules hidden).2) := rfl

/-- The redacted record of an entry is the one its call says. -/
theorem Chain.finish_eq (s : Suppliers σ) (c : Chain) (call : Call σ) (h : call.lineage = c.lineage) :
    c.finish s call.entry call.text.2 = call.finish s c.identity := by
  have hrecords : call.lineage.layers.map (·.record) = c.nodes.map (·.record) := by
    rw [h, Chain.lineage, List.map_map]
    rfl
  have hrules : call.rules = c.rules := by
    rw [Call.rules, h, Chain.lineage, Chain.rules, ← List.map_reverse, List.flatMap_map]
    rfl
  rw [Chain.finish, Chain.flatten_eq_overlay, Call.finish, Call.sources, hrecords, hrules]

/-! ## One entry -/

/-- A memory that holds records. -/
def Output.holding (filter : Filter) (layout : Layout) (records : List Record) : Output :=
  { Output.memory filter layout with medium := .memory records }

/-- Filtering more leaves the records. -/
theorem Output.filterMore_holding (f : Filter) (layout : Layout) (records : List Record) :
    (Output.holding f layout records).filterMore = .holding f.more layout records := by
  have hlevel : (Output.holding f layout records).filterLevel Target.any Target.any = f.default := rfl
  rw [Output.filterMore, Filter.more, hlevel]
  split <;> rfl

/-- Filtering less leaves the records. -/
theorem Output.filterLess_holding (f : Filter) (layout : Layout) (records : List Record) :
    (Output.holding f layout records).filterLess = .holding f.less layout records := by
  have hlevel : (Output.holding f layout records).filterLevel Target.any Target.any = f.default := rfl
  rw [Output.filterLess, Filter.less, hlevel]
  split <;> rfl

/-- The gate of a logger over a memory asks the memory's filter. -/
theorem Logger.isEnabled_memory {l : Logger} {st : Store} {id : Nat} {layout : Layout}
    {records : List Record} {call : Call σ} (hsink : l.sink = .output id)
    (hline : call.lineage = l.chain.lineage)
    (hout : st.output? id = some (.holding call.filter layout records)) :
    l.isEnabled st call.level = call.passes := by
  rw [Logger.isEnabled, hsink, Sink.accepts, hout, Call.passes, hline]
  rfl

/-- Writing a record through the chain of a logger over a memory keeps the record of the call. -/
theorem Logger.write_memory (s : Suppliers σ) {l : Logger} {st : Store} {id : Nat} {layout : Layout}
    {records : List Record} {call : Call σ} (hsink : l.sink = .output id)
    (hline : call.lineage = l.chain.lineage)
    (hout : st.output? id = some (.holding call.filter layout records)) :
    l.asSink.write s call.entry ⟨call.text.2, st⟩
      = (.ok (), ⟨(call.finish s l.chain.identity).2,
          st.setMedium id (.memory (records ++ [call.record s l.chain.identity layout]))⟩) := by
  have hfinish := l.chain.finish_eq s call hline
  rw [Logger.asSink, hsink, Sink.write]
  -- the chain hands the finished record on, together with the hidden state finishing it left
  show Sink.write s (l.chain.finish s call.entry call.text.2).1 (.output id)
    ⟨(l.chain.finish s call.entry call.text.2).2, st⟩ = _
  rw [hfinish, Sink.write, Output.write]
  simp only [bind, StateT.bind, World.view, hout]
  rfl

/-- What one entry does to a memory and to the counters. -/
theorem Logger.emit_memory (s : Suppliers σ) {l : Logger} {st : Store} {id : Nat} {layout : Layout}
    {records : List Record} {call : Call σ} (hsink : l.sink = .output id)
    (hline : call.lineage = l.chain.lineage)
    (hout : st.output? id = some (.holding call.filter layout records)) :
    (l.emit s call.now call.level call.message call.error ⟨call.hidden, st⟩).2
      = if call.passes then
          ⟨(call.finish s l.chain.identity).2,
            (st.setMedium id (.memory (records ++ [call.record s l.chain.identity layout]))).count
              l.counters Counters.countLogged⟩
        else ⟨call.hidden, st.count l.counters Counters.countFiltered⟩ := by
  have hgate := Logger.isEnabled_memory hsink hline hout
  have hwrite := Logger.write_memory s hsink hline hout
  rw [Logger.emit]
  simp only [bind, StateT.bind, World.view, hgate]
  -- a call that is refused ends at the gate
  cases call.passes with
  | false => rfl
  | true =>
    rw [if_pos rfl, if_pos rfl]
    show (World.update (fun st' => ((), l.settle (l.asSink.write s call.entry ⟨call.text.2, st⟩).1 st'))
      (l.asSink.write s call.entry ⟨call.text.2, st⟩).2).2 = _
    rw [hwrite]
    rfl

/-! ## The session and its journal -/

/-- The records that the journal says a memory holds. -/
def Journal.records (s : Suppliers σ) (identity : Record) (layout : Layout) (j : Journal σ) : List Record :=
  j.passed.map (Call.record s identity layout)

namespace Session

/-- The session stands where its journal says: every logger writes to the memory and counts for the root,
the memory has the filter and the records of the journal, and the counters count its calls. -/
structure Tracks (s : Suppliers σ) (identity : Record) (layout : Layout) (id : Nat) (x : Session σ)
    (j : Journal σ) : Prop where
  lineages : j.lineages = x.loggers.map (·.chain.lineage)
  alike : ∀ l ∈ x.loggers, l.sink = .output id ∧ l.counters = x.root.counters ∧ l.chain.identity = identity
  hidden : j.hidden = x.world.hidden
  memory : x.world.store.output? id = some (.holding j.filter layout (j.records s identity layout))
  present : x.root.counters < x.world.store.counters.length
  counters : x.world.store.countersOf x.root.counters
    = ⟨.ofNat j.passed.length, .ofNat j.refused.length, 0⟩

namespace Tracks

variable {s : Suppliers σ} {identity : Record} {layout : Layout} {id : Nat} {x : Session σ} {j : Journal σ}

/-- Where the session has a logger the journal has its lineage, and where it has none neither has the
journal. -/
theorem withLogger (h : Tracks s identity layout id x j) {f : Logger → Session σ}
    {g : Lineage → Journal σ} (n : Nat)
    (hstep : ∀ l ∈ x.loggers, Tracks s identity layout id (f l) (g l.chain.lineage)) :
    Tracks s identity layout id (x.withLogger n f) (j.withLineage n g) := by
  rw [Session.withLogger, Journal.withLineage, h.lineages, List.getElem?_map]
  cases hl : x.loggers[n]? with
  | none => exact h
  | some l => exact hstep l (List.mem_of_getElem? hl)

/-- Deriving a logger is tracked. -/
theorem derive (h : Tracks s identity layout id x j) {l : Logger} (hl : l ∈ x.loggers) (record : Record)
    (rules : List Redaction.Rule) :
    Tracks s identity layout id (x.derive s l record rules) (j.derive s l.chain.lineage record rules) := by
  obtain ⟨hsink, hcounters, hidentity⟩ := h.alike l hl
  -- the child, and the hidden state in which asking for its topic and scope leaves the application
  let p := l.chain.derive s record rules x.world.hidden
  have hx : x.derive s l record rules
      = ⟨x.root, x.derived ++ [l.withChain p.1], ⟨p.2, x.world.store⟩⟩ := rfl
  have hj : j.derive s l.chain.lineage record rules
      = ⟨j.lineages ++ [p.1.lineage], j.filter, p.2, j.calls⟩ := by
    rw [Journal.derive, h.hidden, Chain.lineage_derive]
  rw [hx, hj]
  refine ⟨?_, ?_, rfl, h.memory, h.present, h.counters⟩
  · rw [h.lineages]
    simp [loggers, Logger.withChain]
  · intro k hk
    rw [loggers, ← List.cons_append, List.mem_append, List.mem_singleton] at hk
    rcases hk with hk | rfl
    · exact h.alike k hk
    · exact ⟨hsink, hcounters, hidentity⟩

/-- An entry of a logger is a call in the journal. -/
theorem emit (h : Tracks s identity layout id x j) {l : Logger} (hl : l ∈ x.loggers) (now : Instant)
    (level : Level) (message : StateM σ String) (error : Option ErrorChain) :
    Tracks s identity layout id { x with world := (l.emit s now level message error x.world).2 }
      (j.log s identity ⟨l.chain.lineage, j.filter, now, level, message, error, j.hidden⟩) := by
  obtain ⟨hsink, hcounters, rfl⟩ := h.alike l hl
  let call : Call σ := ⟨l.chain.lineage, j.filter, now, level, message, error, j.hidden⟩
  -- what the emission does to the world depends on the entry alone
  have hworld := Logger.emit_memory s hsink (rfl : call.lineage = l.chain.lineage) h.memory
  have hstart : (⟨call.hidden, x.world.store⟩ : World σ) = x.world := by
    show World.mk j.hidden _ = _
    rw [h.hidden]
  rw [hstart] at hworld
  change (l.emit s now level message error x.world).2 = _ at hworld
  rw [hworld, hcounters]
  change Tracks s _ layout id _ (j.log s _ call)
  -- a refused entry moves a counter only; one that passes adds its record as well
  cases hpass : call.passes with
  | false =>
    refine ⟨h.lineages, h.alike, ?_, ?_, ?_, ?_⟩
    · simp [Journal.log, hpass, call]
    · simpa [Journal.records, hpass] using h.memory
    · simpa [Store.count] using h.present
    · -- the count of refused entries rises
      have hcount := Store.countersOf_count Counters.countFiltered h.present
      simp [hpass, hcount, h.counters, Counters.countFiltered]
  | true =>
    refine ⟨h.lineages, h.alike, ?_, ?_, ?_, ?_⟩
    · simp [Journal.log, hpass]
    · simp [Journal.records, hpass, h.memory]
      rfl
    · simpa [Store.count, Store.setMedium, Store.modify] using h.present
    · -- the record is stored first, which moves no counter
      have hcount := Store.countersOf_count (s := x.world.store.setMedium id
        (.memory (j.records s l.chain.identity layout ++ [call.record s l.chain.identity layout])))
        Counters.countLogged h.present
      have hkept : ∀ m, (x.world.store.setMedium id m).countersOf x.root.counters
          = x.world.store.countersOf x.root.counters := fun _ => rfl
      simp [hpass, hcount, hkept, h.counters, Counters.countLogged]

/-- A change of the filter of the memory is one in the journal. -/
theorem change (h : Tracks s identity layout id x j) {l : Logger} (hl : l ∈ x.loggers)
    {f : Output → Output} {g : Filter}
    (hf : ∀ records, f (.holding j.filter layout records) = .holding g layout records) :
    Tracks s identity layout id (x.change (l.sink.modify f)) { j with filter := g } := by
  obtain ⟨hsink, -, -⟩ := h.alike l hl
  have hmodify : l.sink.modify f x.world.store = x.world.store.modify id f := by rw [hsink]; rfl
  -- only the filter of the memory changes
  refine ⟨h.lineages, h.alike, h.hidden, ?_, ?_, ?_⟩
  · show (l.sink.modify f x.world.store).output? id = _
    rw [hmodify, Store.output?_modify, h.memory, Option.map_some, hf]
    rfl
  · show _ < (l.sink.modify f x.world.store).counters.length
    rw [hmodify]
    exact h.present
  · show (l.sink.modify f x.world.store).countersOf _ = _
    rw [hmodify]
    exact h.counters

/-- One step of a session is one step of its journal. -/
theorem step (h : Tracks s identity layout id x j) (a : Step σ) :
    Tracks s identity layout id (x.step s a) (j.step s identity a) := by
  cases a with
  | derive on record rules => exact h.withLogger on fun l hl => h.derive hl record rules
  | emit on now level message error =>
    exact h.withLogger on fun l hl => h.emit hl now level message error
  | setLevel on level topic scope => exact h.withLogger on fun l hl => h.change hl fun _ => rfl
  | filterMore on => exact h.withLogger on fun l hl => h.change hl fun _ => Output.filterMore_holding ..
  | filterLess on => exact h.withLogger on fun l hl => h.change hl fun _ => Output.filterLess_holding ..

/-- A whole session is what its journal says. -/
theorem run (h : Tracks s identity layout id x j) (steps : List (Step σ)) :
    Tracks s identity layout id (x.run s steps) (j.run s identity steps) := by
  induction steps generalizing x j with
  | nil => exact h
  | cons a steps ih => exact ih (h.step a)

end Tracks

/-- A new root logger over an empty memory stands where the journal starts. -/
theorem tracks_start (s : Suppliers σ) (h : Host) (name : String) (record : Record)
    (rules : List Redaction.Rule) {filter : Filter} {layout : Layout} {id : Nat} {w : World σ}
    (hmem : w.store.output? id = some (.memory filter layout)) :
    Tracks s (h.identity name) layout id (start s h name (.output id) record rules w)
      (Journal.start s record rules filter w.hidden) := by
  -- one logger, and neither records nor counts
  refine ⟨rfl, ?_, rfl, hmem, ?_, ?_⟩
  · intro l hl
    rw [List.mem_singleton.1 hl]
    exact ⟨rfl, rfl, rfl⟩
  · show w.store.counters.length < (w.store.counters ++ [Counters.zero]).length
    simp
  · show (w.store.counters ++ [Counters.zero]).getD w.store.counters.length .zero = _
    simp
    rfl

/-- **A session over a memory.**  After any steps the memory holds one record for each entry that got
through the filter in force at its call, in the order of the calls.  Each is laid out from the redacted
record that has, for each key, the value of the first of identity, entry and layers from the newest to the
oldest.  The root has counted these records and the refused entries, as words of 64 bits, and lost none. -/
theorem records_run_start (s : Suppliers σ) (h : Host) (name : String) (record : Record)
    (rules : List Redaction.Rule) (filter : Filter) (layout : Layout) (id : Nat) (w : World σ)
    (hmem : w.store.output? id = some (.memory filter layout)) (steps : List (Step σ)) :
    let x := (start s h name (.output id) record rules w).run s steps
    let j := (Journal.start s record rules filter w.hidden).run s (h.identity name) steps
    j.lineages.map (fun g => (g.topic, g.scope)) = x.loggers.map (fun l => (l.topic, l.scope)) ∧
    ∃ records : List Record,
      x.world.store.output? id = some (.holding j.filter layout records) ∧
      List.Forall₂ (Call.Leaves s (h.identity name) layout) j.passed records ∧
      x.world.store.countersOf x.root.counters
        = ⟨.ofNat records.length, .ofNat j.refused.length, 0⟩ := by
  intro x j
  have hstart := tracks_start s h name record rules hmem
  have htracks : Tracks s (h.identity name) layout id x j := hstart.run steps
  refine ⟨?_, j.records s (h.identity name) layout, htracks.memory, ?_, ?_⟩
  · rw [htracks.lineages, List.map_map]
    rfl
  · rw [Journal.records, List.forall₂_map_right_iff, List.forall₂_same]
    intro c _
    exact c.leaves_record s (h.identity name) layout
  · rw [htracks.counters, Journal.records, List.length_map]

/-- Debug entries of one topic get through at once, the others once the filter lets one level more
through. -/
theorem records_run_start_topic :
    let s : Suppliers Unit := ⟨fun _ => pure .null, fun _ => pure .null⟩
    let filter := (Filter.uniform .info).set .debug "auth" "*"
    let w : World Unit := ⟨(), (Store.empty.add (.memory filter .bunyan)).2⟩
    let steps : List (Step Unit) :=
      [.derive 0 (Record.empty.set Record.topicKey (.text "auth")) [.keys (.ofList ["password"])],
        .emit 1 ⟨0, 0⟩ .debug (pure "heard") none, .emit 0 ⟨0, 0⟩ .debug (pure "refused") none,
        .filterLess 1, .emit 0 ⟨0, 0⟩ .debug (pure "heard") (some ⟨"fault", []⟩)]
    let x := (start s ⟨"host", 1, 0⟩ "app" (.output 0) .empty [] w).run s steps
    w.store.output? 0 = some (.memory filter .bunyan) ∧
      x.world.store.countersOf x.root.counters = ⟨2, 1, 0⟩ := by
  intro s filter w steps x
  -- the counts are those of the records and calls
  have hmem : w.store.output? 0 = some (.memory filter .bunyan) := rfl
  obtain ⟨-, records, -, hrecords, hcounters⟩ :=
    records_run_start s ⟨"host", 1, 0⟩ "app" .empty [] filter .bunyan 0 w hmem steps
  refine ⟨hmem, ?_⟩
  rw [hcounters, ← hrecords.length_eq]
  decide

end Session

end Logbook
