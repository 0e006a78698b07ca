import Logbook.Proofs.Layout
import Logbook.Proofs.Logger.Breakdown
import Logbook.Proofs.Redaction.Asking
import Logbook.Proofs.Sink.Reach
import Logbook.Supply

/-!
# What logging an entry asks for

An entry asks the application for its deferred values when it is finished, before the sink is written to.  What the
outputs then do with the finished record can ask only for what is left in it.  The log that tells this is kept beside
the hidden state of the application, where it changes nothing (`Sink.mirrors_write`).

## Key results

- `Affords.allTraced`: what is computed comes from the pool or from what was given
- `Layout.mem_pending_arrange`: layouts add no deferred value
- `Output.write_lingers` / `Sink.bring_lingers`: what writing a record asks for
- `AskedOnce.of_visits` / `Settled.of_visits`: what finishing a record asks for, and what it leaves
- `Logger.emit_asks_once`: both together, for an entry
- `Logger.emit_asks_once_broken`: not so for an application that breaks down
-/

namespace Logbook

variable {σ : Type} {log : σ → List Event} {s : Suppliers σ}

/-! ## What is asked for later -/

/-- The source is one to begin with, or occurs in something that was given for such a source or, if `revealed`, given
out by a guarded value. -/
inductive Traced (revealed : Bool) (start : Nat → Prop) (events : List Event) : Nat → Prop where
  | start {source : Nat} (h : start source) : Traced revealed start events source
  | computed {source inner : Nat} {given : Value} (h : Traced revealed start events source)
      (hgiven : .computed source given ∈ events) (hin : inner ∈ given.pending) : Traced revealed start events inner
  | disclosed {source : Nat} (hrevealed : revealed = true) (h : GivenOut events source) :
      Traced revealed start events source

/-- Each source for which something was computed is traced to one to begin with. -/
def AllTraced (revealed : Bool) (start : Nat → Prop) (events : List Event) : Prop :=
  ∀ source given, .computed source given ∈ events → Traced revealed start events source

section

variable {revealed : Bool} {start : Nat → Prop} {events events' : List Event}

/-- What is traced stays so with more events. -/
theorem Traced.mono {source : Nat} (h : Traced revealed start events source) (hsub : events ⊆ events') :
    Traced revealed start events' source := by
  induction h with
  | start h => exact .start h
  | computed _ hgiven hin ih => exact .computed ih (hsub hgiven) hin
  | disclosed hrevealed h => exact .disclosed hrevealed (h.mono hsub)

/-- Two lists of events are traced if both are. -/
theorem AllTraced.append (h : AllTraced revealed start events) (h' : AllTraced revealed start events') :
    AllTraced revealed start (events ++ events') := by
  intro source given hmem
  rcases List.mem_append.1 hmem with hmem | hmem
  · exact (h source given hmem).mono (List.subset_append_left events events')
  · exact (h' source given hmem).mono (List.subset_append_right events events')

/-- What is computed comes from the pool. -/
theorem Affords.allTraced {pool : Multiset Nat} (h : Affords revealed pool events)
    (hpool : ∀ source ∈ pool, start source) : AllTraced revealed start events := by
  -- as the pool is spent it gains what was given before, which is traced within all events
  suffices hall : ∀ late pool, Affords revealed pool late → late ⊆ events →
      (∀ source ∈ pool, Traced revealed start events source) →
      ∀ source given, .computed source given ∈ late → Traced revealed start events source from
    hall events pool h (List.Subset.refl events) fun source hin => .start (hpool source hin)
  intro late
  induction late with
  | nil => nofun
  -- the first event spends a source that was in the pool
  | cons e late ih =>
    intro pool hafford hsub hpool source given hmem
    have hevent : e ∈ events := hsub List.mem_cons_self
    have hlate : late ⊆ events := fun e' he' => hsub (List.mem_cons_of_mem e he')
    cases e with
    | computed source' given' =>
      rcases List.mem_cons.1 hmem with heq | hmem
      · cases heq
        exact hpool source hafford.1
      · refine ih _ hafford.2 hlate (fun inner hinner => ?_) source given hmem
        rcases Multiset.mem_add.1 hinner with hinner | hinner
        · exact hpool inner (Multiset.mem_of_mem_erase hinner)
        · exact .computed (hpool source' hafford.1) hevent hinner
    -- what redaction discloses is in the pool only where it is revealed
    | disclosed guard given' =>
      rcases List.mem_cons.1 hmem with heq | hmem
      · cases heq
      · refine ih _ hafford hlate (fun inner hinner => ?_) source given hmem
        split at hinner
        next hrevealed =>
          rcases Multiset.mem_add.1 hinner with hinner | hinner
          · exact hpool inner hinner
          · exact .disclosed hrevealed ⟨guard, given', hevent, hinner⟩
        next => exact hpool inner hinner

end

/-! ## Layouts -/

/-- A level that is named computes nothing, or it is left as it is. -/
theorem Layout.pending_nameLevel (v : Value) : (nameLevel v).pending = 0 ∨ nameLevel v = v := by
  rw [nameLevel]
  split
  · exact .inl rfl
  · exact .inr rfl

/-- A time that is written computes nothing, or it is left as it is. -/
theorem Layout.pending_renderTime (format : TimeFormat) (v : Value) :
    (renderTime format v).pending = 0 ∨ renderTime format v = v := by
  cases v with
  | time t =>
    left
    rw [renderTime, TimeFormat.render]
    split <;> rfl
  | _ => exact .inr rfl

/-- The fields of an arranged record come from the record, or have no parts and need no computing. -/
theorem Layout.find?_arrange {l : Layout} {r : Record} {key : String} {v : Value}
    (h : (l.arrange r).find? key = some v) : v.pending = 0 ∨ ∃ key', r.find? key' = some v := by
  -- a field is one of before, or a text or level that the layout wrote
  cases l with
  | bunyan =>
    rw [arrange, find?_arrangeBunyan] at h
    split at h
    · rcases Option.or_eq_some_iff.1 h with h | ⟨-, h⟩
      · exact .inr ⟨key, h⟩
      · cases h
        exact .inl rfl
    · exact .inr ⟨key, h⟩
  | stackdriver =>
    rw [arrange, find?_arrangeStackdriver] at h
    split at h
    · rcases Option.or_eq_some_iff.1 h with h | ⟨-, h⟩
      · exact .inr ⟨_, h⟩
      · exact .inr ⟨_, h⟩
    · split at h
      · cases h
      · split at h
        · rcases Option.or_eq_some_iff.1 h with h | ⟨-, h⟩
          · obtain ⟨level, -, rfl⟩ := Option.map_eq_some_iff.1 h
            exact .inl rfl
          · exact .inr ⟨_, h⟩
        · exact .inr ⟨_, h⟩
  | cloudwatch format =>
    rw [arrange, find?_arrangeCloudwatch] at h
    -- a field that is changed has no parts, whatever it held
    split at h
    · obtain ⟨w, hw, rfl⟩ := Option.map_eq_some_iff.1 h
      exact (pending_nameLevel w).imp_right fun hsame => ⟨key, by rw [hsame, hw]⟩
    · split at h
      · obtain ⟨w, hw, rfl⟩ := Option.map_eq_some_iff.1 h
        exact (pending_renderTime format w).imp_right fun hsame => ⟨key, by rw [hsame, hw]⟩
      · exact .inr ⟨key, h⟩

/-- No layout adds an occurrence of a deferred value. -/
theorem Layout.mem_pending_arrange {l : Layout} {r : Record} {source : Nat}
    (h : source ∈ Value.pendingOfFields (l.arrange r)) : source ∈ Value.pendingOfFields r := by
  obtain ⟨key, v, hv, hin⟩ := Value.mem_pendingOfFields.1 h
  rcases Layout.find?_arrange hv with hplain | ⟨key', hv'⟩
  · rw [hplain] at hin
    cases Multiset.notMem_zero source hin
  · exact Value.mem_pendingOfFields.2 ⟨key', v, hv', hin⟩

/-- The line of a record asks for what the record holds. -/
theorem Layout.runs_encodeLine (hlog : s.KeepsLog log) (l : Layout) (r : Record) :
    Runs log (l.encodeLine s r) fun _ events => Affords true (Value.pendingOfFields (l.arrange r)) events := by
  have hencode : Runs log ((l.arrange r).encode s) fun _ events =>
      Affords true (Value.pendingOfFields (l.arrange r)) events := by
    rw [Record.encode_eq_encodeWithin]
    exact Value.runs_encodeWithin hlog _ (.record (l.arrange r))
  exact (hencode.bind_pure Json.render).bind_pure (· ++ "\n")

/-! ## Writing -/

/-- While a computation with a record runs in a world, nothing is computed but what the record holds and what is given
on the way. -/
def Lingers (log : σ → List Event) (r : Record) (w w' : World σ) : Prop :=
  ∃ late, log w'.hidden = log w.hidden ++ late ∧ AllTraced true (· ∈ Value.pendingOfFields r) late

namespace Lingers

variable {r : Record} {w w' w'' : World σ}

/-- Nothing is asked if the hidden state stays as it is. -/
theorem of_hidden_eq (h : w'.hidden = w.hidden) : Lingers log r w w' :=
  ⟨[], by rw [h, List.append_nil], nofun⟩

/-- What is asked in two steps is asked. -/
theorem trans (h : Lingers log r w w') (h' : Lingers log r w' w'') : Lingers log r w w'' := by
  obtain ⟨late, hlog, htraced⟩ := h
  obtain ⟨late', hlog', htraced'⟩ := h'
  exact ⟨late ++ late', by rw [hlog', hlog, List.append_assoc], htraced.append htraced'⟩

end Lingers

/-- An output asks only for what the record has left to compute. -/
theorem Output.write_lingers (hlog : s.KeepsLog log) (id : Nat) (r : Record) (w : World σ) :
    Lingers log r w (Output.write s id r w).2 := by
  cases ho : w.store.output? id with
  | none =>
    rw [Output.write_of_none s r ho]
    exact .of_hidden_eq rfl
  | some o =>
    obtain ⟨name, filter, layout, medium⟩ := o
    have hline : ∀ hidden, ∃ late, log (layout.encodeLine s r hidden).2 = log hidden ++ late ∧
        AllTraced true (· ∈ Value.pendingOfFields r) late := by
      intro hidden
      obtain ⟨late, hlate, hafford⟩ := layout.runs_encodeLine hlog r hidden
      exact ⟨late, hlate, hafford.allTraced fun source hin => Layout.mem_pending_arrange hin⟩
    cases medium with
    -- neither memory nor a foreign output asks for anything
    | memory records =>
      rw [Output.write, World.view_bind, ho]
      exact .of_hidden_eq rfl
    | foreign f =>
      rw [Output.write, World.view_bind, ho]
      exact .of_hidden_eq rfl
    -- all others write a line
    | _ =>
      rw [Output.write_eq_writeLine s r ho rfl rfl]
      exact hline w.hidden

/-- All outputs ask only for what the record has left to compute. -/
theorem Sink.bring_lingers (hlog : s.KeepsLog log) (r : Record) (ids : List Nat) (w : World σ) :
    Lingers log r w (bring s r ids w).2 := by
  induction ids generalizing w with
  | nil => exact .of_hidden_eq rfl
  | cons id ids ih =>
    have hfirst := Output.write_lingers hlog id r w
    rw [bring_cons]
    split
    · exact hfirst
    · exact hfirst.trans (ih _)

/-! ## Logging -/

/-- The events of a record that was finished: those of its fields one after another, each asking for no occurrence
twice, and for its own first of all. -/
def AskedOnce (r : Record) (events : List Event) : Prop :=
  ∃ asked : String → List Event, events = r.keys.flatMap asked ∧ ∀ key v, r.find? key = some v →
    Affords false v.pending (asked key) ∧
      ∀ source, v = .deferred source → ∃ given rest, asked key = .computed source given :: rest

/-- What is deferred in a finished record lies inside a field that routes it, or was given out by a guarded value. -/
def Settled (r : Record) (events : List Event) : Prop :=
  ∀ key v, r.find? key = some v → ∀ source ∈ v.pending,
    (Redaction.isRouting key = true ∧ v.isDeferred = false) ∨ GivenOut events source

section

variable {r r' : Record} {events : List Event}

/-- What a visit of the fields asks is asked once. -/
theorem AskedOnce.of_visits (h : VisitsFields FinishedField r r' events) : AskedOnce r events := by
  obtain ⟨asked, rfl, hvisits⟩ := h
  refine ⟨asked, rfl, fun key v hv => ?_⟩
  obtain ⟨u, -, hvisit⟩ := exists_of_rel_left (hvisits key) hv
  unfold FinishedField at hvisit
  split at hvisit
  · have hafford : Affords false v.pending (asked key ++ []) := hvisit.affords trivial
    rw [List.append_nil] at hafford
    exact ⟨hafford, hvisit.first⟩
  · exact ⟨hvisit.affords, hvisit.first⟩

/-- What a visit of the fields leaves is settled. -/
theorem Settled.of_visits (h : VisitsFields FinishedField r r' events) : Settled r' events := by
  intro key u hu source hin
  obtain ⟨v, visit, -, hvisit, hsub⟩ := h.exists_visit hu
  unfold FinishedField at hvisit
  split at hvisit
  next hkey => exact .inl ⟨hkey, hvisit.plain⟩
  next => exact .inr ((hvisit.left source hin).mono hsub)

/-- A finished record can be routed without asking. -/
theorem hasPlainTarget_of_visits (h : VisitsFields FinishedField r r' events) : r'.hasPlainTarget := by
  refine r'.hasPlainTarget_iff.2 fun key hkey u hu => ?_
  obtain ⟨v, visit, -, hvisit, -⟩ := h.exists_visit hu
  unfold FinishedField at hvisit
  rw [if_pos (Record.isRouting_of_mem hkey)] at hvisit
  exact hvisit.plain

/-- Nothing is computed but what occurs in the record and what was given. -/
theorem AskedOnce.allTraced (h : AskedOnce r events) : AllTraced false (· ∈ Value.pendingOfFields r) events := by
  obtain ⟨asked, rfl, hasked⟩ := h
  exact (Affords.ofAsked fun key v hv => (hasked key v hv).1).allTraced fun source hin => hin

end

namespace Logger

/-- With a log beside the hidden state an entry that passes the gate is finished, brought to the sink and counted as
without one. -/
theorem emit_logged (s : Suppliers σ) (l : Logger) (now : Instant) (level : Level) (message : StateM σ String)
    (error : Option ErrorChain) {w : World σ} (h : l.isEnabled w.store level = true) (events : List Event) :
    let begun := message w.hidden
    let finished := l.chain.finish s.logged (entry now level begun.1 error) (begun.2, events)
    let written := Sink.write s.logged finished.1 l.sink ⟨finished.2, w.store⟩
    (l.emit s now level message error w).2 = ⟨written.2.hidden.1, l.settle written.1 written.2.store⟩ := by
  intro begun finished written
  -- the log is carried along, and nothing else depends on it
  have hmirror : s.logged.Mirror Prod.fst s := ⟨fun _ _ => rfl, fun _ _ => rfl⟩
  have hfinish : l.chain.finish s (entry now level begun.1 error) begun.2 = (finished.1, finished.2.1) :=
    mirrors_iff.1 (Record.mirrors_redact hmirror l.chain.rules _) (begun.2, events)
  have hwrite : Sink.write s finished.1 l.sink ⟨finished.2.1, w.store⟩ = (written.1, written.2.map Prod.fst) :=
    mirrors_iff.1 (Sink.mirrors_write hmirror finished.1 l.sink) ⟨finished.2, w.store⟩
  let plain := l.chain.finish s (entry now level begun.1 error) begun.2
  let brought := Sink.write s plain.1 l.sink ⟨plain.2, w.store⟩
  have hemit : (l.emit s now level message error w).2 = ⟨brought.2.hidden, l.settle brought.1 brought.2.store⟩ := by
    rw [emit_of_enabled s l now level message error h, asSink, Sink.write_through]
  have hbrought : brought = (written.1, written.2.map Prod.fst) := by
    show Sink.write s plain.1 l.sink ⟨plain.2, w.store⟩ = _
    rw [show plain = (finished.1, finished.2.1) from hfinish, hwrite]
  rw [hemit, hbrought]
  rfl

/-- **Deferred values are computed once for an entry.**  Let an entry pass the gate of a logger whose sink is a tree
of fans over outputs, and let a log begin when it is merged with the fields of the chain; of each key the merged record
has the field that is nearest.  Before the sink is written to, each field of the merged record asks for no occurrence
of a deferred value twice, for its own first of all, and nothing else is computed, so what a nearer field shadows is
not.  The one record that this gives is brought to all places of the tree.  Meanwhile nothing is computed but what is
left deferred in it, which lies inside a field that routes the record or was given out by a guarded value, and what is
given on the way. -/
theorem emit_asks_once (s : Suppliers σ) (l : Logger) (htree : l.sink.IsTree) (now : Instant) (level : Level)
    (message : StateM σ String) (error : Option ErrorChain) (w : World σ) (hgate : l.isEnabled w.store level = true) :
    let begun := message w.hidden
    let e := entry now level begun.1 error
    let merged := l.chain.flatten e
    let finished := l.chain.finish s.logged e (begun.2, [])
    let early := finished.2.2
    let before : World (σ × List Event) := ⟨finished.2, w.store⟩
    let written := Sink.write s.logged finished.1 l.sink before
    (l.emit s now level message error w).2 = ⟨written.2.hidden.1, l.settle written.1 written.2.store⟩ ∧
      (∀ key, merged.find? key
        = (l.chain.identity :: e :: l.chain.nodes.map (·.record)).findSome? (·.find? key)) ∧
      AskedOnce merged early ∧ AllTraced false (· ∈ Value.pendingOfFields merged) early ∧
      written.2 = (Sink.bring s.logged finished.1 (l.sink.places w.store finished.1.route) before).2 ∧
      Settled finished.1 early ∧ Lingers Prod.snd finished.1 before written.2 := by
  intro begun e merged finished early before written
  have hlog := s.keepsLog_logged
  obtain ⟨events, hearly, hvisits⟩ := Record.runs_redact hlog l.chain.rules merged (begun.2, [])
  obtain rfl : early = events := hearly.trans (List.nil_append events)
  have hasked : AskedOnce merged early := .of_visits hvisits
  -- the finished record needs no computing to be routed, so the tree is as good as its places
  have hbring : written.2 = (Sink.bring s.logged finished.1 (l.sink.places w.store finished.1.route) before).2 :=
    (Sink.write_brings (hasPlainTarget_of_visits hvisits) l.sink htree before).1
  refine ⟨emit_logged s l now level message error hgate [], fun key => ?_, hasked, hasked.allTraced, hbring,
    .of_visits hvisits, ?_⟩
  · rw [← Record.find?_overlay, ← Chain.flatten_eq_overlay]
  · rw [hbring]
    exact Sink.bring_lingers hlog _ _ before

/-- A counter in the record of the root, shadowed by the text of a nearer node, and a counter in an array, once more
given by another deferred value there; a guarded value that gives out a counter; a topic with that counter inside. -/
theorem emit_asks_once_counters :
    let supply : Supply := ⟨#[.counter 1 none, .constant (.deferred 0), .counter 1 (some "n"), .constant (.deferred 2),
      .counter 7 none, .constant (.text "main")]⟩
    let s := Supply.suppliers
    let filter := Filter.uniform .info
    let st := ((Store.empty.add (.memory filter .bunyan)).2.add (.console .output filter .stackdriver)).2
    let sink : Sink := .fan [.output 1, .fan [.output 0, .nowhere, .output 1]]
    let record : Record := .ofEntries [("far", .deferred 4), ("list", .array [.deferred 1, .deferred 0]),
      ("secret", .guarded 3), (Record.topicKey, .array [.deferred 2])]
    let root := Logger.root s ⟨"host", 1, 5⟩ "root" sink record [] ⟨supply, st⟩
    let l := root.1.withChain (root.1.chain.derive s (Record.empty.set "far" (.text "near")) [] root.2.hidden).1
    let begun := (pure "m" : StateM Supply String) root.2.hidden
    let finished := l.chain.finish s.logged (entry ⟨0, 0⟩ .info begun.1 none) (begun.2, [])
    let written := Sink.write s.logged finished.1 l.sink ⟨finished.2, root.2.store⟩
    l.sink.IsTree ∧ l.isEnabled root.2.store .info = true ∧
      (l.emit s ⟨0, 0⟩ .info (pure "m") none root.2).2
        = ⟨written.2.hidden.1, l.settle written.1 written.2.store⟩ ∧
      finished.2.2.filterMap Event.source? = [1, 0, 0, 5] ∧
      written.2.hidden.2.filterMap Event.source? = [1, 0, 0, 5, 2, 2, 2, 2] := by
  intro supply s filter st sink record root l begun finished written
  have htree : l.sink.IsTree := ⟨trivial, ⟨trivial, trivial, trivial, trivial⟩, trivial⟩
  -- the events are evaluated, and the theorem says which of them the record asks for
  have hgate : l.isEnabled root.2.store .info = true := by decide +kernel
  obtain ⟨hemit, -⟩ := emit_asks_once s l htree ⟨0, 0⟩ .info (pure "m") none root.2 hgate
  refine ⟨htree, hgate, ?_, ?_, ?_⟩
  · dsimp only [written, finished, begun]
    exact hemit
  · decide +kernel
  · decide +kernel

/-- If the application may break down, this is not so: the first of two deferred fields does, and the second is not
asked for.  A deferred topic is asked for when its node is made, although the text of a nearer node shadows it. -/
theorem emit_asks_once_broken :
    let ask (source : Nat) : Brittle (List Nat) Value :=
      ExceptT.mk fun asked => (if source = 1 then .error (some "no value") else .ok (.text "value"), asked ++ [source])
    let s : BrittleSuppliers (List Nat) := ⟨ask, ask⟩
    let h : Host := ⟨"host", 1, 0⟩
    let w (asked : List Nat) : World (List Nat) :=
      ⟨asked, { (Store.empty.add (.memory (.uniform .info) .bunyan)).2 with counters := [.zero] }⟩
    let record : Record := .ofEntries [("a", .deferred 1), ("b", .deferred 2)]
    let chain : Chain := ⟨"svc", h.identity "svc", ⟨record, [], Target.main, Target.main⟩, []⟩
    let l : Logger := ⟨chain, .output 0, 0⟩
    let merged := chain.flatten (entry ⟨0, 0⟩ .info "m" none)
    let far := Chain.root s h "svc" (Record.empty.set Record.topicKey (.deferred 3)) []
    let near := far >>= fun c => c.withTopic s (.text "near")
    (Chain.root s h "svc" record []).run [] = (.ok chain, []) ∧ l.sink.IsTree ∧ l.isEnabled (w []).store .info = true ∧
      (merged.find? "a" == some (.deferred 1)) = true ∧ (merged.find? "b" == some (.deferred 2)) = true ∧
      (l.emit s ⟨0, 0⟩ .info (pure "m") none (w [])).2.hidden = [1] ∧
      (near.run []).1.toOption.map (·.topic) = some "near" ∧ (near.run []).2 = [3] := by
  intro ask s h w record chain l merged far near
  -- all are runs on fixed inputs but the shape of the sink
  refine ⟨?_, trivial, by decide +kernel, ?_, ?_, ?_, ?_, ?_⟩
  · rfl
  · decide +kernel
  · decide +kernel
  · decide +kernel
  · decide +kernel
  · decide +kernel

end Logger

end Logbook
