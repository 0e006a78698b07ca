import Logbook.Sink.Delivery

/-!
# What writing leaves alone

Bringing a record to the outputs of a sink adds to what the outputs hold, to the files and to the standard
streams.  It changes neither filters nor counters, nor how an output of the application answers
(`Store.Keeps`), whatever the sink is and whatever becomes of the record.  So what a sink accepts does not
depend on what was written to it before, nor on whether the application broke down meanwhile.

## Key results

- `Output.write_keeps` / `Sink.write_keeps`: no write changes a filter or a counter
- `Store.Keeps.accepts_output`: what an output accepts depends on its filter only
-/

namespace Logbook

variable {σ : Type}

/-! ## Running in a world -/

namespace World

variable {α β : Type}

/-- Looking at the store changes nothing. -/
@[simp] theorem view_bind (f : Store → α) (g : α → StateM (World σ) β) (w : World σ) :
    (view f >>= g) w = g (f w.store) w := rfl

/-- Asking changes only the hidden state. -/
@[simp] theorem ask_bind (m : StateM σ α) (g : α → StateM (World σ) β) (w : World σ) :
    (ask m >>= g) w = g (m w.hidden).1 ⟨(m w.hidden).2, w.store⟩ := rfl

end World

/-! ## Stores that differ in what was written -/

/-- How an output of the application's own answers a write. -/
def Output.respond? (o : Output) : Option (Nat → Record → Outcome) :=
  match o.medium with
  | .foreign f => some f.respond
  | _ => none

/-- The second store has the outputs of the first, with the same filters and answers, and the same counters. -/
structure Store.Keeps (st st' : Store) : Prop where
  filters : ∀ id, (st'.output? id).map (·.filter) = (st.output? id).map (·.filter)
  answers : ∀ id, (st'.output? id).map (·.respond?) = (st.output? id).map (·.respond?)
  counters : st'.counters = st.counters

namespace Store

/-- Setting a medium leaves the other outputs as they are. -/
theorem output?_setMedium_ne (st : Store) {id k : Nat} (m : Medium) (h : id ≠ k) :
    (st.setMedium id m).output? k = st.output? k := by
  simp [setMedium, modify, output?, h]

namespace Keeps

variable {st st' st'' : Store}

/-- A store keeps what it has. -/
theorem refl (st : Store) : st.Keeps st := ⟨fun _ => rfl, fun _ => rfl, rfl⟩

/-- What is kept twice is kept. -/
theorem trans (h : st.Keeps st') (h' : st'.Keeps st'') : st.Keeps st'' where
  filters id := (h'.filters id).trans (h.filters id)
  answers id := (h'.answers id).trans (h.answers id)
  counters := h'.counters.trans h.counters

/-- An output may change its medium, as long as it answers in the same way. -/
theorem setMedium {id : Nat} {o : Output} (ho : st.output? id = some o) {m : Medium}
    (hm : ({ o with medium := m } : Output).respond? = o.respond?) : st.Keeps (st.setMedium id m) := by
  constructor
  · -- the filters stay, and so does what answers
    intro k
    by_cases hk : id = k
    · subst hk
      simp [ho]
    · rw [output?_setMedium_ne st m hk]
  · intro k
    by_cases hk : id = k
    · subst hk
      simp [ho, hm]
    · rw [output?_setMedium_ne st m hk]
  · rfl

/-- Passing a line on keeps the store. -/
theorem passOn {id : Nat} {o : Output} (ho : st.output? id = some o) (hown : o.respond? = none)
    (f : LogFile) (out : String) (b : Buffer) : st.Keeps (st.passOn id f out b) := by
  have hfile : st.Keeps (st.setMedium id (.file { f with buffer := some b })) :=
    setMedium ho (by rw [hown]; rfl)
  exact ⟨hfile.filters, hfile.answers, rfl⟩

/-- Printing keeps the store. -/
theorem print (st : Store) (stream : Stream) (text : String) : st.Keeps (st.print stream text) := by
  cases stream <;> exact ⟨fun _ => rfl, fun _ => rfl, rfl⟩

/-- Writing a line keeps the store. -/
theorem writeLine {id : Nat} {o : Output} (ho : st.output? id = some o) (line : String) :
    st.Keeps (st.writeLine id o line).2 := by
  obtain ⟨name, filter, layout, medium⟩ := o
  -- a write moves at most the medium of the output
  cases medium with
  | memory records => exact refl st
  | stream stream => exact print st stream line
  | writer lines fault =>
    cases fault with
    | none => exact setMedium ho rfl
    | some fault => exact refl st
  | file f =>
    rw [Store.writeLine]
    cases hb : f.buffer with
    | none => simpa only [hb] using refl st
    | some b => simpa only [hb] using passOn ho rfl f (b.write line).1 (b.write line).2
  | foreign f => exact refl st

/-- What an output accepts depends on its filter only. -/
theorem accepts_output (h : st.Keeps st') (id : Nat) (level : Level) (topic scope : String) :
    ((st'.output? id).any fun o => o.accepts level topic scope)
      = (st.output? id).any fun o => o.accepts level topic scope := by
  have hany : ∀ o : Option Output, (o.any fun o => o.accepts level topic scope)
      = (o.map (·.filter)).any fun f => level.passes (f.elim .unset fun f => f.level topic scope) := by
    intro o
    cases o <;> rfl
  rw [hany, hany, h.filters]

end Keeps

end Store

/-! ## Writing -/

section

variable {m : Type → Type} [Attempts m σ]

/-- If the write that goes on changes neither filters nor counters, then nothing does: a breakdown ends the write. -/
theorem World.askOr_keeps {α : Type} (x : m α) {go : α → StateM (World σ) Outcome} {w : World σ}
    (h : ∀ a hidden, w.store.Keeps (go a ⟨hidden, w.store⟩).2.store) : w.store.Keeps (World.askOr x go w).2.store := by
  rw [World.askOr, World.ask_bind]
  cases (Attempts.attempt x w.hidden).1 with
  | ok a => exact h a _
  | error message => exact .refl _

/-- Writing to an output changes neither filters nor counters. -/
theorem Output.write_keeps [Monad m] (s : Sources m) (id : Nat) (r : Record) (w : World σ) :
    w.store.Keeps (Output.write s id r w).2.store := by
  -- whatever the medium, it is replaced by one that answers alike
  rw [Output.write, World.view_bind]
  cases ho : w.store.output? id with
  | none => exact .refl _
  | some o =>
    have hline : w.store.Keeps (World.askOr (o.layout.encodeLine s r)
        (fun line => World.update fun st => st.writeLine id o line) w).2.store :=
      World.askOr_keeps _ fun line _ => Store.Keeps.writeLine ho line
    cases hm : o.medium with
    | memory records =>
      simp only [hm]
      exact .setMedium ho (by simp only [Output.respond?, hm])
    | foreign f =>
      simp only [hm]
      exact .setMedium ho (by simp only [Output.respond?, hm])
    | _ => simpa only [hm] using hline

end

/-- An output that is neither memory nor the application's own is written to line by line. -/
theorem Output.write_eq_writeLine (s : Suppliers σ) {id : Nat} (r : Record) {w : World σ} {o : Output}
    (ho : w.store.output? id = some o) (hmemory : o.records? = none) (hown : o.respond? = none) :
    Output.write s id r w
      = let line := o.layout.encodeLine s r w.hidden
        ((w.store.writeLine id o line.1).1, ⟨line.2, (w.store.writeLine id o line.1).2⟩) := by
  rw [Output.write, World.view_bind, ho]
  obtain ⟨name, filter, layout, medium⟩ := o
  cases medium with
  | memory records => cases hmemory
  | foreign f => cases hown
  | _ => rfl

namespace Sink

/-! ### Equations -/

/-- A fan is written to by offering the record to its branches. -/
theorem write_fan (s : Suppliers σ) (r : Record) (branches : List Sink) (w : World σ) :
    write s r (.fan branches) w
      = let key := r.routingKey s w.hidden
        let tally := offer s r key.1 .start branches ⟨key.2, w.store⟩
        (tally.1.bind Tally.outcome, tally.2) := by
  rw [write]
  rfl

/-- A logger finishes the record and hands it on. -/
theorem write_through (s : Suppliers σ) (r : Record) (chain : Chain) (next : Sink) (w : World σ) :
    write s r (.through chain next) w
      = let finished := chain.finish s r w.hidden
        write s finished.1 next ⟨finished.2, w.store⟩ := by
  rw [write]
  rfl

/-- A branch is offered a record if it accepts it, and an error ends the offer. -/
theorem offer_cons {m : Type → Type} [Monad m] [Attempts m σ] (s : Sources m) (r : Record) (key : RoutingKey)
    (t : Tally) (b : Sink) (rest : List Sink) (w : World σ) :
    offer s r key t (b :: rest) w
      = if b.accepts w.store key.level key.topic key.scope then
          match t.add (write s r b w).1 with
          | .ok t => offer s r key t rest (write s r b w).2
          | .error e => (.error e, (write s r b w).2)
        else offer s r key t rest w := by
  rw [offer, World.view_bind]
  split
  · show (match t.add (write s r b w).1 with
      | .ok t => offer s r key t rest
      | .error e => pure (Except.error e)) (write s r b w).2 = _
    cases t.add (write s r b w).1 <;> rfl
  · rfl

/-! ### Every write -/

variable {m : Type → Type} [Monad m] [Attempts m σ]

mutual

/-- Writing to a sink changes neither filters nor counters. -/
theorem write_keeps (s : Sources m) : (r : Record) → (sink : Sink) → (w : World σ) →
    w.store.Keeps (write s r sink w).2.store
  | r, .output id, w => by
    rw [write]
    exact Output.write_keeps s id r w
  | _, .nowhere, w => by
    rw [write]
    exact .refl _
  | r, .fan branches, w => by
    rw [write]
    exact World.askOr_keeps _ fun key hidden => offer_keeps s r key .start branches ⟨hidden, w.store⟩
  | r, .through chain next, w => by
    rw [write]
    exact World.askOr_keeps _ fun r' hidden => write_keeps s r' next ⟨hidden, w.store⟩

/-- Offering a record to branches keeps the store. -/
theorem offer_keeps (s : Sources m) (r : Record) (key : RoutingKey) : (t : Tally) →
    (branches : List Sink) → (w : World σ) → w.store.Keeps (offer s r key t branches w).2.store
  | _, [], w => by
    rw [offer]
    exact .refl _
  | t, b :: rest, w => by
    rw [offer_cons]
    split
    · -- the branch is written to, and unless it breaks down the rest is offered the record as well
      have hbranch := write_keeps s r b w
      cases t.add (write s r b w).1 with
      | ok t => exact hbranch.trans (offer_keeps s r key t rest _)
      | error e => exact hbranch
    · exact offer_keeps s r key t rest w

end

end Sink

end Logbook
