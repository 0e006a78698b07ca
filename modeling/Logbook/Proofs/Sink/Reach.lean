import Logbook.Proofs.Sink.FanOut

/-!
# Which outputs a record reaches

A tree of fans brings a record to its places, one output after another, until one of them breaks down
(`Sink.bring`).  How far it gets depends on the answers of the outputs, and these do not depend on what the outputs
hold: a writer with a fault always fails, a closed file always refuses.  Forgetting what was written leaves a *bare*
output, which still answers the same (`Output.write_outcome`) and tells what the output is like after the write
(`Output.write_bare`).  So two records with the same routing key take the same way through two stores that are the
same when bare, provided that no output of the application's own looks at the record before it answers
(`Output.IsBlind`).

## Key results

- `Output.write_outcome` / `Output.write_bare`: a write seen from the bare output
- `Sink.write_brings` / `Sink.offer_brings`: writing to a tree is bringing the record to its places
- `Sink.write_alike` / `Sink.offer_alike`: two records with one routing key have the same outcome
-/

namespace Logbook

variable {σ : Type}

/-! ## Bare outputs -/

/-- What is left of a medium when one forgets what was written to it. -/
def Medium.bare : Medium → Medium
  | memory _ => memory []
  | stream s => stream s
  | writer _ fault => writer [] fault
  | file f => file { f with buffer := f.buffer.map fun _ => .empty }
  | foreign f => foreign f

namespace Output

/-- What is left of an output when one forgets what was written to it. -/
def bare (o : Output) : Output := { o with medium := o.medium.bare }

/-- What becomes of the next write. -/
def answer (o : Output) (r : Record) : Outcome :=
  match o.medium with
  | .memory _ => .ok ()
  | .stream _ => .ok ()
  | .writer _ none => .ok ()
  | .writer _ (some fault) => .error (.error (.io fault))
  | .file f => if f.buffer.isSome then .ok () else .error (.error (.closed o.name))
  | .foreign f => f.respond f.writes r

/-- The output after it has answered; only one of the application's own can tell. -/
def answered (o : Output) : Output :=
  match o.medium with
  | .foreign f => { o with medium := .foreign { f with writes := f.writes + 1 } }
  | _ => o

/-- How the output answers does not depend on the record.  Only one of the application's own may be otherwise. -/
def IsBlind (o : Output) : Prop := ∀ respond ∈ o.respond?, ∀ n r r', respond n r = respond n r'

/-- The answer does not depend on what has been stored. -/
theorem answer_bare (o : Output) (r : Record) : o.bare.answer r = o.answer r := by
  obtain ⟨name, filter, layout, medium⟩ := o
  cases medium with
  | writer lines fault => cases fault <;> rfl
  | file f => simp [bare, Medium.bare, answer]
  | _ => rfl

/-- An output that has answered is, bare, the bare one that has answered. -/
theorem answered_bare (o : Output) : o.answered.bare = o.bare.answered := by
  obtain ⟨name, filter, layout, medium⟩ := o
  cases medium <;> rfl

/-- A blind output answers every record alike. -/
theorem IsBlind.answer_eq {o : Output} (h : o.IsBlind) (r r' : Record) : o.answer r = o.answer r' := by
  obtain ⟨name, filter, layout, medium⟩ := o
  cases medium with
  | foreign f => exact h f.respond rfl f.writes r r'
  | writer lines fault => cases fault <;> rfl
  | _ => rfl

end Output

namespace Store

/-- The outputs, without what was written to them. -/
def bare (st : Store) (id : Nat) : Option Output := (st.output? id).map Output.bare

/-- Only one output of the second store may differ from the first, and it has become `o` but for what was written
to it. -/
theorem bare_eq_of_changed {st st' : Store} {id : Nat} {o : Output}
    (hid : (st'.output? id).map Output.bare = some o)
    (hothers : ∀ k, id ≠ k → st'.output? k = st.output? k) :
    st'.bare = fun k => if k = id then some o else st.bare k := by
  funext k
  by_cases hk : k = id
  · rw [if_pos hk, bare, hk, hid]
  · rw [if_neg hk, bare, hothers k (Ne.symm hk), bare]

/-- Setting a medium changes the bare output alone. -/
theorem bare_setMedium {st : Store} {id : Nat} {o : Output} (ho : st.output? id = some o) (m : Medium) :
    (st.setMedium id m).bare = fun k => if k = id then some { o with medium := m.bare } else st.bare k :=
  bare_eq_of_changed (by simp [ho, Output.bare]) fun k hk => st.output?_setMedium_ne m hk

/-- An output that stays as it is. -/
theorem bare_eq_self {st : Store} {id : Nat} {o : Output} (ho : st.output? id = some o) :
    st.bare = fun k => if k = id then some o.bare else st.bare k :=
  bare_eq_of_changed (by rw [ho]; rfl) fun _ _ => rfl

/-- Writing a line changes no bare output. -/
theorem bare_writeLine {st : Store} {id : Nat} {o : Output} (ho : st.output? id = some o)
    (hown : o.respond? = none) (line : String) :
    (st.writeLine id o line).2.bare = fun k => if k = id then some o.answered.bare else st.bare k := by
  obtain ⟨name, filter, layout, medium⟩ := o
  cases medium with
  | memory records => exact bare_eq_self ho
  | stream stream => cases stream <;> exact bare_eq_self ho
  | writer lines fault =>
    cases fault with
    | none => exact bare_setMedium ho _
    | some fault => exact bare_eq_self ho
  | file f =>
    -- the bare file knows whether it is open, but not what is in its buffer
    rw [writeLine]
    cases hb : f.buffer with
    | none =>
      simp only [hb]
      exact bare_eq_self ho
    | some b =>
      simp only [hb]
      exact (bare_setMedium ho _).trans (by simp [Output.answered, Output.bare, Medium.bare, hb])
  | foreign f => cases hown

/-- A line that is written is answered like the record. -/
theorem outcome_writeLine (st : Store) (id : Nat) {o : Output} (hown : o.respond? = none) (line : String)
    (r : Record) : (st.writeLine id o line).1 = o.answer r := by
  obtain ⟨name, filter, layout, medium⟩ := o
  cases medium with
  | memory records => rfl
  | stream stream => rfl
  | writer lines fault => cases fault <;> rfl
  | file f => cases hb : f.buffer <;> simp [writeLine, Output.answer, hb]
  | foreign f => cases hown

end Store

namespace Output

/-- An output that is not there takes anything. -/
theorem write_of_none (s : Suppliers σ) {id : Nat} (r : Record) {w : World σ} (ho : w.store.output? id = none) :
    write s id r w = (.ok (), w) := by
  rw [write, World.view_bind, ho]
  rfl

/-- What a write to an output does: it answers, and then it has answered. -/
theorem write_of_output? (s : Suppliers σ) {id : Nat} (r : Record) {w : World σ} {o : Output}
    (ho : w.store.output? id = some o) :
    (write s id r w).1 = o.answer r ∧
      (write s id r w).2.store.bare = fun k => if k = id then some o.answered.bare else w.store.bare k := by
  -- memory and foreign outputs take the record itself, the others a line
  obtain ⟨name, filter, layout, medium⟩ := o
  cases medium with
  | memory records =>
    rw [write, World.view_bind, ho]
    exact ⟨rfl, Store.bare_setMedium ho _⟩
  | foreign f =>
    rw [write, World.view_bind, ho]
    exact ⟨rfl, Store.bare_setMedium ho _⟩
  | _ =>
    rw [write_eq_writeLine s r ho rfl rfl]
    exact ⟨Store.outcome_writeLine _ id rfl _ r, Store.bare_writeLine ho rfl _⟩

/-- What becomes of a write is what the bare output answers. -/
theorem write_outcome (s : Suppliers σ) (id : Nat) (r : Record) (w : World σ) :
    (write s id r w).1 = (w.store.bare id).elim (.ok ()) fun o => o.answer r := by
  rw [Store.bare]
  cases ho : w.store.output? id with
  | none => rw [write_of_none s r ho, Option.map_none, Option.elim_none]
  | some o => exact (write_of_output? s r ho).1.trans (o.answer_bare r).symm

/-- A write changes one bare output, which has answered then. -/
theorem write_bare (s : Suppliers σ) (id : Nat) (r : Record) (w : World σ) :
    (write s id r w).2.store.bare = fun k => if k = id then (w.store.bare id).map answered else w.store.bare k := by
  -- an output that is missing leaves the store as it is
  cases ho : w.store.output? id with
  | none =>
    have hnone : w.store.bare id = none := by rw [Store.bare, ho, Option.map_none]
    rw [write_of_none s r ho, hnone, Option.map_none]
    funext k
    split
    next hk => rw [hk, hnone]
    next => rfl
  | some o =>
    rw [(write_of_output? s r ho).2, Store.bare, ho, Option.map_some, Option.map_some, answered_bare]

end Output

/-! ## Places -/

/-- The write broke down, or what was done with it. -/
def brokeDown {α : Type} : Except Failure α → Bool
  | .error (.panic _) => true
  | _ => false

namespace Sink

namespace Tally

/-- A branch that did not break down is counted. -/
theorem add_eq_ok {outcome : Outcome} (h : brokeDown outcome = false) (t : Tally) :
    ∃ t', t.add outcome = .ok t' := by
  match outcome, h with
  | .ok (), _ => exact ⟨_, rfl⟩
  | .error (.error e), _ => cases e <;> exact ⟨_, rfl⟩

/-- A breakdown goes on to the caller. -/
theorem brokeDown_add {outcome : Outcome} (h : brokeDown outcome = true) (t : Tally) :
    ∃ e, t.add outcome = .error e ∧ brokeDown (α := Tally) (.error e) = true := by
  match outcome, h with
  | .error (.panic message), _ => exact ⟨.panic message, rfl, rfl⟩

/-- A fan does not break down by itself. -/
theorem brokeDown_outcome (t : Tally) : brokeDown t.outcome = false := by
  rw [Tally.outcome]
  cases t.errors with
  | nil => cases t.accepted <;> rfl
  | cons e es => rfl

end Tally

/-- Write to outputs one after another until one breaks down; what became of each. -/
def bring (s : Suppliers σ) (r : Record) : List Nat → StateM (World σ) (List Outcome)
  | [] => pure []
  | id :: ids => do
    let outcome ← Output.write s id r
    if brokeDown outcome then pure [outcome]
    else do
      let outcomes ← bring s r ids
      pure (outcome :: outcomes)

/-- The first output is brought the record, and unless it breaks down the others are. -/
theorem bring_cons (s : Suppliers σ) (r : Record) (id : Nat) (ids : List Nat) (w : World σ) :
    bring s r (id :: ids) w
      = if brokeDown (Output.write s id r w).1 then ([(Output.write s id r w).1], (Output.write s id r w).2)
        else ((Output.write s id r w).1 :: (bring s r ids (Output.write s id r w).2).1,
          (bring s r ids (Output.write s id r w).2).2) := by
  show (if brokeDown (Output.write s id r w).1 then pure [(Output.write s id r w).1]
    else bring s r ids >>= fun outcomes => pure ((Output.write s id r w).1 :: outcomes) : StateM (World σ) _)
      (Output.write s id r w).2 = _
  by_cases hbroke : brokeDown (Output.write s id r w).1 = true
  · rw [if_pos hbroke, if_pos hbroke]
    rfl
  · rw [if_neg hbroke, if_neg hbroke]
    rfl

/-- One output is brought the record. -/
theorem bring_singleton (s : Suppliers σ) (r : Record) (id : Nat) (w : World σ) :
    bring s r [id] w = ([(Output.write s id r w).1], (Output.write s id r w).2) := by
  rw [bring_cons]
  split <;> rfl

/-- A breakdown among the first outputs is the end; without one the others follow. -/
theorem bring_append (s : Suppliers σ) (r : Record) (ids ids' : List Nat) (w : World σ) :
    bring s r (ids ++ ids') w
      = if (bring s r ids w).1.any brokeDown then bring s r ids w
        else ((bring s r ids w).1 ++ (bring s r ids' (bring s r ids w).2).1,
          (bring s r ids' (bring s r ids w).2).2) := by
  induction ids generalizing w with
  | nil => rfl
  | cons id ids ih =>
    -- a breakdown of the first output ends both sides, one further on is found by induction
    rw [List.cons_append, bring_cons, bring_cons, ih]
    cases hfirst : brokeDown (Output.write s id r w).1 with
    | true => simp [hfirst]
    | false =>
      simp only [Bool.false_eq_true, if_false, List.any_cons, hfirst, Bool.false_or]
      split <;> rfl

/-- The places to which a sink brings a record with the routing key.  An output by itself takes what it is given. -/
def places (st : Store) (key : RoutingKey) : Sink → List Nat
  | output id => [id]
  | sink => sink.takers st key

/-- The places of a fan are its takers. -/
theorem places_fan (st : Store) (key : RoutingKey) (branches : List Sink) :
    (fan branches).places st key = (fan branches).takers st key := rfl

/-- In a branch that accepts the record these are the outputs that do. -/
theorem places_eq_takers {st : Store} {key : RoutingKey} {sink : Sink} (h : sink.takers st key ≠ []) :
    sink.places st key = sink.takers st key := by
  cases sink with
  | output id =>
    rw [takers_output] at h ⊢
    split at h
    next htakes => rw [if_pos htakes, places]
    next => exact absurd rfl h
  | _ => rfl

mutual

/-- There is no chain in the sink: it is a tree of fans over outputs. -/
def IsTree : Sink → Prop
  | output _ => True
  | nowhere => True
  | fan branches => AllTrees branches
  | through _ _ => False

def AllTrees : List Sink → Prop
  | [] => True
  | b :: rest => IsTree b ∧ AllTrees rest

end

variable {s : Suppliers σ} {r r' : Record}

mutual

/-- Writing to a tree is bringing the record to its places, and breaks down if that does. -/
theorem write_brings (hr : r.hasPlainTarget) : (sink : Sink) → sink.IsTree → (w : World σ) →
    (write s r sink w).2 = (bring s r (sink.places w.store r.route) w).2 ∧
      brokeDown (write s r sink w).1 = (bring s r (sink.places w.store r.route) w).1.any brokeDown
  | output id, _, w => by
    rw [places, bring_singleton, write]
    exact ⟨rfl, (Bool.or_false _).symm⟩
  | nowhere, _, _ => ⟨rfl, rfl⟩
  | through _ _, htree, _ => htree.elim
  | fan branches, htree, w => by
    obtain ⟨hworld, hbroke⟩ := offer_brings hr branches htree .start w
    rw [write_fan, Record.routingKey_eq s hr]
    refine ⟨hworld, Eq.trans ?_ hbroke⟩
    show brokeDown ((offer s r r.route .start branches w).1.bind Tally.outcome) = _
    cases (offer s r r.route .start branches w).1 with
    | ok t => exact t.brokeDown_outcome
    | error e => cases e <;> rfl

/-- Offering a record to branches is bringing it to all their places. -/
theorem offer_brings (hr : r.hasPlainTarget) : (branches : List Sink) → AllTrees branches → (t : Tally) →
    (w : World σ) →
    (offer s r r.route t branches w).2 = (bring s r ((fan branches).places w.store r.route) w).2 ∧
      brokeDown (offer s r r.route t branches w).1
        = (bring s r ((fan branches).places w.store r.route) w).1.any brokeDown
  | [], _, _, _ => ⟨rfl, rfl⟩
  | b :: rest, htrees, t, w => by
    rw [offer_cons, places_fan, takers_fan_cons, bring_append]
    by_cases htakers : b.takers w.store r.route = []
    · -- the branch does not accept the record, and has no place for it either
      have haccepts : ¬ b.accepts w.store r.route.level r.route.topic r.route.scope = true := by
        rw [accepts_iff]
        exact not_not_intro htakers
      rw [if_neg haccepts, htakers]
      exact offer_brings hr rest htrees.2 t w
    · obtain ⟨hworld, hbroke⟩ := write_brings hr b htrees.1 w
      rw [places_eq_takers htakers] at hworld hbroke
      rw [if_pos ((accepts_iff ..).2 htakers), ← hbroke, ← hworld]
      cases hfirst : brokeDown (write s r b w).1 with
      | true =>
        obtain ⟨e, hadd, he⟩ := Tally.brokeDown_add hfirst t
        rw [hadd]
        exact ⟨hworld, he.trans (hfirst.symm.trans hbroke)⟩
      | false =>
        -- what the branch leaves behind accepts the record in the same places
        obtain ⟨t', hadd⟩ := Tally.add_eq_ok hfirst t
        have hrest := offer_brings hr rest htrees.2 t' (write s r b w).2
        rw [places_fan, takers_of_keeps (write_keeps s r b w)] at hrest
        rw [hadd]
        refine ⟨hrest.1, ?_⟩
        rw [hrest.2]
        simp [← hbroke, hfirst]

end

/-! ## Two records with one routing key -/

/-- The outputs do not look at a record before they answer. -/
def AreBlind (st : Store) (ids : List Nat) : Prop := ∀ id ∈ ids, ∀ o ∈ st.output? id, o.IsBlind

/-- Fewer outputs are blind too. -/
theorem AreBlind.mono {st : Store} {ids ids' : List Nat} (h : AreBlind st ids) (hsub : ∀ id ∈ ids', id ∈ ids) :
    AreBlind st ids' := fun id hid => h id (hsub id hid)

/-- Writing makes no output look. -/
theorem AreBlind.of_keeps {st st' : Store} {ids : List Nat} (hblind : AreBlind st ids) (h : st.Keeps st') :
    AreBlind st' ids := by
  intro id hid o' ho' respond hrespond
  have hanswers := h.answers id
  rw [Option.mem_def.1 ho', Option.map_some] at hanswers
  obtain ⟨o, ho, hsame⟩ := Option.map_eq_some_iff.1 hanswers.symm
  exact hblind id hid o ho respond (by rw [hsame]; exact hrespond)

/-- What an output accepts can be seen from the bare output. -/
theorem takes_eq_bare (st : Store) (key : RoutingKey) (id : Nat) :
    takes st key id = (st.bare id).any fun o => o.accepts key.level key.topic key.scope := by
  rw [takes, Store.bare]
  cases st.output? id <;> rfl

/-- What is accepted depends on the bare outputs. -/
theorem accepts_of_bare_eq {st st' : Store} (h : st.bare = st'.bare) (key : RoutingKey) (sink : Sink) :
    sink.accepts st key.level key.topic key.scope = sink.accepts st' key.level key.topic key.scope := by
  have htakes : takes st key = takes st' key := funext fun id => by rw [takes_eq_bare, takes_eq_bare, h]
  rw [accepts_eq_any, accepts_eq_any, htakes]

/-- A blind output answers any two records alike. -/
theorem output_alike (s : Suppliers σ) (r r' : Record) {id : Nat} {w w' : World σ}
    (hbare : w.store.bare = w'.store.bare) (hblind : AreBlind w.store [id]) :
    (Output.write s id r w).1 = (Output.write s id r' w').1 ∧
      (Output.write s id r w).2.store.bare = (Output.write s id r' w').2.store.bare := by
  rw [Output.write_outcome, Output.write_outcome, Output.write_bare, Output.write_bare, ← hbare, Store.bare]
  refine ⟨?_, rfl⟩
  cases ho : w.store.output? id with
  | none => rfl
  | some o =>
    have hanswer := (hblind id List.mem_cons_self o ho).answer_eq r r'
    rw [Option.map_some, Option.elim_some, Option.elim_some, Output.answer_bare, Output.answer_bare, hanswer]

mutual

/-- Two records with one routing key have the same outcome at a tree of blind outputs. -/
theorem write_alike (hr : r.hasPlainTarget) (hr' : r'.hasPlainTarget) (hroute : r.route = r'.route) :
    (sink : Sink) → sink.IsTree → (w w' : World σ) → w.store.bare = w'.store.bare →
    AreBlind w.store sink.outputs →
    (write s r sink w).1 = (write s r' sink w').1 ∧
      (write s r sink w).2.store.bare = (write s r' sink w').2.store.bare
  | output id, _, w, w', hbare, hblind => by
    rw [write, write]
    exact output_alike s r r' hbare hblind
  | nowhere, _, _, _, hbare, _ => ⟨rfl, hbare⟩
  | through _ _, htree, _, _, _, _ => htree.elim
  | fan branches, htree, w, w', hbare, hblind => by
    -- both fans go by the same routing key
    rw [write_fan, write_fan, Record.routingKey_eq s hr, Record.routingKey_eq s hr', ← hroute]
    obtain ⟨houtcome, hafter⟩ := offer_alike hr hr' hroute branches htree r.route .start w w' hbare hblind
    exact ⟨congrArg (·.bind Tally.outcome) houtcome, hafter⟩

/-- Two records of one route are offered to branches alike. -/
theorem offer_alike (hr : r.hasPlainTarget) (hr' : r'.hasPlainTarget) (hroute : r.route = r'.route) :
    (branches : List Sink) → AllTrees branches → (key : RoutingKey) → (t : Tally) → (w w' : World σ) →
    w.store.bare = w'.store.bare → AreBlind w.store (outputsOf branches) →
    (offer s r key t branches w).1 = (offer s r' key t branches w').1 ∧
      (offer s r key t branches w).2.store.bare = (offer s r' key t branches w').2.store.bare
  | [], _, _, _, _, _, hbare, _ => ⟨rfl, hbare⟩
  | b :: rest, htrees, key, t, w, w', hbare, hblind => by
    have hfirst : AreBlind w.store b.outputs := fun id hid => hblind id (List.mem_append_left _ hid)
    have hrest : AreBlind w.store (outputsOf rest) := fun id hid => hblind id (List.mem_append_right _ hid)
    rw [offer_cons, offer_cons, ← accepts_of_bare_eq hbare]
    split
    · obtain ⟨houtcome, hafter⟩ := write_alike hr hr' hroute b htrees.1 w w' hbare hfirst
      rw [← houtcome]
      cases t.add (write s r b w).1 with
      | ok t => exact offer_alike hr hr' hroute rest htrees.2 key t _ _ hafter (hrest.of_keeps (write_keeps s r b w))
      | error e => exact ⟨rfl, hafter⟩
    · exact offer_alike hr hr' hroute rest htrees.2 key t w w' hbare hrest

end

end Sink

end Logbook
