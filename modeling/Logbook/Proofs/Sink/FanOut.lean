import Logbook.Proofs.Sink.Routing

/-!
# Delivery by fans

A tree of fans over outputs is as good as the list of its outputs.  Those that accept the record are written to
once for each place in the tree, from left to right, whatever becomes of the writes before, and the others are
left alone.  The tree reports success if no write failed, that it is unrouted if there was none, and otherwise one
error that has the errors of all writes that failed as its leaves.

A fan asks the filters again at each branch, and reads the routing key again at each level.  Neither changes
anything: writing changes no filter (`Sink.write_keeps`), and a topic and scope that are not deferred are read without
asking the application (`Record.routingKey_eq`).

## Key results

- `Sink.accepts_iff`: a sink accepts what one of its outputs does
- `Sink.Tally.Counts.add`: how one branch moves the tally
- `Sink.write_attempts` / `Sink.offer_attempts`: one branch, and all branches of a fan
- `Sink.write_fan_delivers`: what a fan does with a record
-/

namespace Logbook

variable {σ : Type}

/-! ## Errors -/

namespace Error

/-- An error of a single output, about what it could not write. -/
def isLeaf : Error → Bool
  | unrouted => false
  | branches _ => false
  | _ => true

/-- The only leaf of a leaf is itself. -/
theorem leaves_of_isLeaf {e : Error} (h : e.isLeaf) : e.leaves = [e] := by
  cases e <;> first | rfl | cases h

/-- The leaves of two lists are the leaves of both. -/
theorem leavesOf_append (es es' : List Error) : leavesOf (es ++ es') = leavesOf es ++ leavesOf es' := by
  induction es with
  | nil => rfl
  | cons e es ih => rw [List.cons_append, leavesOf, ih, leavesOf, List.append_assoc]

/-- Errors with leaves have none only if there are no errors. -/
theorem eq_nil_of_leavesOf_eq_nil {es : List Error} (hes : ∀ e ∈ es, e.leaves ≠ []) (h : leavesOf es = []) :
    es = [] := by
  cases es with
  | nil => rfl
  | cons e es =>
    rw [leavesOf, List.append_eq_nil_iff] at h
    exact absurd h.1 (hes e List.mem_cons_self)

end Error

/-! ## One output -/

/-- What becomes of a write to a single output that does not break down: success, or an error of its own. -/
def Outcome.isSingle : Outcome → Bool
  | .ok () => true
  | .error (.error e) => e.isLeaf
  | .error (.panic _) => false

/-- Writes to the output succeed or end in an error of its own.  Only an output that the application makes by itself
may be otherwise: it may break down, decline a record or fan it out in turn. -/
def Output.IsSingle (o : Output) : Prop := ∀ respond ∈ o.respond?, ∀ n r, Outcome.isSingle (respond n r)

/-- An output of the library fails with a single error. -/
theorem Output.IsSingle.of_respond? {o : Output} (h : o.respond? = none) : o.IsSingle := by
  intro respond hrespond
  rw [h] at hrespond
  cases hrespond

/-- Writing a line fails with a single error. -/
theorem Store.isSingle_writeLine (st : Store) (id : Nat) (o : Output) (line : String) :
    Outcome.isSingle (st.writeLine id o line).1 := by
  rw [writeLine]
  cases o.medium with
  | memory records => rfl
  | stream stream => rfl
  | writer lines fault => cases fault <;> rfl
  | file f => cases hb : f.buffer <;> simp only [hb] <;> rfl
  | foreign f => rfl

/-- Writing to an output that fails with single errors does so. -/
theorem Output.isSingle_write (s : Suppliers σ) {id : Nat} (r : Record) {w : World σ}
    (h : ∀ o ∈ w.store.output? id, o.IsSingle) : Outcome.isSingle (Output.write s id r w).1 := by
  rw [Output.write, World.view_bind]
  cases ho : w.store.output? id with
  | none => rfl
  | some o =>
    cases hm : o.medium with
    | memory records =>
      simp only [hm]
      rfl
    -- only the application's own output could fail otherwise, and it is assumed not to
    | foreign f =>
      simp only [hm]
      exact h o ho f.respond (by simp only [respond?, hm, Option.mem_some]) f.writes r
    | stream stream =>
      simp only [hm, World.askOr_eq_bind, World.ask_bind]
      exact Store.isSingle_writeLine ..
    | writer lines fault =>
      simp only [hm, World.askOr_eq_bind, World.ask_bind]
      exact Store.isSingle_writeLine ..
    | file f =>
      simp only [hm, World.askOr_eq_bind, World.ask_bind]
      exact Store.isSingle_writeLine ..

namespace Sink

/-! ## Attempts -/

/-- Write to outputs one after another, whatever becomes of it. -/
def attempt (s : Suppliers σ) (r : Record) (ids : List Nat) : StateM (World σ) (List Outcome) :=
  ids.mapM fun id => Output.write s id r

/-- Two lists of outputs are attempted one after the other. -/
theorem attempt_append (s : Suppliers σ) (r : Record) (ids ids' : List Nat) (w : World σ) :
    attempt s r (ids ++ ids') w
      = ((attempt s r ids w).1 ++ (attempt s r ids' (attempt s r ids w).2).1,
          (attempt s r ids' (attempt s r ids w).2).2) := by
  rw [attempt, List.mapM_append]
  rfl

/-- One output is attempted by writing to it. -/
theorem attempt_singleton (s : Suppliers σ) (r : Record) (id : Nat) (w : World σ) :
    attempt s r [id] w = ([(Output.write s id r w).1], (Output.write s id r w).2) := by
  rw [attempt, List.mapM_cons]
  rfl

/-- There is an attempt for each place. -/
theorem length_attempt (s : Suppliers σ) (r : Record) (ids : List Nat) (w : World σ) :
    (attempt s r ids w).1.length = ids.length := by
  induction ids generalizing w with
  | nil => rfl
  | cons id ids ih =>
    rw [← List.singleton_append, attempt_append, attempt_singleton, List.length_append, List.length_append, ih]
    rfl

/-- Nothing comes of attempts only if there are none. -/
theorem attempt_eq_nil_iff (s : Suppliers σ) (r : Record) (ids : List Nat) (w : World σ) :
    (attempt s r ids w).1 = [] ↔ ids = [] := by
  rw [← List.length_eq_zero_iff, length_attempt, List.length_eq_zero_iff]

/-- The attempts that failed. -/
def failures (outcomes : List Outcome) : List Outcome := outcomes.filter (!·.isOk)

/-- There are no failures exactly if all attempts succeed. -/
theorem failures_eq_nil_iff (outcomes : List Outcome) :
    failures outcomes = [] ↔ ∀ outcome ∈ outcomes, outcome = .ok () := by
  have hok : ∀ outcome : Outcome, (!outcome.isOk) = false ↔ outcome = .ok () := by
    intro outcome
    cases outcome <;> simp [Except.isOk, Except.toBool]
  rw [failures, List.filter_eq_nil_iff]
  simp only [Bool.not_eq_true, hok]

/-- An attempt that ended in an error. -/
def lost (e : Error) : Outcome := .error (.error e)

/-- The outcome reported of some attempts: success if none of them failed, or else an error whose leaves are the
errors of those that did. -/
inductive Reports (outcomes : List Outcome) : Outcome → Prop where
  | success (h : failures outcomes = []) : Reports outcomes (.ok ())
  | failure {e : Error} (hrouted : e ≠ .unrouted) (hleaves : e.leaves ≠ [])
      (h : failures outcomes = e.leaves.map lost) : Reports outcomes (.error (.error e))

/-- An output reports its own attempt. -/
theorem reports_singleton {outcome : Outcome} (h : outcome.isSingle) : Reports [outcome] outcome := by
  -- one success, or one failure that is its own leaf
  match outcome, h with
  | .ok (), _ => exact .success rfl
  | .error (.error e), hleaf =>
    have hleaves : e.leaves = [e] := Error.leaves_of_isLeaf hleaf
    refine .failure ?_ ?_ ?_
    · rintro rfl
      cases hleaf
    · rw [hleaves]
      exact List.cons_ne_nil _ _
    · rw [hleaves]
      rfl

namespace Tally

/-- The tally says what became of the attempts so far. -/
structure Counts (t : Tally) (outcomes : List Outcome) : Prop where
  accepted : t.accepted = true ↔ outcomes ≠ []
  errors : failures outcomes = (Error.leavesOf t.errors).map lost
  leaves : ∀ e ∈ t.errors, e.leaves ≠ []

namespace Counts

/-- At first nothing is counted. -/
theorem start : Tally.start.Counts [] := ⟨by simp [Tally.start], rfl, by simp [Tally.start]⟩

variable {t : Tally} {outcomes : List Outcome}

/-- The report of a branch brings its attempts into the tally. -/
theorem add (h : t.Counts outcomes) {more : List Outcome} (hmore : more ≠ []) {result : Outcome}
    (hresult : Reports more result) : ∃ t', t.add result = .ok t' ∧ t'.Counts (outcomes ++ more) := by
  have haccepted : (true = true ↔ outcomes ++ more ≠ []) := by simp [hmore]
  have hsplit : failures (outcomes ++ more) = failures outcomes ++ failures more := List.filter_append ..
  -- an error adds its leaves behind those before it, a success adds nothing but that there was an attempt
  cases hresult with
  | success hfailures =>
    refine ⟨⟨true, t.errors⟩, rfl, haccepted, ?_, h.leaves⟩
    rw [hsplit, h.errors, hfailures, List.append_nil]
  | @failure e hrouted hleaves hfailures =>
    refine ⟨⟨true, t.errors ++ [e]⟩, ?_, haccepted, ?_, ?_⟩
    · cases e with
      | unrouted => exact absurd rfl hrouted
      | _ => rfl
    · rw [hsplit, h.errors, hfailures, Error.leavesOf_append, List.map_append, Error.leavesOf, Error.leavesOf,
        List.append_nil]
    · intro e' he'
      rcases List.mem_append.1 he' with he' | he'
      · exact h.leaves e' he'
      · rw [List.mem_singleton.1 he']
        exact hleaves

/-- A fan that made no attempt is unrouted. -/
theorem outcome_nil (h : t.Counts []) : t.outcome = .error (.error .unrouted) := by
  have haccepted : t.accepted = false := by simpa using h.accepted
  have herrors : t.errors = [] := Error.eq_nil_of_leavesOf_eq_nil h.leaves (List.map_eq_nil_iff.1 h.errors.symm)
  rw [Tally.outcome, herrors, haccepted]
  rfl

/-- A fan with attempts none of which failed has success. -/
theorem outcome_of_success (h : t.Counts outcomes) (hne : outcomes ≠ []) (hfailures : failures outcomes = []) :
    t.outcome = .ok () := by
  have herrors : t.errors = [] := by
    have hlost := h.errors
    rw [hfailures] at hlost
    exact Error.eq_nil_of_leavesOf_eq_nil h.leaves (List.map_eq_nil_iff.1 hlost.symm)
  rw [Tally.outcome, herrors, h.accepted.2 hne]
  rfl

/-- A fan with attempts that failed has their errors. -/
theorem outcome_of_failures (h : t.Counts outcomes) (hfailures : failures outcomes ≠ []) :
    t.outcome = .error (.error (.branches t.errors)) := by
  rw [Tally.outcome]
  cases herrors : t.errors with
  | nil =>
    rw [h.errors, herrors] at hfailures
    exact absurd rfl hfailures
  | cons e es => rfl

/-- A fan has success exactly if there were attempts and none failed. -/
theorem outcome_eq_ok_iff (h : t.Counts outcomes) :
    t.outcome = .ok () ↔ outcomes ≠ [] ∧ failures outcomes = [] := by
  constructor
  · -- if there is an error, the branches are at fault, and if there is none, there was an attempt
    intro hok
    refine ⟨?_, ?_⟩
    · rintro rfl
      rw [h.outcome_nil] at hok
      cases hok
    · by_contra hfailures
      rw [h.outcome_of_failures hfailures] at hok
      cases hok
  · rintro ⟨hne, hfailures⟩
    exact h.outcome_of_success hne hfailures

/-- A fan is unrouted exactly if there were none. -/
theorem outcome_eq_unrouted_iff (h : t.Counts outcomes) :
    t.outcome = .error (.error .unrouted) ↔ outcomes = [] := by
  -- with an attempt the outcome is a success or the failures
  constructor
  · intro hunrouted
    by_contra hne
    by_cases hfailures : failures outcomes = []
    · rw [h.outcome_of_success hne hfailures] at hunrouted
      cases hunrouted
    · rw [h.outcome_of_failures hfailures] at hunrouted
      cases hunrouted
  · rintro rfl
    exact h.outcome_nil

/-- A fan that made attempts reports them. -/
theorem outcome (h : t.Counts outcomes) (hne : outcomes ≠ []) : Reports outcomes t.outcome := by
  by_cases hfailures : failures outcomes = []
  · rw [h.outcome_of_success hne hfailures]
    exact .success hfailures
  · rw [h.outcome_of_failures hfailures]
    refine .failure nofun (fun hnil => ?_) h.errors
    rw [h.errors, show Error.leavesOf t.errors = [] from hnil] at hfailures
    exact hfailures rfl

end Counts

end Tally

/-! ## The outputs that accept a record -/

/-- The output accepts records with the routing key. -/
def takes (st : Store) (key : RoutingKey) (id : Nat) : Bool :=
  (st.output? id).any fun o => o.accepts key.level key.topic key.scope

/-- The places of outputs that accept records with the routing key, from left to right. -/
def takers (st : Store) (key : RoutingKey) (sink : Sink) : List Nat := sink.outputs.filter (takes st key)

/-- One output takes what passes its filter. -/
theorem takers_output (st : Store) (key : RoutingKey) (id : Nat) :
    (output id).takers st key = if takes st key id then [id] else [] := by
  rw [takers, outputs, List.filter_cons, List.filter_nil]

/-- The takers of a fan are those of its branches in order. -/
theorem takers_fan_cons (st : Store) (key : RoutingKey) (b : Sink) (rest : List Sink) :
    (fan (b :: rest)).takers st key = b.takers st key ++ (fan rest).takers st key := by
  rw [takers, takers, takers, outputs, outputs, outputsOf, List.filter_append]

mutual

/-- A sink accepts what one of its outputs takes. -/
theorem accepts_eq_any (st : Store) (key : RoutingKey) : (sink : Sink) →
    sink.accepts st key.level key.topic key.scope = sink.outputs.any (takes st key)
  | output id => by simp [accepts, outputs, takes]
  | nowhere => rfl
  | fan branches => acceptsAny_eq_any st key branches
  | through _ next => accepts_eq_any st key next

/-- The first of some branches accepts, or the others do. -/
theorem acceptsAny_eq_any (st : Store) (key : RoutingKey) : (branches : List Sink) →
    acceptsAny st key.level key.topic key.scope branches = (outputsOf branches).any (takes st key)
  | [] => rfl
  | b :: rest => by
    rw [acceptsAny, outputsOf, List.any_append, accepts_eq_any st key b, acceptsAny_eq_any st key rest]

end

/-- A sink accepts a record exactly if one of its outputs does. -/
theorem accepts_iff (st : Store) (key : RoutingKey) (sink : Sink) :
    sink.accepts st key.level key.topic key.scope = true ↔ sink.takers st key ≠ [] := by
  rw [accepts_eq_any, takers, ne_eq, List.filter_eq_nil_iff, List.any_eq_true]
  simp

/-- Writing does not change which outputs accept a record. -/
theorem takers_of_keeps {st st' : Store} (h : st.Keeps st') (key : RoutingKey) (sink : Sink) :
    sink.takers st' key = sink.takers st key := by
  have htakes : takes st' key = takes st key :=
    funext fun id => h.accepts_output id key.level key.topic key.scope
  rw [takers, takers, htakes]

/-! ## Fans -/

mutual

/-- The sink is a tree of fans over single outputs, with no chain in it. -/
def FansOut (st : Store) : Sink → Prop
  | output id => ∀ o ∈ st.output? id, o.IsSingle
  | nowhere => True
  | fan branches => AllFanOut st branches
  | through _ _ => False

def AllFanOut (st : Store) : List Sink → Prop
  | [] => True
  | b :: rest => FansOut st b ∧ AllFanOut st rest

end

mutual

/-- Writing does not change what fans out. -/
theorem FansOut.of_keeps {st st' : Store} (h : st.Keeps st') : {sink : Sink} → sink.FansOut st → sink.FansOut st'
  | output id, hfans => by
    -- the output there now answers like the one before
    intro o' ho' respond hrespond
    have hanswers := h.answers id
    rw [Option.mem_def.1 ho', Option.map_some] at hanswers
    obtain ⟨o, ho, hsame⟩ := Option.map_eq_some_iff.1 hanswers.symm
    exact hfans o ho respond (by rw [hsame]; exact hrespond)
  | nowhere, _ => trivial
  | fan _, hfans => AllFanOut.of_keeps h hfans
  | through _ _, hfans => hfans.elim

/-- Branches fan out as before if the store keeps its outputs. -/
theorem AllFanOut.of_keeps {st st' : Store} (h : st.Keeps st') : {branches : List Sink} →
    AllFanOut st branches → AllFanOut st' branches
  | [], _ => trivial
  | _ :: _, hfans => ⟨FansOut.of_keeps h hfans.1, AllFanOut.of_keeps h hfans.2⟩

end

variable {s : Suppliers σ} {r : Record}

/-- A fan reports what its branches have come to. -/
theorem write_fan_of_offer (hr : r.hasPlainTarget) {branches : List Sink} {w w' : World σ} {t : Tally}
    (h : offer s r r.route .start branches w = (.ok t, w')) : write s r (fan branches) w = (t.outcome, w') := by
  rw [write_fan, Record.routingKey_eq s hr]
  show ((offer s r r.route .start branches w).1.bind Tally.outcome, (offer s r r.route .start branches w).2) = _
  rw [h]
  rfl

mutual

/-- Writing to a sink that accepts the record is attempting to write to the outputs that do, and reporting it. -/
theorem write_attempts (hr : r.hasPlainTarget) : (sink : Sink) → (w : World σ) → sink.FansOut w.store →
    sink.takers w.store r.route ≠ [] →
    (write s r sink w).2 = (attempt s r (sink.takers w.store r.route) w).2 ∧
      Reports (attempt s r (sink.takers w.store r.route) w).1 (write s r sink w).1
  | output id, w, hfans, htakers => by
    rw [takers_output] at htakers ⊢
    split at htakers
    next htakes =>
      rw [if_pos htakes, attempt_singleton, write]
      exact ⟨rfl, reports_singleton (Output.isSingle_write s r hfans)⟩
    next => exact absurd rfl htakers
  | nowhere, _, _, htakers => absurd rfl htakers
  | through _ _, _, hfans, _ => hfans.elim
  | fan branches, w, hfans, htakers => by
    obtain ⟨t, hoffer, hcounts⟩ := offer_attempts hr branches w hfans .start
    rw [write_fan_of_offer hr hoffer]
    exact ⟨rfl, hcounts.outcome (mt (attempt_eq_nil_iff ..).1 htakers)⟩

/-- Offering a record to branches is attempting to write to all their outputs that accept it, and counting. -/
theorem offer_attempts (hr : r.hasPlainTarget) : (branches : List Sink) → (w : World σ) →
    AllFanOut w.store branches → {t : Tally} → {outcomes : List Outcome} → t.Counts outcomes →
    ∃ t', offer s r r.route t branches w = (.ok t', (attempt s r ((fan branches).takers w.store r.route) w).2) ∧
      t'.Counts (outcomes ++ (attempt s r ((fan branches).takers w.store r.route) w).1)
  | [], w, _, t, outcomes, ht => ⟨t, by rw [offer]; rfl, by rw [← List.append_nil outcomes] at ht; exact ht⟩
  | b :: rest, w, hfans, t, outcomes, ht => by
    rw [offer_cons, takers_fan_cons, attempt_append]
    by_cases htakers : b.takers w.store r.route = []
    · -- the branch does not accept the record, and has no output to write to either
      have haccepts : ¬ b.accepts w.store r.route.level r.route.topic r.route.scope = true := by
        rw [accepts_iff]
        exact not_not_intro htakers
      rw [if_neg haccepts, htakers]
      exact offer_attempts hr rest w hfans.2 ht
    · -- its attempts come first, and what they leave behind accepts the record in the same places
      obtain ⟨hworld, hreports⟩ := write_attempts hr b w hfans.1 htakers
      obtain ⟨t', hadd, ht'⟩ := ht.add (mt (attempt_eq_nil_iff ..).1 htakers) hreports
      have hkeeps := write_keeps s r b w
      obtain ⟨t'', hoffer, hcounts⟩ :=
        offer_attempts hr rest (write s r b w).2 (AllFanOut.of_keeps hkeeps hfans.2) ht'
      rw [takers_of_keeps hkeeps] at hoffer hcounts
      rw [if_pos ((accepts_iff ..).2 htakers), hadd]
      refine ⟨t'', ?_, ?_⟩
      · rw [← hworld]
        exact hoffer
      · rw [← hworld, ← List.append_assoc]
        exact hcounts

end

/-- **Delivery by a fan.**  Where topic and scope of a record are not deferred, a tree of fans over single outputs
writes it to each output that accepts its routing key, once for each place in the tree, from left to right, whatever
becomes of these attempts, and does nothing else.  It has success if there were attempts and none failed; it is
unrouted if there were none, which is if the tree does not accept the key; and otherwise the leaves of its error are
the errors of the attempts that failed, in their order. -/
theorem write_fan_delivers (s : Suppliers σ) (r : Record) (hr : r.hasPlainTarget) (branches : List Sink)
    (w : World σ) (hfans : (fan branches).FansOut w.store) :
    let key := (r.routingKey s w.hidden).1
    let takers := (fan branches).takers w.store key
    let attempts := takers.mapM (fun id => Output.write s id r) w
    let written := write s r (fan branches) w
    written.2 = attempts.2 ∧
      (written.1 = .ok () ↔ takers ≠ [] ∧ ∀ outcome ∈ attempts.1, outcome = .ok ()) ∧
      (written.1 = .error (.error .unrouted) ↔ takers = []) ∧
      (takers = [] ↔ (fan branches).accepts w.store key.level key.topic key.scope = false) ∧
      ((∃ outcome ∈ attempts.1, outcome ≠ .ok ()) →
        ∃ errors, written.1 = .error (.error (.branches errors)) ∧
          attempts.1.filter (!·.isOk) = (Error.leavesOf errors).map fun e => .error (.error e)) := by
  intro key takers attempts written
  -- a record with a plain target has a route, whatever the hidden state
  have hkey : key = r.route := congrArg Prod.fst (Record.routingKey_eq s hr w.hidden)
  obtain ⟨t, hoffer, hcounts⟩ := offer_attempts hr branches w hfans .start
  have hwritten : written = (t.outcome, attempts.2) := by
    show written = (t.outcome, (attempt s r ((fan branches).takers w.store key) w).2)
    rw [hkey]
    exact write_fan_of_offer hr hoffer
  rw [List.nil_append, ← hkey] at hcounts
  change t.Counts attempts.1 at hcounts
  have hattempts : attempts.1 = [] ↔ takers = [] := attempt_eq_nil_iff s r takers w
  refine ⟨by rw [hwritten], ?_, ?_, ?_, ?_⟩
  · rw [hwritten, hcounts.outcome_eq_ok_iff, failures_eq_nil_iff, ne_eq, hattempts]
  · rw [hwritten, hcounts.outcome_eq_unrouted_iff, hattempts]
  · rw [Bool.eq_false_iff, ne_eq, accepts_iff, not_not]
  · rintro ⟨outcome, hmem, hne⟩
    have hfailures : failures attempts.1 ≠ [] := fun h => hne ((failures_eq_nil_iff _).1 h outcome hmem)
    refine ⟨t.errors, ?_, hcounts.errors⟩
    rw [hwritten, hcounts.outcome_of_failures hfailures]

/-- A tree with outputs in several places, among them a closed file and one that fails only once, and a fan that
takes nothing. -/
theorem write_fan_delivers_nested :
    let s : Suppliers Unit := ⟨fun _ => pure .null, fun _ => pure .null⟩
    let filter := Filter.uniform .info
    let respond : Nat → Record → Outcome := fun n _ => if n = 1 then .error (.error (.io "full")) else .ok ()
    let outputs : List Output :=
      [.memory filter .bunyan, .memory (.uniform .error) .bunyan,
        ⟨"log", some filter, .bunyan, .file ⟨"log", "log", none, none⟩⟩,
        ⟨"disk", some filter, .bunyan, .foreign ⟨0, respond, none⟩⟩]
    let w : World Unit := ⟨(), { Store.empty with outputs }⟩
    let branches : List Sink :=
      [.output 3, .fan [.output 1, .nowhere], .fan [.output 2, .fan [.output 0, .output 3]], .output 3]
    let r := (Logger.entry ⟨0, 0⟩ .info "m" none).set Record.topicKey (.text "auth")
    r.hasPlainTarget ∧ (fan branches).FansOut w.store ∧
      (fan branches).takers w.store (r.routingKey s w.hidden).1 = [3, 2, 0, 3, 3] ∧
      ∃ errors, (write s r (fan branches) w).1 = .error (.error (.branches errors)) ∧
        Error.leavesOf errors = [.closed "log", .io "full"] := by
  intro s filter respond outputs w branches r
  have hr : r.hasPlainTarget := by decide
  -- each output fails with a single error, if it fails
  have hmemory : ∀ o ∈ w.store.output? 0, o.IsSingle := by
    rintro _ ⟨⟩
    exact .of_respond? rfl
  have hquiet : ∀ o ∈ w.store.output? 1, o.IsSingle := by
    rintro _ ⟨⟩
    exact .of_respond? rfl
  have hfile : ∀ o ∈ w.store.output? 2, o.IsSingle := by
    rintro _ ⟨⟩
    exact .of_respond? rfl
  have hdisk : ∀ o ∈ w.store.output? 3, o.IsSingle := by
    rintro _ ⟨⟩ _ ⟨⟩ n _
    show Outcome.isSingle (if n = 1 then _ else _)
    split <;> rfl
  have hfans : (fan branches).FansOut w.store :=
    ⟨hdisk, ⟨hquiet, trivial, trivial⟩, ⟨hfile, ⟨hmemory, hdisk, trivial⟩, trivial⟩, hdisk, trivial⟩
  have htakers : (fan branches).takers w.store (r.routingKey s w.hidden).1 = [3, 2, 0, 3, 3] := by decide
  -- the rest is evaluated for the attempts
  obtain ⟨-, -, -, -, hdelivers⟩ := write_fan_delivers s r hr branches w hfans
  have hattempts : (([3, 2, 0, 3, 3].mapM fun id => Output.write s id r) w).1
      = [.ok (), lost (.closed "log"), .ok (), lost (.io "full"), .ok ()] := rfl
  rw [htakers, hattempts] at hdelivers
  obtain ⟨errors, hwritten, hlost⟩ := hdelivers ⟨lost (.io "full"), by simp, nofun⟩
  refine ⟨hr, hfans, htakers, errors, hwritten, ?_⟩
  have hinj : Function.Injective lost := fun e e' h => by cases h; rfl
  change [Error.closed "log", .io "full"].map lost = (Error.leavesOf errors).map lost at hlost
  exact (List.map_injective_iff.2 hinj hlost).symm

end Sink

end Logbook
