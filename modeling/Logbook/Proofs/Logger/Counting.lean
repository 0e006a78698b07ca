import Logbook.Logger
import Logbook.Proofs.Sink.Frame

/-!
# Every entry is counted once

A logger counts what becomes of an entry (`Fate`): that a sink took it, that the gate or every sink refused
it, or that it was lost.  Whatever the sinks do, and even if the application breaks down when it is asked for
values, a run of entries on the loggers of one root is counted exactly, each entry once, and the counters of no
other root move.

## Key results

- `Emission.counters_perform`: one entry is counted once, where its logger counts
- `Fate.foldl_count`: what counting a list of fates amounts to
- `Emission.countersOf_performAll`: the counters after a whole run
-/

namespace Logbook

variable {m : Type → Type} {σ : Type} [Monad m] [Attempts m σ]

/-! ## The loggers of a root -/

/-- The loggers of a root are the root itself and all that are derived from one of them. -/
inductive Logger.Descends (s : Sources m) (root : Logger) : Logger → Prop where
  | self : Descends s root root
  | derive {l : Logger} (h : Descends s root l) {record : Record} {rules : List Redaction.Rule} (hidden : σ)
      {chain : Chain} (hchain : (Attempts.attempt (l.chain.derive s record rules) hidden).1 = .ok chain) :
      Descends s root (l.withChain chain)

/-- They all count for the root. -/
theorem Logger.Descends.counters_eq {s : Sources m} {root l : Logger} (h : Descends s root l) :
    l.counters = root.counters := by
  induction h with
  | self => rfl
  | derive _ _ _ ih => exact ih

/-! ## What becomes of entries -/

/-- An entry that passes the gate is brought to the sink, and its outcome is settled. -/
theorem Logger.emit_of_enabled (s : Sources m) (l : Logger) (now : Instant) (level : Level) (message : StateM σ String)
    (error : Option ErrorChain) {w : World σ} (h : l.isEnabled w.store level = true) :
    let text := message w.hidden
    let written := l.asSink.write s (entry now level text.1 error) ⟨text.2, w.store⟩
    (l.emit s now level message error w).2 = ⟨written.2.hidden, l.settle written.1 written.2.store⟩ := by
  rw [emit, World.view_bind, if_pos h]
  rfl

/-- What becomes of an entry: the gate refuses it, or it is brought to the sink with some outcome. -/
inductive Fate where
  | refused
  | written (outcome : Outcome)

namespace Fate

/-- A sink took the entry. -/
def isLogged : Fate → Bool
  | written (.ok ()) => true
  | _ => false

/-- The gate, or every sink, refused the entry. -/
def isFiltered : Fate → Bool
  | refused => true
  | written (.error (.error .unrouted)) => true
  | _ => false

/-- The sink failed in another way, or broke down. -/
def isDropped : Fate → Bool
  | refused => false
  | written (.ok ()) => false
  | written (.error (.error .unrouted)) => false
  | written (.error _) => true

/-- Every fate is of exactly one of the three kinds. -/
theorem kinds (f : Fate) :
    (f.isLogged = true ∧ f.isFiltered = false ∧ f.isDropped = false) ∨
      (f.isLogged = false ∧ f.isFiltered = true ∧ f.isDropped = false) ∨
      (f.isLogged = false ∧ f.isFiltered = false ∧ f.isDropped = true) := by
  match f with
  | refused => exact .inr (.inl ⟨rfl, rfl, rfl⟩)
  | written (.ok ()) => exact .inl ⟨rfl, rfl, rfl⟩
  | written (.error (.panic _)) => exact .inr (.inr ⟨rfl, rfl, rfl⟩)
  | written (.error (.error e)) =>
    cases e with
    | unrouted => exact .inr (.inl ⟨rfl, rfl, rfl⟩)
    | _ => exact .inr (.inr ⟨rfl, rfl, rfl⟩)

/-- How a fate is counted. -/
def count : Fate → Counters → Counters
  | refused => Counters.countFiltered
  | written outcome => Logger.tally outcome

/-- Each counter moves on the fates of its kind. -/
theorem count_eq (f : Fate) (c : Counters) :
    f.count c = ⟨if f.isLogged then c.logged + 1 else c.logged,
      if f.isFiltered then c.filtered + 1 else c.filtered,
      if f.isDropped then c.dropped + 1 else c.dropped⟩ := by
  match f with
  | refused => rfl
  | written (.ok ()) => rfl
  | written (.error (.panic _)) => rfl
  | written (.error (.error e)) => cases e <;> rfl

/-- A word that counts what has a property. -/
theorem add_countP_cons {α : Type} (n : UInt64) (p : α → Bool) (a : α) (as : List α) :
    (if p a then n + 1 else n) + .ofNat (as.countP p) = n + .ofNat ((a :: as).countP p) := by
  rw [List.countP_cons]
  split
  · rw [UInt64.ofNat_add, UInt64.add_comm (.ofNat _), UInt64.add_assoc]
    rfl
  · rfl

/-- Counting fates one after another adds to each counter how many there are of its kind. -/
theorem foldl_count (fates : List Fate) (c : Counters) :
    fates.foldl (fun c f => f.count c) c
      = ⟨c.logged + .ofNat (fates.countP isLogged), c.filtered + .ofNat (fates.countP isFiltered),
        c.dropped + .ofNat (fates.countP isDropped)⟩ := by
  induction fates generalizing c with
  | nil => simp
  | cons f fates ih =>
    rw [List.foldl_cons, ih, count_eq]
    simp only [add_countP_cons]

/-- Every fate is counted in one of the three ways. -/
theorem countP_add (fates : List Fate) :
    fates.countP isLogged + fates.countP isFiltered + fates.countP isDropped = fates.length := by
  induction fates with
  | nil => rfl
  | cons f fates ih =>
    simp only [List.countP_cons, List.length_cons]
    rcases f.kinds with ⟨h₁, h₂, h₃⟩ | ⟨h₁, h₂, h₃⟩ | ⟨h₁, h₂, h₃⟩ <;> simp [h₁, h₂, h₃] <;> omega

end Fate

/-- An entry that a logger is to log. -/
structure Emission (σ : Type) where
  logger : Logger
  now : Instant
  level : Level
  message : StateM σ String
  error : Option ErrorChain

namespace Emission

/-- Log the entry. -/
def perform (s : Sources m) (e : Emission σ) (w : World σ) : World σ :=
  (e.logger.emit s e.now e.level e.message e.error w).2

/-- What becomes of the entry when it is logged. -/
def fate (s : Sources m) (e : Emission σ) (w : World σ) : Fate :=
  if e.logger.isEnabled w.store e.level then
    let text := e.message w.hidden
    .written (e.logger.asSink.write s (Logger.entry e.now e.level text.1 e.error) ⟨text.2, w.store⟩).1
  else .refused

/-- Log entries one after another. -/
def performAll (s : Sources m) (w : World σ) (es : List (Emission σ)) : World σ :=
  es.foldl (fun w e => e.perform s w) w

/-- What becomes of each of them. -/
def fates (s : Sources m) : World σ → List (Emission σ) → List Fate
  | _, [] => []
  | w, e :: es => e.fate s w :: fates s (e.perform s w) es

/-- Each emission has a fate. -/
@[simp] theorem length_fates (s : Sources m) (w : World σ) (es : List (Emission σ)) :
    (fates s w es).length = es.length := by
  induction es generalizing w with
  | nil => rfl
  | cons e es ih => rw [fates, List.length_cons, ih, List.length_cons]

/-! ## Counting -/

/-- Reporting an outcome leaves the counters to counting it. -/
theorem counters_settle (l : Logger) (outcome : Outcome) (st : Store) :
    (l.settle outcome st).counters = st.counters.modify l.counters (Logger.tally outcome) := by
  rw [Logger.settle]
  cases l.report st outcome <;> rfl

/-- One entry is counted once, where its logger counts, and no sink changes a counter by itself. -/
theorem counters_perform (s : Sources m) (e : Emission σ) (w : World σ) :
    (e.perform s w).store.counters = w.store.counters.modify e.logger.counters (e.fate s w).count := by
  rw [perform, fate]
  split
  next henabled =>
    let text := e.message w.hidden
    let entry := Logger.entry e.now e.level text.1 e.error
    -- writing leaves all counters alone, also those of loggers that the sink goes through
    have hkeeps := (Sink.write_keeps s entry e.logger.asSink ⟨text.2, w.store⟩).counters
    rw [Logger.emit_of_enabled s e.logger e.now e.level e.message e.error henabled]
    show (e.logger.settle _ (Sink.write s entry e.logger.asSink ⟨text.2, w.store⟩).2.store).counters = _
    rw [counters_settle, hkeeps]
    rfl
  next henabled =>
    rw [Logger.emit, World.view_bind, if_neg henabled]
    rfl

/-- The counters after a run of entries that all count in one place. -/
theorem counters_performAll (s : Sources m) (id : Nat) (w : World σ) (es : List (Emission σ))
    (hes : ∀ e ∈ es, e.logger.counters = id) :
    (performAll s w es).store.counters
      = w.store.counters.modify id fun c => (fates s w es).foldl (fun c f => f.count c) c := by
  -- by induction on the emissions, each of which counts its fate
  induction es generalizing w with
  | nil => exact (List.modify_id _ _).symm
  | cons e es ih =>
    have hrest := ih (e.perform s w) fun e' he' => hes e' (List.mem_cons_of_mem _ he')
    have hfirst := counters_perform s e w
    rw [hes e List.mem_cons_self] at hfirst
    show (performAll s (e.perform s w) es).store.counters = _
    rw [hrest, hfirst, List.modify_modify_eq]
    rfl

/-- **Every entry is counted once.**  After any entries on the loggers of a root, whatever the sink does with
them, the root's counters have grown, as words of 64 bits, by the number of entries that a sink took, that the
gate or every sink refused, and that were lost in an error or a breakdown.  These numbers add up to the number
of entries, and the counters of all other roots stand where they stood. -/
theorem countersOf_performAll (s : Sources m) (root : Logger) (w : World σ)
    (hroot : root.counters < w.store.counters.length) (es : List (Emission σ))
    (hes : ∀ e ∈ es, Logger.Descends s root e.logger) :
    let before := w.store.countersOf root.counters
    let after := (performAll s w es).store.countersOf root.counters
    let logged := (fates s w es).countP Fate.isLogged
    let filtered := (fates s w es).countP Fate.isFiltered
    let dropped := (fates s w es).countP Fate.isDropped
    after.logged = before.logged + .ofNat logged ∧ after.filtered = before.filtered + .ofNat filtered ∧
      after.dropped = before.dropped + .ofNat dropped ∧ logged + filtered + dropped = es.length ∧
      ∀ id, id ≠ root.counters → (performAll s w es).store.countersOf id = w.store.countersOf id := by
  intro before after logged filtered dropped
  -- all loggers of the root count in one place, where the run counts one fate after another
  have hrun := counters_performAll s root.counters w es fun e he => (hes e he).counters_eq
  have hafter : after = ⟨before.logged + .ofNat logged, before.filtered + .ofNat filtered,
      before.dropped + .ofNat dropped⟩ := by
    have hcount := Store.countersOf_count
      (fun c => (fates s w es).foldl (fun c f => f.count c) c) hroot
    rw [Fate.foldl_count] at hcount
    rw [← hcount]
    show (performAll s w es).store.counters.getD _ _ = _
    rw [hrun]
    rfl
  refine ⟨by rw [hafter], by rw [hafter], by rw [hafter], ?_, fun id hid => ?_⟩
  · rw [Fate.countP_add, length_fates]
  · rw [Store.countersOf, Store.countersOf, hrun]
    simp [List.getD_eq_getElem?_getD, Ne.symm hid]

/-- A root over another logger whose output answers in each of the four ways, and a logger derived from the
root. -/
theorem countersOf_performAll_answers :
    let s : Suppliers Unit := ⟨fun _ => pure .null, fun _ => pure .null⟩
    let h : Host := ⟨"host", 1, 0⟩
    let answers : List Outcome :=
      [.ok (), .error (.error .unrouted), .error (.error (.io "full")), .error (.panic none)]
    let answering : Output :=
      ⟨"answering", some (.uniform .info), .bunyan, .foreign ⟨0, fun n _ => answers.getD n (.ok ()), none⟩⟩
    let inner := Logger.root s h "inner" (.output 0) .empty [] ⟨(), (Store.empty.add answering).2⟩
    let root := Logger.root s h "root" inner.1.asSink .empty [] inner.2
    let child := root.1.withChain (root.1.chain.derive s (Record.empty.set Record.topicKey (.text "auth")) [] ()).1
    let es : List (Emission Unit) :=
      [⟨root.1, ⟨0, 0⟩, .info, pure "taken", none⟩, ⟨child, ⟨0, 0⟩, .info, pure "declined", none⟩,
        ⟨child, ⟨0, 0⟩, .debug, pure "refused", none⟩, ⟨root.1, ⟨0, 0⟩, .error, pure "lost", none⟩,
        ⟨child, ⟨0, 0⟩, .info, pure "lost", none⟩, ⟨root.1, ⟨0, 0⟩, .info, pure "taken", none⟩]
    root.1.counters < root.2.store.counters.length ∧ (∀ e ∈ es, Logger.Descends s root.1 e.logger) ∧
      (performAll s root.2 es).store.countersOf root.1.counters = ⟨2, 2, 2⟩ ∧
      (performAll s root.2 es).store.countersOf inner.1.counters = ⟨0, 0, 0⟩ := by
  intro s h answers answering inner root child es
  have hroot : root.1.counters < root.2.store.counters.length := by decide
  -- the emissions are all by the root and its child
  have hes : ∀ e ∈ es, Logger.Descends s root.1 e.logger := by
    have hchild : Logger.Descends s root.1 child := .derive .self () rfl
    intro e he
    simp only [es, List.mem_cons, List.not_mem_nil, or_false] at he
    rcases he with rfl | rfl | rfl | rfl | rfl | rfl
    · exact .self
    · exact hchild
    · exact hchild
    · exact .self
    · exact hchild
    · exact .self
  -- each count rises by the emissions with its fate
  obtain ⟨hlogged, hfiltered, hdropped, -, hothers⟩ := countersOf_performAll s root.1 root.2 hroot es hes
  have hfates : (fates s root.2 es).countP Fate.isLogged = 2 ∧ (fates s root.2 es).countP Fate.isFiltered = 2 ∧
      (fates s root.2 es).countP Fate.isDropped = 2 := by decide
  rw [hfates.1] at hlogged
  rw [hfates.2.1] at hfiltered
  rw [hfates.2.2] at hdropped
  refine ⟨hroot, hes, ?_, ?_⟩
  · have hext : ∀ c : Counters, c = ⟨c.logged, c.filtered, c.dropped⟩ := fun _ => rfl
    rw [hext (Store.countersOf _ _), hlogged, hfiltered, hdropped]
    rfl
  · -- the counters of another root stay
    exact hothers inner.1.counters (by decide)

end Emission

end Logbook
