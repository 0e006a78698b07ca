import Logbook.Proofs.Logger.Counting
import Logbook.Proofs.Sink.Projection
import Mathlib.Tactic.Choose

/-!
# When the application breaks down

A deferred or guarded value may break down when it is asked.  `Logger.emit` lets nothing of that out: the entry is
dropped where it was, which is counted and reported, and the outputs keep what they have.  An application that never
breaks down is one that always answers (`Suppliers.brittle`), so what is known of those holds for it as well.

## Key results

- `BrittleSuppliers.neverBreaks_iff`: what never breaks down always answers
- `Logger.emit_brittle`: it makes no difference to a logger that it could have broken down
- `Logger.emit_of_breaks`: what is left of an entry that broke down when it was finished
-/

namespace Logbook

variable {σ τ : Type}

/-- What always answers, as something that might break down. -/
def Suppliers.brittle (s : Suppliers σ) : BrittleSuppliers σ where
  compute source := ExceptT.lift (s.compute source)
  disclose source := ExceptT.lift (s.disclose source)

/-- Whatever is asked for, there is an answer. -/
def BrittleSuppliers.NeverBreaks (s : BrittleSuppliers σ) : Prop :=
  ∀ source hidden, (∃ v, (s.compute source hidden).1 = .ok v) ∧ ∃ v, (s.disclose source hidden).1 = .ok v

/-- A computation with an answer in every state is one that cannot break down. -/
theorem Brittle.exists_lift {α : Type} {x : Brittle σ α} (h : ∀ hidden, ∃ a, (x hidden).1 = .ok a) :
    ∃ y : StateM σ α, x = ExceptT.lift y := by
  choose a ha using h
  refine ⟨fun hidden => (a hidden, (x hidden).2), funext fun hidden => Prod.ext (ha hidden) rfl⟩

namespace BrittleSuppliers

/-- What never breaks down always answers. -/
theorem neverBreaks_iff {s : BrittleSuppliers σ} : s.NeverBreaks ↔ ∃ s' : Suppliers σ, s = s'.brittle := by
  constructor
  · intro h
    choose compute hcompute using fun source => Brittle.exists_lift fun hidden => (h source hidden).1
    choose disclose hdisclose using fun source => Brittle.exists_lift fun hidden => (h source hidden).2
    exact ⟨⟨compute, disclose⟩, congr (congrArg Sources.mk (funext hcompute)) (funext hdisclose)⟩
  · rintro ⟨s', rfl⟩ source hidden
    exact ⟨⟨_, rfl⟩, ⟨_, rfl⟩⟩

end BrittleSuppliers

/-- What cannot break down is answered like what might, but does not. -/
theorem Suppliers.mirror_brittle (s : Suppliers σ) : s.brittle.Mirror id s := ⟨fun _ _ => rfl, fun _ _ => rfl⟩

namespace Logger

section

variable {m' m : Type → Type} [Monad m'] [Attempts m' τ] [LawfulAttempts m' τ] [Monad m] [Attempts m σ]
  [LawfulAttempts m σ]

/-- Applications that answer alike get their entries logged alike. -/
theorem mirrors_emit {f : τ → σ} {s' : Sources m'} {s : Sources m} (h : s'.Mirror f s) (l : Logger) (now : Instant)
    (level : Level) {message' : StateM τ String} {message : StateM σ String} (hmessage : Mirrors f message' message)
    (error : Option ErrorChain) :
    Mirrors (World.map f) (l.emit s' now level message' error) (l.emit s now level message error) := by
  refine (World.mirrors_view _).bind fun enabled => ?_
  split
  · exact (World.mirrors_ask hmessage).bind fun text =>
      (Sink.mirrors_write h _ l.asSink).bind fun outcome => World.mirrors_update _
  · exact World.mirrors_update _

end

/-- That an application could have broken down makes no difference. -/
theorem emit_brittle (s : Suppliers σ) (l : Logger) (now : Instant) (level : Level) (message : StateM σ String)
    (error : Option ErrorChain) : l.emit s.brittle now level message error = l.emit s now level message error := by
  have hmessage : Mirrors id message message := fun _ => rfl
  funext w
  exact (mirrors_iff.1 (mirrors_emit s.mirror_brittle l now level hmessage error) w).symm

variable {m : Type → Type} [Monad m] [Attempts m σ]

/-- If an entry cannot be finished, the sink is not written to: it is dropped, with the state that the application was
left in. -/
theorem emit_of_breaks (s : Sources m) (l : Logger) (now : Instant) (level : Level) (message : StateM σ String)
    (error : Option ErrorChain) {w : World σ} (hgate : l.isEnabled w.store level = true) {breakdown : Option String}
    {hidden : σ} (h : Attempts.attempt (l.chain.finish s (entry now level (message w.hidden).1 error))
      (message w.hidden).2 = (.error breakdown, hidden)) :
    (l.emit s now level message error w).2 = ⟨hidden, l.settle (.error (.panic breakdown)) w.store⟩ := by
  have hwrite : l.asSink.write s (entry now level (message w.hidden).1 error) ⟨(message w.hidden).2, w.store⟩
      = (.error (.panic breakdown), ⟨hidden, w.store⟩) := by
    rw [asSink, Sink.write, World.askOr, World.ask_bind, h]
    rfl
  rw [emit_of_enabled s l now level message error hgate]
  exact congrArg (fun written => World.mk written.2.hidden (l.settle written.1 written.2.store)) hwrite

end Logger

end Logbook
