import Logbook.Proofs.Sink.Frame

/-!
# Applications that answer alike

The hidden state of an application is only passed on, and a breakdown only ends what asked.  So if one application
answers what another does, everything that asks it does the same (`Mirrors`), whatever more its hidden state tells,
what was asked so far for instance.  In particular an application that could break down but never does is as good as
one that cannot.

## Key results

- `Mirrors.bind` / `Mirrors.mapM` / `Mirrors.mapFields`: computations made of others
- `Record.mirrors_redact` / `Layout.mirrors_encodeLine`: finishing and writing out a record
- `Sink.mirrors_write` / `Logger.mirrors_emit`: bringing a record to a sink, and logging an entry
- `Logger.emit_brittle`: logging for an application that never breaks down
-/

namespace Logbook

/-- A value is an attempt that succeeds, and what breaks down does not go on. -/
class LawfulAttempts (m : Type → Type) (σ : outParam Type) [Monad m] [Attempts m σ] : Prop
    extends LawfulMonad m where
  attempt_pure {α : Type} (a : α) (hidden : σ) : Attempts.attempt (pure a : m α) hidden = (.ok a, hidden)
  attempt_bind {α β : Type} (x : m α) (g : α → m β) (hidden : σ) : Attempts.attempt (x >>= g) hidden =
    match Attempts.attempt x hidden with
    | (.ok a, hidden) => Attempts.attempt (g a) hidden
    | (.error message, hidden) => (.error message, hidden)

instance (σ : Type) : LawfulAttempts (StateM σ) σ where
  attempt_pure _ _ := rfl
  attempt_bind _ _ _ := rfl

instance (σ : Type) : LawfulAttempts (Brittle σ) σ where
  attempt_pure _ _ := rfl
  attempt_bind x g hidden := by
    show ExceptT.bindCont g (x hidden).1 (x hidden).2 = match x hidden with
      | (.ok a, hidden) => g a hidden
      | (.error message, hidden) => (.error message, hidden)
    obtain ⟨_ | _, _⟩ := x hidden <;> rfl

variable {m' m : Type → Type} {τ σ α β : Type}

section

variable [Attempts m' τ] [Attempts m σ]

/-- The first computation does what the second does, its state seen through `f`. -/
def Mirrors (f : τ → σ) (x' : m' α) (x : m α) : Prop :=
  ∀ hidden, Attempts.attempt x (f hidden)
    = ((Attempts.attempt x' hidden).1, f (Attempts.attempt x' hidden).2)

/-- The first application answers like the second, its hidden state seen through `f`. -/
structure Sources.Mirror (f : τ → σ) (s' : Sources m') (s : Sources m) : Prop where
  compute : ∀ source, Mirrors f (s'.compute source) (s.compute source)
  disclose : ∀ source, Mirrors f (s'.disclose source) (s.disclose source)

/-- Between computations that always give a value, a mirror is an equation. -/
theorem mirrors_iff {f : τ → σ} {x' : StateM τ α} {x : StateM σ α} :
    Mirrors f x' x ↔ ∀ hidden, x (f hidden) = ((x' hidden).1, f (x' hidden).2) := by
  refine forall_congr' fun hidden => ?_
  show (Except.ok (x (f hidden)).1, (x (f hidden)).2) = (Except.ok (x' hidden).1, f (x' hidden).2) ↔ _
  rw [Prod.ext_iff, Prod.ext_iff, Except.ok.injEq]

end

namespace Mirrors

variable [Monad m'] [Attempts m' τ] [LawfulAttempts m' τ] [Monad m] [Attempts m σ] [LawfulAttempts m σ]
variable {f : τ → σ}

theorem pure (a : α) : Mirrors f (pure a : m' α) (pure a : m α) := fun hidden => by
  rw [LawfulAttempts.attempt_pure, LawfulAttempts.attempt_pure]

/-- What comes after a mirrored computation is asked for the same value, or not at all. -/
theorem bind {x' : m' α} {x : m α} {g' : α → m' β} {g : α → m β} (hx : Mirrors f x' x)
    (hg : ∀ a, Mirrors f (g' a) (g a)) : Mirrors f (x' >>= g') (x >>= g) := by
  intro hidden
  rw [LawfulAttempts.attempt_bind, LawfulAttempts.attempt_bind, hx hidden]
  cases Attempts.attempt x' hidden with
  | mk attempted hidden' =>
    cases attempted with
    | ok a => exact hg a hidden'
    | error message => rfl

/-- Going through a list is mirrored if each step is. -/
theorem mapM {g' : α → m' β} {g : α → m β} {as : List α} (h : ∀ a, Mirrors f (g' a) (g a)) :
    Mirrors f (as.mapM g') (as.mapM g) := by
  induction as with
  | nil => exact pure []
  | cons a as ih =>
    rw [List.mapM_cons, List.mapM_cons]
    exact (h a).bind fun b => ih.bind fun bs => pure (b :: bs)

/-- Going through fields is mirrored if each step is. -/
theorem mapFields {g' : String → α → m' β} {g : String → α → m β}
    (h : ∀ key a, Mirrors f (g' key a) (g key a)) : {b : Option String} → (fields : Fields α b) →
    Mirrors f (fields.mapM g') (fields.mapM g)
  | _, .nil => pure Fields.nil
  | _, .cons k a _ rest => (h k a).bind fun _ => (mapFields h rest).bind fun _ => pure _

end Mirrors

/-! ## Worlds -/

/-- The same store with another hidden state. -/
def World.map (f : τ → σ) (w : World τ) : World σ := ⟨f w.hidden, w.store⟩

namespace World

variable [Attempts m' τ] [Attempts m σ] {f : τ → σ}

/-- Asking in a world is mirrored like asking. -/
theorem mirrors_ask {x' : StateM τ α} {x : StateM σ α} (h : Mirrors f x' x) : Mirrors (map f) (ask x') (ask x) := by
  refine mirrors_iff.2 fun w => ?_
  show ((x (f w.hidden)).1, World.mk (x (f w.hidden)).2 w.store) = _
  rw [mirrors_iff.1 h w.hidden]
  rfl

/-- What the application gives is mirrored, so the write that goes on with it is, too. -/
theorem mirrors_askOr {x' : m' α} {x : m α} {go' : α → StateM (World τ) Outcome}
    {go : α → StateM (World σ) Outcome} (h : Mirrors f x' x) (hgo : ∀ a, Mirrors (map f) (go' a) (go a)) :
    Mirrors (map f) (askOr x' go') (askOr x go) := by
  -- an attempt always gives an outcome, which tells both sides alike how to go on
  refine Mirrors.bind (mirrors_ask (mirrors_iff.2 h)) fun attempted => ?_
  cases attempted with
  | ok a => exact hgo a
  | error message => exact .pure _

/-- The store is the same on both sides. -/
theorem mirrors_update (g : Store → α × Store) : Mirrors (map f) (update g) (update g) := fun _ => rfl

theorem mirrors_view (g : Store → α) : Mirrors (map f) (view g) (view g) := fun _ => rfl

end World

/-! ## Values and records -/

variable [Monad m'] [Attempts m' τ] [Monad m] [Attempts m σ] {f : τ → σ} {s' : Sources m'} {s : Sources m}

section

variable [LawfulAttempts m' τ] [LawfulAttempts m σ]

namespace Value

/-- Each value that is computed on the way is the same. -/
theorem mirrors_resolveWithin (h : s'.Mirror f s) (n : Nat) (v : Value) :
    Mirrors f (resolveWithin s' n v) (resolveWithin s n v) := by
  induction n generalizing v with
  | zero => exact .pure _
  | succ n ih =>
    cases v with
    | deferred source => exact (h.compute source).bind ih
    | _ => exact .pure _

/-- Computing until the value is not deferred. -/
theorem mirrors_resolve (h : s'.Mirror f s) (v : Value) : Mirrors f (v.resolve s') (v.resolve s) :=
  mirrors_resolveWithin h depthLimit v

/-- Turning a value into JSON, by the levels that are left. -/
theorem mirrors_encodeWithin (h : s'.Mirror f s) (room : Nat) (v : Value) :
    Mirrors f (v.encodeWithin s' room) (v.encodeWithin s room) := by
  -- by induction on the levels, strong as a record takes two of them
  induction room using Nat.strongRecOn generalizing v with
  | ind room ih =>
    cases room with
    | zero => exact .pure _
    | succ room =>
      have hless := ih room (Nat.lt_succ_self room)
      cases v with
      | array items => exact (Mirrors.mapM hless).bind fun _ => .pure _
      | record fields =>
        cases room with
        -- with one level left the record is cut off on both sides
        | zero =>
          rw [encodeWithin, encodeWithin]
          split <;> exact .pure _
        | succ room =>
          rw [encodeWithin, encodeWithin]
          split
          · exact .pure _
          · exact (Mirrors.mapFields (fun _ v => ih room (by omega) v) fields).bind fun _ => .pure _
      -- what the application gives mirrors, and then so does its encoding
      | deferred source => exact (h.compute source).bind hless
      | guarded source => exact (h.disclose source).bind hless
      | _ => exact .pure _

end Value

namespace Redaction

/-- What a guarded value gives out is the same, and so is what is left to `rest`. -/
theorem mirrors_disclosing (h : s'.Mirror f s) {rest' : Value → m' Value} {rest : Value → m Value}
    (hrest : ∀ v, Mirrors f (rest' v) (rest v)) (v : Value) :
    Mirrors f (disclosing s' rest' v) (disclosing s rest v) := by
  refine (Value.mirrors_resolve h v).bind fun u => ?_
  cases u with
  | guarded source => exact h.disclose source
  | _ => exact hrest _

/-- Redacting a field, if what is done below it is mirrored. -/
theorem mirrors_redactField (h : s'.Mirror f s) (rules : List Rule) {rest' : Value → m' Value}
    {rest : Value → m Value} (hrest : ∀ v, Mirrors f (rest' v) (rest v)) (key : String) (v : Value) :
    Mirrors f (redactField s' rules rest' key v) (redactField s rules rest key v) := by
  refine mirrors_disclosing h (fun u => ?_) v
  split
  · exact .pure _
  · exact hrest u

/-- Redacting a value, by the levels that are left. -/
theorem mirrors_redactValue (h : s'.Mirror f s) (rules : List Rule) (room : Nat) (v : Value) :
    Mirrors f (redactValue s' rules room v) (redactValue s rules room v) := by
  induction room generalizing v with
  | zero => exact .pure _
  | succ room ih =>
    cases v with
    | array items => exact (Mirrors.mapM (mirrors_disclosing h ih)).bind fun _ => .pure _
    | record fields => exact (Mirrors.mapFields (mirrors_redactField h rules ih) fields).bind fun _ => .pure _
    | _ => exact .pure _

end Redaction

namespace Record

/-- Redacting a record; the routing fields are only computed. -/
theorem mirrors_redact (h : s'.Mirror f s) (rules : List Redaction.Rule) (r : Record) :
    Mirrors f (r.redact s' rules) (r.redact s rules) := by
  refine Mirrors.mapFields (fun key v => ?_) r
  split
  · exact Value.mirrors_resolve h v
  · exact Redaction.mirrors_redactField h rules (Redaction.mirrors_redactValue h rules _) key v

/-- The text of a field. -/
theorem mirrors_textOf (h : s'.Mirror f s) (r : Record) (key : String) :
    Mirrors f (r.textOf s' key) (r.textOf s key) := by
  unfold textOf
  cases r.find? key with
  | none => exact .pure _
  | some v => exact (Value.mirrors_resolve h v).bind fun _ => .pure _

/-- The topic and the scope are looked at alike. -/
theorem mirrors_routingKey (h : s'.Mirror f s) (r : Record) : Mirrors f (r.routingKey s') (r.routingKey s) :=
  (mirrors_textOf h r topicKey).bind fun _ => (mirrors_textOf h r scopeKey).bind fun _ => .pure _

/-- Turning a record into JSON. -/
theorem mirrors_encode (h : s'.Mirror f s) (r : Record) : Mirrors f (r.encode s') (r.encode s) := by
  unfold encode
  split
  · exact .pure _
  · exact (Mirrors.mapFields (fun _ v => Value.mirrors_encodeWithin h _ v) r).bind fun _ => .pure _

end Record

/-- The line of a record is the same. -/
theorem Layout.mirrors_encodeLine (h : s'.Mirror f s) (l : Layout) (r : Record) :
    Mirrors f (l.encodeLine s' r) (l.encodeLine s r) :=
  ((Record.mirrors_encode h (l.arrange r)).bind fun _ => .pure _).bind fun _ => .pure _

/-! ## Writing -/

/-- An output asks for nothing but the line of the record. -/
theorem Output.mirrors_write (h : s'.Mirror f s) (id : Nat) (r : Record) :
    Mirrors (World.map f) (Output.write s' id r) (Output.write s id r) := by
  refine (World.mirrors_view _).bind fun o => ?_
  cases o with
  | none => exact .pure _
  | some o =>
    obtain ⟨name, filter, layout, medium⟩ := o
    have hline := Layout.mirrors_encodeLine h layout r
    cases medium with
    | memory records => exact World.mirrors_update _
    | foreign f => exact World.mirrors_update _
    | _ => exact World.mirrors_askOr hline fun _ => World.mirrors_update _

end

namespace Sink

mutual

/-- Bringing a record to a sink, one case for each kind of sink. -/
theorem mirrors_write [LawfulAttempts m' τ] [LawfulAttempts m σ] (h : s'.Mirror f s) (r : Record) : (sink : Sink) →
    Mirrors (World.map f) (write s' r sink) (write s r sink)
  | output id => by
    rw [write, write]
    exact Output.mirrors_write h id r
  | nowhere => .pure _
  | fan branches => by
    rw [write, write]
    exact World.mirrors_askOr (Record.mirrors_routingKey h r) fun key =>
      (mirrors_offer h r key .start branches).bind fun _ => .pure _
  | through chain next => by
    rw [write, write]
    exact World.mirrors_askOr (Record.mirrors_redact h chain.rules (chain.flatten r)) fun r' =>
      mirrors_write h r' next

/-- Offering a record to branches, one step for each of them. -/
theorem mirrors_offer [LawfulAttempts m' τ] [LawfulAttempts m σ] (h : s'.Mirror f s) (r : Record) (key : RoutingKey)
    (t : Tally) : (branches : List Sink) → Mirrors (World.map f) (offer s' r key t branches) (offer s r key t branches)
  | [] => .pure _
  | b :: rest => by
    rw [offer, offer]
    refine (World.mirrors_view _).bind fun accepts => ?_
    split
    · refine (mirrors_write h r b).bind fun outcome => ?_
      cases t.add outcome with
      | ok t' => exact mirrors_offer h r key t' rest
      | error e => exact .pure _
    · exact mirrors_offer h r key t rest

end

end Sink

end Logbook
