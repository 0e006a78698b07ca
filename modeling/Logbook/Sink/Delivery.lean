import Logbook.Sink

/-!
# Delivery of records

`Sink.write` brings a record to the outputs of a sink.  A fan looks at the record's routing key and offers the record
to every branch that accepts the key, in order, whatever became of the branches before; only a breakdown stops it.  A
branch that found no place for the record does not count.  A fan without any branch that counts is itself `unrouted`.
-/

namespace Logbook

/-- What sinks route a record by. -/
structure RoutingKey where
  level : Level
  topic : String
  scope : String
deriving DecidableEq

/-- The level, topic and scope that a record holds; `unset` and the main topic and scope if it holds none. -/
def Record.routingKey {m : Type → Type} [Monad m] (s : Sources m) (r : Record) : m RoutingKey := do
  let level := ((r.find? levelKey).bind Value.level?).getD .unset
  let topic ← r.textOf s topicKey
  let scope ← r.textOf s scopeKey
  pure ⟨level, topic.getD Target.main, scope.getD Target.main⟩

namespace Sink

/-- How far a fan has come with a record. -/
structure Tally where
  /-- A branch took the record, or failed to. -/
  accepted : Bool
  /-- The errors so far, oldest first. -/
  errors : List Error

namespace Tally

def start : Tally := ⟨false, []⟩

/-- Count the outcome of one branch; a breakdown goes on to the caller. -/
def add (t : Tally) : Outcome → Except Failure Tally
  | .ok () => .ok ⟨true, t.errors⟩
  | .error (.error .unrouted) => .ok t
  | .error (.error e) => .ok ⟨true, t.errors ++ [e]⟩
  | .error (.panic message) => .error (.panic message)

def outcome (t : Tally) : Outcome :=
  match t.errors with
  | [] => if t.accepted then .ok () else .error (.error .unrouted)
  | errors => .error (.error (.branches errors))

end Tally

variable {m : Type → Type} {σ : Type} [Monad m] [Attempts m σ]

mutual

/-- Bring a record to the outputs. -/
def write (s : Sources m) (r : Record) : Sink → StateM (World σ) Outcome
  | output id => Output.write s id r
  | nowhere => pure (.ok ())
  | fan branches => World.askOr (r.routingKey s) fun key => do
    let t ← offer s r key .start branches
    pure (t.bind Tally.outcome)
  | through chain next => World.askOr (chain.finish s r) fun r => write s r next

/-- Offer a record to branches in turn. -/
def offer (s : Sources m) (r : Record) (key : RoutingKey) (t : Tally) :
    List Sink → StateM (World σ) (Except Failure Tally)
  | [] => pure (.ok t)
  | b :: rest => do
    if ← World.view (b.accepts · key.level key.topic key.scope) then
      match t.add (← write s r b) with
      | .ok t => offer s r key t rest
      | .error e => pure (.error e)
    else offer s r key t rest

end

end Sink

end Logbook
