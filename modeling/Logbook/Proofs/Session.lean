import Logbook.Logger

/-!
# Sessions

An application works with the loggers of one root: it derives loggers, logs entries and changes what the
sink asks of entries.  A `Session` is a root logger in use together with the loggers derived from it, and
`Session.run` takes the steps of the application one after another.
-/

namespace Logbook

/-- What an application does with the loggers of one root.  A logger is named by its number: the root is
number 0, and each logger that is derived gets the next number. -/
inductive Step (σ : Type) where
  | derive (on : Nat) (record : Record) (rules : List Redaction.Rule)
  | emit (on : Nat) (now : Instant) (level : Level) (message : StateM σ String) (error : Option ErrorChain)
  | setLevel (on : Nat) (level : Level) (topic scope : String)
  | filterMore (on : Nat)
  | filterLess (on : Nat)

/-- A root logger in use. -/
structure Session (σ : Type) where
  root : Logger
  /-- The loggers derived from the root, oldest first. -/
  derived : List Logger
  world : World σ

namespace Session

variable {σ : Type}

/-- All loggers by their numbers. -/
def loggers (x : Session σ) : List Logger := x.root :: x.derived

/-- A session with nothing but a new root logger. -/
def start (s : Suppliers σ) (h : Host) (name : String) (sink : Sink) (record : Record)
    (rules : List Redaction.Rule) (w : World σ) : Session σ :=
  let (root, world) := Logger.root s h name sink record rules w
  ⟨root, [], world⟩

/-- Do something with the logger of a number; without such a logger nothing happens. -/
def withLogger (x : Session σ) (n : Nat) (f : Logger → Session σ) : Session σ :=
  x.loggers[n]?.elim x f

/-- Change the store. -/
def change (x : Session σ) (f : Store → Store) : Session σ :=
  { x with world := { x.world with store := f x.world.store } }

/-- Add a logger derived from another one. -/
def derive (s : Suppliers σ) (x : Session σ) (l : Logger) (record : Record) (rules : List Redaction.Rule) :
    Session σ :=
  let (chain, world) := World.ask (l.chain.derive s record rules) x.world
  { x with derived := x.derived ++ [l.withChain chain], world }

/-- Take one step. -/
def step (s : Suppliers σ) (x : Session σ) : Step σ → Session σ
  | .derive on record rules => x.withLogger on fun l => x.derive s l record rules
  | .emit on now level message error =>
    x.withLogger on fun l => { x with world := (l.emit s now level message error x.world).2 }
  | .setLevel on level topic scope => x.withLogger on fun l => x.change (l.sink.setLevel level topic scope)
  | .filterMore on => x.withLogger on fun l => x.change l.sink.filterMore
  | .filterLess on => x.withLogger on fun l => x.change l.sink.filterLess

/-- Take steps one after another. -/
def run (s : Suppliers σ) (x : Session σ) (steps : List (Step σ)) : Session σ := steps.foldl (step s) x

end Session

end Logbook
