import Logbook.Sink.Delivery
import Logbook.Sink.Open
import Logbook.Text.Quoted

/-!
# Loggers

A logger finishes entries with its chain and brings them to its sink.  Loggers derived from one root share the sink
and the counters.  `Logger.emit` never fails: what goes wrong is counted and reported on the error stream.
-/

namespace Logbook

structure Logger where
  chain : Chain
  sink : Sink
  /-- The number of the counters of the root. -/
  counters : Nat

/-- An error as an application reports it: its message and those of its causes. -/
structure ErrorChain where
  message : String
  causes : List String

namespace ErrorChain

def value (e : ErrorChain) : Value := .ofErrorChain e.message e.causes

end ErrorChain

namespace Logger

variable {σ : Type}

def name (l : Logger) : String := l.chain.name

def topic (l : Logger) : String := l.chain.topic

def scope (l : Logger) : String := l.chain.scope

/-- The logger as a sink for other loggers. -/
def asSink (l : Logger) : Sink := .through l.chain l.sink

/-- A logger of one node over a sink. -/
def root (s : Suppliers σ) (h : Host) (name : String) (sink : Sink) (record : Record)
    (rules : List Redaction.Rule) : StateM (World σ) Logger := do
  let chain ← World.ask (Chain.root s h name record rules)
  let counters ← World.update Store.addCounters
  pure ⟨chain, sink, counters⟩

/-- The same logger with another chain. -/
def withChain (l : Logger) (chain : Chain) : Logger := { l with chain }

/-- Whether an entry of the level would be written somewhere. -/
def isEnabled (l : Logger) (st : Store) (level : Level) : Bool :=
  l.sink.accepts st level l.topic l.scope

/-- What an entry holds before the chain: time, level, message, and the error if there is one. -/
def entry (now : Instant) (level : Level) (message : String) (error : Option ErrorChain) : Record :=
  let r := (Record.empty.set Record.timeKey (.time now)).set Record.levelKey (.level level)
  match error with
  | none => r.set Record.messageKey (.text message)
  | some e =>
    (r.set Record.messageKey (.text (message ++ ": " ++ e.message))).set Record.errorKey e.value

/-- What the error stream shows of an outcome. -/
def report (l : Logger) (st : Store) : Outcome → Option String
  | .ok () => none
  | .error (.error .unrouted) => none
  | .error (.error e) => some ("[LOGGER ERROR] Logger '" ++ l.name ++ "' failed to write: " ++ e.message)
  | .error (.panic message) =>
    some ("[LOGGER CRITICAL] Sink '" ++ l.sink.name st ++ "' panicked: " ++ message.getD "Unknown panic"
      ++ ". Logging continues.")

/-- How an outcome is counted. -/
def tally : Outcome → Counters → Counters
  | .ok () => Counters.countLogged
  | .error (.error .unrouted) => Counters.countFiltered
  | .error _ => Counters.countDropped

/-- Count an outcome and report it. -/
def settle (l : Logger) (outcome : Outcome) (st : Store) : Store :=
  let st := match l.report st outcome with
    | none => st
    | some line => st.print .error (line ++ "\n")
  st.count l.counters (tally outcome)

/-- Log an entry.  The message is asked for only if the entry passes the filter. -/
def emit {m : Type → Type} [Monad m] [Attempts m σ] (s : Sources m) (l : Logger) (now : Instant) (level : Level)
    (message : StateM σ String) (error : Option ErrorChain) : StateM (World σ) Unit := do
  if ← World.view (l.isEnabled · level) then
    let text ← World.ask message
    let outcome ← l.asSink.write s (entry now level text error)
    World.update fun st => ((), l.settle outcome st)
  else World.update fun st => ((), st.count l.counters Counters.countFiltered)

/-- The logger for people who look for faults. -/
def inspect (l : Logger) (st : Store) : String :=
  "Logger \x7b name: " ++ Text.quote l.name ++ ", topic: " ++ Text.quote l.topic ++ ", scope: "
    ++ Text.quote l.scope ++ ", sink: " ++ Text.quote (l.sink.name st) ++ " \x7d"

/-! ## Loggers from settings -/

/-- A logger over the destinations of some settings. -/
def ofSettings (s : Suppliers σ) (h : Host) (name : String) (settings : Settings) :
    StateM (World σ) (Except Error Logger) := do
  match ← World.update settings.openSink with
  | .error e => pure (.error e)
  | .ok sink =>
    let l ← root s h name sink .empty []
    pure (.ok l)

/-- Settings from named texts; if they are invalid this is reported and they are the default ones. -/
def settingsOf (lookup : String → Option String) : StateM (World σ) Settings :=
  match Settings.ofLookup lookup with
  | .ok settings => pure settings
  | .error e =>
    World.update fun st =>
      (.default, st.print .error ("[LOGGER ERROR] Invalid logging environment: " ++ e.message ++ "\n"))

/-- A logger as named texts set it.  Where this is impossible it is reported, and the logger writes to the standard
output. -/
def ofLookup (s : Suppliers σ) (h : Host) (name : String) (lookup : String → Option String) :
    StateM (World σ) Logger := do
  let settings ← settingsOf lookup
  let sink ← World.update fun st =>
    match settings.openSink st with
    | (.ok sink, st) => (sink, st)
    | (.error e, st) =>
      let st := st.print .error ("[LOGGER ERROR] Cannot open log destination: " ++ e.message ++ "\n")
      st.addSink (.console .output settings.level Layout.Kind.bunyan.layout)
  root s h name sink .empty []

end Logger

/-- A place that may hold a logger, to be handed from one part of a program to the next. -/
abbrev Context := Option Logger

def Context.logger (c : Context) : Except Error Logger := c.elim (.error .missingLogger) .ok

end Logbook
