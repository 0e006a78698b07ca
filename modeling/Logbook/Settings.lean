import Logbook.Duration
import Logbook.Error
import Logbook.Filter.Pattern
import Logbook.Layout

/-!
# Settings

What a program can set about its logging from outside: the filter, the destinations, the layout, and how often
files are flushed.  `Settings.ofLookup` takes them from named texts such as environment variables; blank texts do
not count.
-/

namespace Logbook

structure Settings where
  level : Filter
  destinations : List String
  layout : Layout.Kind
  flushEvery : Duration

namespace Settings

/-- The names of destinations that are no files. -/
def standardOutput : String := "stdout"
def standardError : String := "stderr"
def nowhere : String := "nil"

def default : Settings := ⟨.uniform .info, [standardOutput], .bunyan, .ofSeconds 5⟩

instance : Inhabited Settings := ⟨default⟩

instance : BEq Settings := ⟨fun a b =>
  a.level == b.level && a.destinations == b.destinations && decide (a.layout = b.layout)
    && decide (a.flushEvery = b.flushEvery)⟩

def levelName : String := "LOG_LEVEL"
def destinationName : String := "LOG_DESTINATION"
def layoutName : String := "LOG_CONVERTER"
def flushName : String := "LOG_FLUSHFREQUENCY"
def traceName : String := "TRACE"
def debugName : String := "DEBUG"

/-- All names that are looked up. -/
def names : List String := [levelName, destinationName, layoutName, flushName, traceName, debugName]

/-- The words that switch something on. -/
def isOn (text : String) : Bool :=
  ["1", "true", "yes", "on"].contains (Text.lower (Text.trim text))

/-- The destinations in a list with commas; empty ones do not count. -/
def destinationsOf (text : String) : List String :=
  (((Text.split ',' text.toList).map Text.trimList).filter fun d => !d.isEmpty).map String.ofList

/-- A text that is not blank. -/
def given (lookup : String → Option String) (name : String) : Option String :=
  (lookup name).filter fun text => !Text.isBlankList text.toList

/-- The filter: a pattern, or else one of two switches for more entries. -/
def levelOf (lookup : String → Option String) : Filter :=
  match given lookup levelName with
  | some pattern => .parse pattern
  | none =>
    if (given lookup traceName).any isOn then .uniform .trace
    else if (given lookup debugName).any isOn then .uniform .debug
    else default.level

/-- The settings that some texts make; what no text sets is as by default. -/
def ofLookup (lookup : String → Option String) : Except Error Settings := do
  let destinations := (given lookup destinationName).elim default.destinations destinationsOf
  let layout ← match given lookup layoutName with
    | some name => Layout.Kind.ofName name
    | none => .ok default.layout
  let flushEvery ← match given lookup flushName with
    | some text =>
      match Duration.parse (Text.trim text) with
      | .ok d => .ok d
      | .error fault => .error (.configuration flushName fault.message)
    | none => .ok default.flushEvery
  .ok ⟨levelOf lookup, destinations, layout, flushEvery⟩

end Settings

end Logbook
