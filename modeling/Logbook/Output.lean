import Logbook.Chain
import Logbook.Duration
import Logbook.Filter
import Logbook.Layout
import Logbook.Output.Buffer
import Logbook.Text.Quoted

/-!
# Outputs

An output is where records end up: memory, a standard stream, a writer of the application, a file, or something that
the application has made altogether by itself.  It has a filter of its own and a layout.
-/

namespace Logbook

/-- Why a record was not written. -/
inductive Failure where
  | error (e : Error)
  /-- The output broke down, with a message or without. -/
  | panic (message : Option String)

/-- What becomes of a write. -/
abbrev Outcome := Except Failure Unit

inductive Stream where
  | output | error
deriving DecidableEq

/-- A file that is open, or was. -/
structure LogFile where
  /-- The path it was opened by. -/
  path : String
  /-- The file the path led to. -/
  file : String
  /-- What has not reached the file yet; a closed file has no buffer. -/
  buffer : Option Buffer
  /-- How often the buffer is flushed without being asked, if at all. -/
  flushEvery : Option Duration

/-- The file for people who look for faults. -/
def LogFile.inspect (f : LogFile) : String :=
  "FileSink \x7b name: " ++ Text.quote f.path ++ ", path: " ++ Text.quote f.path ++ ", .. \x7d"

/-- An output of the application's own. -/
structure Foreign where
  /-- How often it was written to. -/
  writes : Nat
  /-- What becomes of each write. -/
  respond : Nat → Record → Outcome
  flushError : Option Error

inductive Medium where
  /-- The records written, oldest first, after their layout. -/
  | memory (records : List Record)
  | stream (s : Stream)
  /-- The lines that a writer of the application took, oldest first, or the fault it always has. -/
  | writer (lines : List String) (fault : Option String)
  | file (f : LogFile)
  | foreign (f : Foreign)

structure Output where
  name : String
  /-- Nothing if the output has no filter of its own. -/
  filter : Option Filter
  layout : Layout
  medium : Medium

namespace Output

/-- What the output asks of entries. -/
def filterLevel (o : Output) (topic scope : String) : Level :=
  o.filter.elim .unset fun f => f.level topic scope

def accepts (o : Output) (level : Level) (topic scope : String) : Bool :=
  level.passes (o.filterLevel topic scope)

def setLevel (o : Output) (level : Level) (topic scope : String) : Output :=
  { o with filter := o.filter.map fun f => f.set level topic scope }

def setDefault (o : Output) (level : Level) : Output := o.setLevel level Target.any Target.any

/-- Let one level less through, as far as only fatal entries; an output that is silent or lets everything through
unconditionally stays as it is. -/
def filterMore (o : Output) : Output :=
  let l := o.filterLevel Target.any Target.any
  if .unset ≤ l ∧ l < .fatal then o.setDefault l.next else o

/-- Let one level more through, as far as all entries from trace on. -/
def filterLess (o : Output) : Output :=
  let l := o.filterLevel Target.any Target.any
  if .trace < l then o.setDefault l.previous else o

/-- The records that memory holds. -/
def records? (o : Output) : Option (List Record) :=
  match o.medium with
  | .memory records => some records
  | _ => none

/-- Forget the records in memory. -/
def clear (o : Output) : Output :=
  match o.medium with
  | .memory _ => { o with medium := .memory [] }
  | _ => o

/-! ## New outputs -/

/-- Records are kept; without a filter every level is. -/
def memory (filter : Filter) (layout : Layout) : Output := ⟨"memory", some filter, layout, .memory []⟩

def streamName : Stream → String
  | .output => "stdout"
  | .error => "stderr"

def console (s : Stream) (filter : Filter) (layout : Layout) : Output :=
  ⟨streamName s, some filter, layout, .stream s⟩

def writer (name : String) (fault : Option String) (filter : Filter) (layout : Layout) : Output :=
  ⟨name, some filter, layout, .writer [] fault⟩

def file (path name : String) (filter : Filter) (layout : Layout) (flushEvery : Option Duration) : Output :=
  ⟨path, some filter, layout, .file ⟨path, name, some .empty, flushEvery⟩⟩

/-- The filter of outputs that were given none. -/
def defaultFilter : Filter := .uniform .info

end Output

end Logbook
