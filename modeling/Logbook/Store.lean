import Logbook.Counters
import Logbook.Output
import Logbook.Output.Disk
import Logbook.Value.Json

/-!
# The store of outputs

All that loggers change lives in a `Store`: the outputs by number, the files, what went to the standard streams, and
the counters of each logger.  A `World` is a store together with the hidden state of the application's values.
-/

namespace Logbook

structure Store where
  outputs : List Output
  disk : Disk
  /-- What was written to the standard streams, oldest first. -/
  standardOutput : List String
  standardError : List String
  counters : List Counters

structure World (σ : Type) where
  hidden : σ
  store : Store

namespace Store

def empty : Store := ⟨[], .empty, [], [], []⟩

instance : Inhabited Store := ⟨empty⟩

def output? (s : Store) (id : Nat) : Option Output := s.outputs[id]?

/-- Change an output. -/
def modify (s : Store) (id : Nat) (f : Output → Output) : Store := { s with outputs := s.outputs.modify id f }

/-- Add an output; its number. -/
def add (s : Store) (o : Output) : Nat × Store := (s.outputs.length, { s with outputs := s.outputs ++ [o] })

/-- Add counters; their number. -/
def addCounters (s : Store) : Nat × Store :=
  (s.counters.length, { s with counters := s.counters ++ [.zero] })

def count (s : Store) (id : Nat) (f : Counters → Counters) : Store :=
  { s with counters := s.counters.modify id f }

def countersOf (s : Store) (id : Nat) : Counters := s.counters.getD id .zero

/-- Write a text to a standard stream. -/
def print (s : Store) (stream : Stream) (text : String) : Store :=
  match stream with
  | .output => { s with standardOutput := s.standardOutput ++ [text] }
  | .error => { s with standardError := s.standardError ++ [text] }

/-- Give an output another medium. -/
def setMedium (s : Store) (id : Nat) (m : Medium) : Store := s.modify id fun o => { o with medium := m }

/-- Append to a file what its buffer passed on, and keep the buffer. -/
def passOn (s : Store) (id : Nat) (f : LogFile) (out : String) (b : Buffer) : Store :=
  { s with disk := s.disk.append f.file out }.setMedium id (.file { f with buffer := some b })

/-- Write a line to an output that takes lines. -/
def writeLine (s : Store) (id : Nat) (o : Output) (line : String) : Outcome × Store :=
  match o.medium with
  | .stream stream => (.ok (), s.print stream line)
  | .writer lines none => (.ok (), s.setMedium id (.writer (lines ++ [line]) none))
  | .writer _ (some fault) => (.error (.error (.io fault)), s)
  | .file f =>
    match f.buffer with
    | none => (.error (.error (.closed o.name)), s)
    | some b =>
      let (out, b) := b.write line
      (.ok (), s.passOn id f out b)
  | .memory _ => (.ok (), s)
  | .foreign _ => (.ok (), s)

/-- Flush the buffer of an open file. -/
def flushFile (s : Store) (id : Nat) (f : LogFile) : Store :=
  match f.buffer with
  | none => s
  | some b =>
    let (out, b) := b.flush
    s.passOn id f out b

/-- Flush an output. -/
def flush (s : Store) (id : Nat) : Except Error Unit × Store :=
  match s.output? id with
  | none => (.ok (), s)
  | some o =>
    match o.medium with
    | .writer _ (some fault) => (.error (.io ("flush: " ++ fault)), s)
    | .file f => (.ok (), s.flushFile id f)
    | .foreign f => (f.flushError.elim (.ok ()) .error, s)
    | _ => (.ok (), s)

/-- Flush a file and let go of it. -/
def closeFile (s : Store) (id : Nat) (f : LogFile) : Store :=
  (s.flushFile id f).setMedium id (.file { f with buffer := none, flushEvery := none })

/-- Close an output; all but files are only flushed. -/
def close (s : Store) (id : Nat) : Except Error Unit × Store :=
  match s.output? id with
  | some ⟨_, _, _, .file f⟩ => (.ok (), s.closeFile id f)
  | _ => s.flush id

/-- Close the file of an output that is no longer used. -/
def release (s : Store) (id : Nat) : Store :=
  match s.output? id with
  | some ⟨_, _, _, .file f⟩ => s.closeFile id f
  | _ => s

/-- Flush the buffer of an output if so much time is as much as it waits. -/
def tick (s : Store) (time : Duration) (id : Nat) : Store :=
  match s.output? id with
  | some ⟨_, _, _, .file f⟩ =>
    if f.flushEvery.any fun d => decide (d.nanoseconds ≤ time.nanoseconds) then s.flushFile id f else s
  | _ => s

/-- The buffers that are flushed when so much time has passed. -/
def elapse (s : Store) (time : Duration) : Store :=
  (List.range s.outputs.length).foldl (fun s id => s.tick time id) s

/-! ## Interface lemmas -/

/-- The output that is changed is there with the change. -/
@[simp] theorem output?_modify (s : Store) (id : Nat) (f : Output → Output) :
    (s.modify id f).output? id = (s.output? id).map f := by
  simp [modify, output?]

/-- An output that is given another medium keeps the rest. -/
@[simp] theorem output?_setMedium (s : Store) (id : Nat) (m : Medium) :
    (s.setMedium id m).output? id = (s.output? id).map fun o => { o with medium := m } :=
  output?_modify s id _

/-- Counting changes no output. -/
@[simp] theorem output?_count (s : Store) (id k : Nat) (f : Counters → Counters) :
    (s.count k f).output? id = s.output? id := rfl

/-- The counters that are counted on are there with the count. -/
theorem countersOf_count {s : Store} {id : Nat} (f : Counters → Counters) (h : id < s.counters.length) :
    (s.count id f).countersOf id = f (s.countersOf id) := by
  simp [count, countersOf, h]

end Store

namespace World

variable {σ : Type}

/-- Ask for values. -/
def ask {α : Type} (m : StateM σ α) : StateM (World σ) α := fun w =>
  let (a, hidden) := m w.hidden
  (a, { w with hidden })

/-- Change the store. -/
def update {α : Type} (f : Store → α × Store) : StateM (World σ) α := fun w =>
  let (a, store) := f w.store
  (a, { w with store })

/-- Look at the store. -/
def view {α : Type} (f : Store → α) : StateM (World σ) α := fun w => (f w.store, w)

end World

/-- What changes a hidden state `σ` and gives a value, or breaks down with a message or without. -/
class Attempts (m : Type → Type) (σ : outParam Type) where
  attempt {α : Type} : m α → StateM σ (Except (Option String) α)

instance (σ : Type) : Attempts (StateM σ) σ := ⟨fun x hidden => let (a, hidden) := x hidden; (.ok a, hidden)⟩

instance (σ : Type) : Attempts (Brittle σ) σ := ⟨ExceptT.run⟩

/-- Ask for what a write needs.  If the application breaks down, so does the write. -/
def World.askOr {m : Type → Type} {σ : Type} [Attempts m σ] {α : Type} (x : m α)
    (go : α → StateM (World σ) Outcome) : StateM (World σ) Outcome := do
  match ← World.ask (Attempts.attempt x) with
  | .ok a => go a
  | .error message => pure (.error (.panic message))

/-- What always gives a value is asked for, and the write goes on. -/
theorem World.askOr_eq_bind {σ α : Type} (x : StateM σ α) (go : α → StateM (World σ) Outcome) :
    World.askOr x go = World.ask x >>= go := rfl

/-- A record as one line: laid out, in JSON, ended by a line feed. -/
def Layout.encodeLine {m : Type → Type} [Monad m] (s : Sources m) (l : Layout) (r : Record) : m String := do
  let text ← (l.arrange r).encodeText s
  pure (text ++ "\n")

/-- Write a record to an output. -/
def Output.write {m : Type → Type} {σ : Type} [Monad m] [Attempts m σ] (s : Sources m) (id : Nat) (r : Record) :
    StateM (World σ) Outcome := do
  match ← World.view (·.output? id) with
  | none => pure (.ok ())
  | some o =>
    match o.medium with
    | .memory records => World.update fun st => (.ok (), st.setMedium id (.memory (records ++ [o.layout.arrange r])))
    | .foreign f =>
      World.update fun st => (f.respond f.writes r, st.setMedium id (.foreign { f with writes := f.writes + 1 }))
    | _ => World.askOr (o.layout.encodeLine s r) fun line => World.update fun st => st.writeLine id o line

end Logbook
