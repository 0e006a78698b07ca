import Logbook.Store

/-!
# Sinks

A sink is a tree over outputs: one output, nowhere, a fan of sinks that each get every record they accept, or the
chain of a logger in front of another sink.  The same output may occur in several places; `Sink.outputs` lists the
occurrences from left to right.
-/

namespace Logbook

inductive Sink where
  | output (id : Nat)
  | nowhere
  | fan (branches : List Sink)
  | through (chain : Chain) (next : Sink)

namespace Sink

instance : Inhabited Sink := ⟨nowhere⟩

mutual

/-- The occurrences of outputs, from left to right. -/
def outputs : Sink → List Nat
  | output id => [id]
  | nowhere => []
  | fan branches => outputsOf branches
  | through _ next => next.outputs

def outputsOf : List Sink → List Nat
  | [] => []
  | b :: rest => b.outputs ++ outputsOf rest

end

def name (st : Store) : Sink → String
  | output id => (st.output? id).elim "" (·.name)
  | nowhere => "nil"
  | fan _ => "multi"
  | through chain _ => chain.name

/-- The filter of a sink that has one of its own. -/
def filter? (st : Store) : Sink → Option Filter
  | output id => (st.output? id).bind (·.filter)
  | nowhere => none
  | fan _ => none
  | through _ next => next.filter? st

mutual

/-- Whether an entry would be written somewhere. -/
def accepts (st : Store) (level : Level) (topic scope : String) : Sink → Bool
  | output id => (st.output? id).any fun o => o.accepts level topic scope
  | nowhere => false
  | fan branches => acceptsAny st level topic scope branches
  | through _ next => accepts st level topic scope next

def acceptsAny (st : Store) (level : Level) (topic scope : String) : List Sink → Bool
  | [] => false
  | b :: rest => accepts st level topic scope b || acceptsAny st level topic scope rest

end

/-- The lowest of some levels; `unset` if there is none. -/
def lowest : List Level → Level
  | [] => .unset
  | l :: rest => rest.foldl min l

mutual

/-- What a sink asks of entries; a fan asks the least that a branch asks. -/
def filterLevel (st : Store) (topic scope : String) : Sink → Level
  | output id => (st.output? id).elim .unset fun o => o.filterLevel topic scope
  | nowhere => .unset
  | fan branches => lowest (filterLevels st topic scope branches)
  | through _ next => filterLevel st topic scope next

def filterLevels (st : Store) (topic scope : String) : List Sink → List Level
  | [] => []
  | b :: rest => filterLevel st topic scope b :: filterLevels st topic scope rest

end

/-- Change the output at each occurrence in turn. -/
def modify (s : Sink) (f : Output → Output) (st : Store) : Store :=
  s.outputs.foldl (fun st id => st.modify id f) st

def setLevel (s : Sink) (level : Level) (topic scope : String) : Store → Store :=
  s.modify fun o => o.setLevel level topic scope

/-- Let one level less through. -/
def filterMore (s : Sink) : Store → Store := s.modify Output.filterMore

/-- Let one level more through. -/
def filterLess (s : Sink) : Store → Store := s.modify Output.filterLess

/-- Set the rules of a filter one after another. -/
def setRules (s : Sink) (f : Filter) (st : Store) : Store :=
  f.rules.foldl (fun st r => s.setLevel r.2 r.1.topic r.1.scope st) st

/-! ## Flushing and closing -/

/-- Success, or all errors together. -/
def combine : List Error → Except Error Unit
  | [] => .ok ()
  | errors => .error (.branches errors)

def errorOf : Except Error Unit → List Error
  | .ok () => []
  | .error e => [e]

mutual

/-- Do something with each output; a fan goes through all branches and collects their errors. -/
def each (f : Nat → StateM Store (Except Error Unit)) : Sink → StateM Store (Except Error Unit)
  | output id => f id
  | nowhere => pure (.ok ())
  | fan branches => do
    let errors ← eachOf f branches
    pure (combine errors)
  | through _ next => each f next

def eachOf (f : Nat → StateM Store (Except Error Unit)) : List Sink → StateM Store (List Error)
  | [] => pure []
  | b :: rest => do
    let r ← each f b
    let errors ← eachOf f rest
    pure (errorOf r ++ errors)

end

def flush (s : Sink) : StateM Store (Except Error Unit) := s.each fun id st => st.flush id

def close (s : Sink) : StateM Store (Except Error Unit) := s.each fun id st => st.close id

end Sink

/-- Close the files of all outputs that none of the sinks writes to. -/
def Store.retain (st : Store) (sinks : List Sink) : Store :=
  let held := sinks.flatMap (·.outputs)
  (List.range st.outputs.length).foldl (fun st id => if held.contains id then st else st.release id) st

end Logbook
