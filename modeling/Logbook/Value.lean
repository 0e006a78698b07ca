import Logbook.Fields
import Logbook.Json
import Logbook.Level
import Logbook.Time.Instant

/-!
# Values of fields

A field of an entry holds a scalar, a text, an instant, a level, an array, a record, or one of two kinds of
values that the application supplies on demand.  A *deferred* value is computed each time it is asked for; a
*guarded* value shows only what it gives out itself.  Both are named by the number of their source, so that
values are data and can be compared: two of them are equal when they have the same source.

`Sources` answer for the sources, in a monad that says what else may happen when they are asked.  `Suppliers` always
answer: an answer may depend on a hidden state and change it.  `BrittleSuppliers` may break down instead.  An answer
may itself be deferred or guarded again, without end.  `Value.resolve` therefore asks at most `Value.depthLimit` times
in a row.
-/

namespace Logbook

inductive Value where
  | null
  | bool (b : Bool)
  | int (i : Int64)
  | uint (n : UInt64)
  | float (x : Binary64)
  | text (s : String)
  | time (t : Instant)
  | level (l : Level)
  | array (items : List Value)
  | record (fields : Fields Value none)
  | deferred (source : Nat)
  | guarded (source : Nat)

/-- The fields of an entry, in the order of their keys. -/
abbrev Record := Fields Value none

/-- What the application gives for its deferred and guarded values. -/
structure Sources (m : Type → Type) where
  /-- Compute a deferred value. -/
  compute : Nat → m Value
  /-- What a guarded value gives out of itself. -/
  disclose : Nat → m Value

/-- Sources that always give a value, with a hidden state `σ`. -/
abbrev Suppliers (σ : Type) := Sources (StateM σ)

/-- What changes a hidden state and may break down on the way, with a message or without.  What was done before that
is not undone. -/
abbrev Brittle (σ : Type) := ExceptT (Option String) (StateM σ)

/-- Sources that may break down. -/
abbrev BrittleSuppliers (σ : Type) := Sources (Brittle σ)

namespace Value

instance : Inhabited Value := ⟨null⟩

/-- The limit for asking deferred values and for nesting in output. -/
def depthLimit : Nat := 64

/-- The names of the kinds of values. -/
def kind : Value → String
  | null => "Null"
  | bool _ => "Bool"
  | int _ => "Int"
  | uint _ => "UInt"
  | float _ => "Float"
  | text _ => "String"
  | time _ => "Time"
  | level _ => "Level"
  | array _ => "Array"
  | record _ => "Record"
  | deferred _ => "Lazy"
  | guarded _ => "Redactable"

def isNull : Value → Bool
  | null => true
  | _ => false

def isDeferred : Value → Bool
  | deferred _ => true
  | _ => false

def text? : Value → Option String
  | text s => some s
  | _ => none

def record? : Value → Option Record
  | record r => some r
  | _ => none

/-- The level a value stands for: a level, its number, or its name. -/
def level? : Value → Option Level
  | level l => some l
  | int i => some (.ofNumber i.toInt)
  | uint n => some (.ofNumber n.toNat)
  | text s => some (.ofName s)
  | _ => none

mutual

/-- Equality of values; floats compare as numbers, supplied values by their source. -/
def beq : Value → Value → Bool
  | null, null => true
  | bool a, bool b => a == b
  | int a, int b => a == b
  | uint a, uint b => a == b
  | float a, float b => a.eq b
  | text a, text b => a == b
  | time a, time b => a == b
  | level a, level b => a == b
  | array a, array b => beqItems a b
  | record a, record b => beqFields a b
  | deferred a, deferred b => a == b
  | guarded a, guarded b => a == b
  | _, _ => false

def beqItems : List Value → List Value → Bool
  | [], [] => true
  | a :: as, b :: bs => beq a b && beqItems as bs
  | _, _ => false

def beqFields : {b c : Option String} → Fields Value b → Fields Value c → Bool
  | _, _, .nil, .nil => true
  | _, _, .cons k v _ as, .cons l w _ bs => k == l && beq v w && beqFields as bs
  | _, _, _, _ => false

end

instance : BEq Value := ⟨beq⟩

variable {m : Type → Type} [Monad m]

/-- What stands in for a deferred value that is still deferred when the limit is reached. -/
def tooDeferred : Value := text "<lazy value nested too deeply>"

/-- Compute until the value is not deferred, at most so many times. -/
def resolveWithin (s : Sources m) : Nat → Value → m Value
  | 0, _ => pure tooDeferred
  | n + 1, deferred source => do
    let v ← s.compute source
    resolveWithin s n v
  | _ + 1, v => pure v

/-- Compute until the value is not deferred. -/
def resolve (s : Sources m) (v : Value) : m Value := resolveWithin s depthLimit v

/-- What is not deferred is left as it is. -/
@[simp] theorem resolve_of_not_deferred (s : Sources m) {v : Value} (h : v.isDeferred = false) :
    resolve s v = pure v := by
  cases v <;> first | rfl | simp [isDeferred] at h

end Value

end Logbook
