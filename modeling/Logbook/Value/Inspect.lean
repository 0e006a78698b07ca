import Logbook.Decimal.Shortest
import Logbook.Record
import Logbook.Text.Quoted
import Logbook.Time.Stamp

/-!
# Values for inspection

`Value.inspect` writes a value with its kind, for people who look for faults: texts are quoted, and supplied
values are not asked.
-/

namespace Logbook.Value

/-- Floats are written with a point from 0.0001 to below 10 ^ 16, else with an exponent. -/
def inspectStyle : Decimal.Style := ⟨-4, 16, false⟩

def inspectFloat (x : Binary64) : String :=
  if x.isFinite then String.ofList (Decimal.write inspectStyle x) else Decimal.nonFiniteWord x

def inspectTime (t : Instant) : String := String.ofList (Stamp.write .asNeeded Stamp.letterZone t)

/-- The name of a level in inspected values. -/
def inspectLevel : Level → String
  | .never => "Never"
  | .unset => "Unset"
  | .trace => "Trace"
  | .debug => "Debug"
  | .info => "Info"
  | .warn => "Warn"
  | .error => "Error"
  | .fatal => "Fatal"
  | .always => "Always"

mutual

def inspect : Value → String
  | null => "Null"
  | bool b => "Bool(" ++ (if b then "true" else "false") ++ ")"
  | int i => "Int(" ++ toString i.toInt ++ ")"
  | uint n => "UInt(" ++ toString n.toNat ++ ")"
  | float x => "Float(" ++ inspectFloat x ++ ")"
  | text s => "String(" ++ Text.quote s ++ ")"
  | time t => "Time(" ++ inspectTime t ++ ")"
  | level l => "Level(" ++ inspectLevel l ++ ")"
  | array items => "Array([" ++ ", ".intercalate (inspectItems items) ++ "])"
  | record fields =>
    "Record(Record \x7b fields: \x7b" ++ ", ".intercalate (inspectFields fields) ++ "\x7d \x7d)"
  | deferred _ => "LazyValue(..)"
  | guarded _ => "Redactable(..)"

def inspectItems : List Value → List String
  | [] => []
  | v :: rest => inspect v :: inspectItems rest

def inspectFields : {b : Option String} → Fields Value b → List String
  | _, .nil => []
  | _, .cons key v _ rest => (Text.quote key ++ ": " ++ inspect v) :: inspectFields rest

end

end Logbook.Value
