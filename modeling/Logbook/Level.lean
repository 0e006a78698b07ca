import Logbook.Text.Blank
import Logbook.Text.Case

/-!
# Levels

The levels of entries and of filters, from `never` up to `always`.  Their numbers (`Level.number`) increase
in that order.  As the level of an entry, `never` and `unset` are written by no filter; as a filter, `unset`
and `always` let every other entry through and `never` lets none (`Level.passes`).
-/

namespace Logbook

inductive Level where
  | never | unset | trace | debug | info | warn | error | fatal | always
deriving DecidableEq, Inhabited

namespace Level

def name : Level → String
  | never => "NEVER"
  | unset => "UNSET"
  | trace => "TRACE"
  | debug => "DEBUG"
  | info => "INFO"
  | warn => "WARN"
  | error => "ERROR"
  | fatal => "FATAL"
  | always => "ALWAYS"

/-- The number of a level in output. -/
def number : Level → Int
  | never => -1
  | unset => 0
  | trace => 10
  | debug => 20
  | info => 30
  | warn => 40
  | error => 50
  | fatal => 60
  | always => 70

/-- All levels, lowest first. -/
def all : List Level := [never, unset, trace, debug, info, warn, error, fatal, always]

instance : LT Level := ⟨fun a b => a.number < b.number⟩

instance : LE Level := ⟨fun a b => a.number ≤ b.number⟩

instance (a b : Level) : Decidable (a < b) := inferInstanceAs (Decidable (a.number < b.number))

instance (a b : Level) : Decidable (a ≤ b) := inferInstanceAs (Decidable (a.number ≤ b.number))

instance : Min Level := ⟨fun a b => if a ≤ b then a else b⟩

/-- The level of that exact name; `warning` is another name of `warn`, a name of no level means `never`. -/
def ofExactName (name : String) : Level :=
  match name with
  | "UNSET" => unset
  | "TRACE" => trace
  | "DEBUG" => debug
  | "INFO" => info
  | "WARN" | "WARNING" => warn
  | "ERROR" => error
  | "FATAL" => fatal
  | "ALWAYS" => always
  | _ => never

/-- The level of a name in any case, blanks around it. -/
def ofName (name : String) : Level := ofExactName (Text.upper (Text.trim name))

/-- The level that takes in a number: each level reaches from just above the one below it up to its own. -/
def ofNumber (n : Int) : Level :=
  if n < 0 then never
  else if n = 0 then unset
  else if n ≤ 10 then trace
  else if n ≤ 20 then debug
  else if n ≤ 30 then info
  else if n ≤ 40 then warn
  else if n ≤ 50 then error
  else if n ≤ 60 then fatal
  else always

/-- Whether an entry of this level gets through the filter. -/
def passes (entry filter : Level) : Bool :=
  match entry with
  | never | unset => false
  | _ =>
    match filter with
    | always | unset => true
    | never => false
    | _ => decide (filter ≤ entry)

/-- One level up, as far as `always`. -/
def next : Level → Level
  | never => unset
  | unset => trace
  | trace => debug
  | debug => info
  | info => warn
  | warn => error
  | error => fatal
  | fatal => always
  | always => always

/-- One level down, as far as `never`. -/
def previous : Level → Level
  | never => never
  | unset => never
  | trace => unset
  | debug => trace
  | info => debug
  | warn => info
  | error => warn
  | fatal => error
  | always => fatal

/-- A level is found by its number. -/
@[simp] theorem ofNumber_number (l : Level) : ofNumber l.number = l := by cases l <;> rfl

/-- A level is found by its name. -/
@[simp] theorem ofName_name (l : Level) : ofName l.name = l := by cases l <;> decide

/-- No two levels have the same number. -/
theorem number_injective {a b : Level} (h : a.number = b.number) : a = b := by
  rw [← ofNumber_number a, h, ofNumber_number]

end Level

end Logbook
