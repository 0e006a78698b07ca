import Logbook.Text.Blank

/-!
# Durations

A duration is written as numbers with units: `1h 30m`, `250ms`, `1.5 days`.  `Duration.parse` reads it; blanks
may stand between numbers and units, and several parts add up.  A number may have a fraction as long as the part
comes to whole nanoseconds (to whole seconds, for units above the minute).  `Duration.render` writes a duration in
the largest units first.

Words of 64 bits hold seconds and the single parts, so too large a number is a fault.
-/

namespace Logbook

/-- A span of time in nanoseconds. -/
structure Duration where
  nanoseconds : Nat
deriving DecidableEq, Inhabited

namespace Duration

def ofSeconds (n : Nat) : Duration := ⟨n * 1_000_000_000⟩

def ofMilliseconds (n : Nat) : Duration := ⟨n * 1_000_000⟩

def isZero (d : Duration) : Bool := d.nanoseconds = 0

/-- Whole seconds. -/
def seconds (d : Duration) : Nat := d.nanoseconds / 1_000_000_000

/-- The nanoseconds beyond whole seconds. -/
def subsecond (d : Duration) : Nat := d.nanoseconds % 1_000_000_000

/-- Numbers are below this. -/
def wordLimit : Nat := 0x10000000000000000

/-! ## Units -/

inductive Unit where
  | nanosecond | microsecond | millisecond | second | minute | hour | day | week | month | year
deriving DecidableEq

namespace Unit

/-- A month is the twelfth part of a year of 365 days and a quarter, about. -/
def length : Unit → Nat
  | nanosecond => 1
  | microsecond => 1_000
  | millisecond => 1_000_000
  | second => 1_000_000_000
  | minute => 60 * 1_000_000_000
  | hour => 3600 * 1_000_000_000
  | day => 86400 * 1_000_000_000
  | week => 604800 * 1_000_000_000
  | month => 2630016 * 1_000_000_000
  | year => 31557600 * 1_000_000_000

/-- Whole numbers of a unit are counted in nanoseconds below the second, else in seconds. -/
def grain : Unit → Nat
  | nanosecond | microsecond | millisecond => 1
  | _ => 1_000_000_000

/-- Fractions of a unit are counted in nanoseconds up to the minute, else in seconds. -/
def fractionGrain : Unit → Nat
  | nanosecond | microsecond | millisecond | second | minute => 1
  | _ => 1_000_000_000

def named? : String → Option Unit
  | "nanos" | "nsec" | "ns" => some nanosecond
  | "usec" | "us" | "µs" => some microsecond
  | "millis" | "msec" | "ms" => some millisecond
  | "seconds" | "second" | "secs" | "sec" | "s" => some second
  | "minutes" | "minute" | "min" | "mins" | "m" => some minute
  | "hours" | "hour" | "hr" | "hrs" | "h" => some hour
  | "days" | "day" | "d" => some day
  | "weeks" | "week" | "wk" | "wks" | "w" => some week
  | "months" | "month" | "M" => some month
  | "years" | "year" | "yr" | "yrs" | "y" => some year
  | _ => none

end Unit

/-! ## Reading -/

/-- Why a text is no duration.  Places count the bytes before them. -/
inductive Fault where
  | invalidCharacter (place : Nat)
  | numberExpected (place : Nat)
  | unknownUnit (unit : String) (value : Nat)
  | overflow
  | empty
deriving DecidableEq

def Fault.message : Fault → String
  | invalidCharacter place => "invalid character at " ++ toString place
  | numberExpected place => "expected number at " ++ toString place
  | unknownUnit unit value =>
    if unit = "" then
      "time unit needed, for example " ++ toString value ++ "sec or " ++ toString value ++ "ms"
    else
      "unknown time unit \"" ++ unit ++ "\", supported units: ns, us/µs, ms, sec, min, hours, days, weeks, "
        ++ "months, years (and few variations)"
  | overflow =>
    "number is too large or cannot be represented without a lack of precision (values below 1ns are not "
      ++ "supported)"
  | empty => "value was empty"

/-- What is left of a text, and how many bytes stand before it. -/
structure Cursor where
  place : Nat
  rest : List Char

def digit (c : Char) : Nat := c.toNat - 48

/-- The characters of units. -/
def isUnitLetter (c : Char) : Bool := c.isAlpha || c = 'µ'

/-- A fraction in decimal digits: `numerator / denominator`. -/
structure Fraction where
  numerator : Nat
  denominator : Nat

/-- The first digit of a number; nothing if only blanks are left. -/
def firstDigit (place : Nat) : List Char → Except Fault (Option (Nat × Cursor))
  | [] => .ok none
  | c :: cs =>
    if c.isDigit then .ok (some (digit c, ⟨place + 1, cs⟩))
    else if Text.isBlank c then firstDigit (place + c.utf8Size) cs
    else .error (.numberExpected place)

/-- More digits of a whole number, up to a point or a unit; blanks in between do not count. -/
def readWhole (n place : Nat) : List Char → Except Fault (Nat × Cursor)
  | [] => .ok (n, ⟨place, []⟩)
  | c :: cs =>
    if c.isDigit then
      let m := n * 10 + digit c
      if wordLimit ≤ m then .error .overflow else readWhole m (place + 1) cs
    else if Text.isBlank c then readWhole n (place + c.utf8Size) cs
    else if isUnitLetter c || c = '.' then .ok (n, ⟨place, c :: cs⟩)
    else .error (.invalidCharacter place)

/-- The end of a fraction, which has to have a digit. -/
def endFraction (f : Fraction) (mark : Nat) (c : Cursor) : Except Fault (Fraction × Cursor) :=
  if f.denominator = 1 then .error (.invalidCharacter mark) else .ok (f, c)

/-- More digits of a fraction, up to a unit; blanks in between do not count.  A fault is reported at `mark`, the
place behind the last character that was read, or that of the point. -/
def readFraction (f : Fraction) (mark place : Nat) : List Char → Except Fault (Fraction × Cursor)
  | [] => endFraction f mark ⟨place, []⟩
  | c :: cs =>
    if c.isDigit then
      let g : Fraction := ⟨f.numerator * 10 + digit c, f.denominator * 10⟩
      if wordLimit ≤ g.denominator ∨ wordLimit ≤ g.numerator then .error .overflow
      else readFraction g (place + 1) (place + 1) cs
    else if Text.isBlank c then readFraction f (place + c.utf8Size) (place + c.utf8Size) cs
    else if isUnitLetter c then endFraction f mark ⟨place, c :: cs⟩
    else .error (.invalidCharacter mark)

/-- A whole number from its first digit on, and a fraction if there is one. -/
def readNumber (n : Nat) (c : Cursor) : Except Fault (Nat × Option Fraction × Cursor) := do
  let (n, c) ← readWhole n c.place c.rest
  match c.rest with
  | '.' :: rest =>
    let (f, c) ← readFraction ⟨0, 1⟩ c.place (c.place + 1) rest
    .ok (n, some f, c)
  | _ => .ok (n, none, c)

/-- The letters of a unit, up to a blank or a digit. -/
def readUnit (acc : List Char) (place : Nat) : List Char → Except Fault (String × Cursor)
  | [] => .ok (String.ofList acc.reverse, ⟨place, []⟩)
  | c :: cs =>
    if c.isDigit || Text.isBlank c then .ok (String.ofList acc.reverse, ⟨place, c :: cs⟩)
    else if isUnitLetter c then readUnit (c :: acc) (place + c.utf8Size) cs
    else .error (.invalidCharacter place)

/-- `n` times a length that is a multiple of the grain; what is counted in grains has to fit a word. -/
def times (n length grain : Nat) : Except Fault Nat :=
  if wordLimit ≤ n * (length / grain) then .error .overflow else .ok (n * length)

/-- The nanoseconds of a fraction of a unit. -/
def ofFraction (u : Unit) (f : Fraction) : Except Fault Nat :=
  let grains := f.numerator * (u.length / u.fractionGrain)
  if u = .nanosecond ∨ wordLimit ≤ grains ∨ grains % f.denominator ≠ 0 then .error .overflow
  else .ok (grains / f.denominator * u.fractionGrain)

/-- A longer duration; its seconds have to fit a word. -/
def plus (d : Duration) (nanoseconds : Nat) : Except Fault Duration :=
  let sum := d.nanoseconds + nanoseconds
  if wordLimit * 1_000_000_000 ≤ sum then .error .overflow else .ok ⟨sum⟩

/-- Add a number of units. -/
def add (d : Duration) (n : Nat) (f : Option Fraction) (unit : String) : Except Fault Duration :=
  match Unit.named? unit with
  | none => .error (.unknownUnit unit n)
  | some u => do
    let whole ← times n u.length u.grain
    let d ← d.plus whole
    match f with
    | none => .ok d
    | some f =>
      let part ← ofFraction u f
      d.plus part

/-- The parts from a first digit on, added up; the fuel bounds their number. -/
def readParts : Nat → Duration → Nat → Cursor → Except Fault Duration
  | 0, _, _, _ => .error .empty
  | fuel + 1, d, n, c => do
    let (n, f, c) ← readNumber n c
    let (unit, c) ← readUnit [] c.place c.rest
    let d ← d.add n f unit
    match ← firstDigit c.place c.rest with
    | none => .ok d
    | some (n, c) => readParts fuel d n c

def parse (text : String) : Except Fault Duration := do
  let cs := text.toList
  match ← firstDigit 0 cs with
  | none => .error .empty
  | some (n, c) => readParts (cs.length + 1) ⟨0⟩ n c

/-! ## Writing -/

/-- A count with its unit; long names have a plural.  Counts of zero are left out. -/
def renderPart (count : Nat) (unit : String) (plural : Bool) : List String :=
  if count = 0 then [] else [toString count ++ unit ++ (if plural && 1 < count then "s" else "")]

/-- The parts of a duration, largest units first. -/
def renderParts (d : Duration) : List String :=
  let s := d.seconds
  let ofYear := s % 31557600
  let ofMonth := ofYear % 2630016
  let ofDay := ofMonth % 86400
  let n := d.subsecond
  renderPart (s / 31557600) "year" true ++ renderPart (ofYear / 2630016) "month" true
    ++ renderPart (ofMonth / 86400) "day" true ++ renderPart (ofDay / 3600) "h" false
    ++ renderPart (ofDay % 3600 / 60) "m" false ++ renderPart (ofDay % 60) "s" false
    ++ renderPart (n / 1000000) "ms" false ++ renderPart (n / 1000 % 1000) "us" false
    ++ renderPart (n % 1000) "ns" false

def render (d : Duration) : String := if d.isZero then "0s" else " ".intercalate d.renderParts

end Duration

end Logbook
