import Logbook.Text.Blank
import Logbook.Time.Stamp

/-!
# Time formats made of directives

A format is text in which `%` starts a directive, such as `%Y` for the year.  `Directive.parse` takes a format
apart, and `Directive.render?` writes an instant by it.  A format with a directive that does not exist, or that
refuses the padding asked for, cannot be rendered at all.
-/

namespace Logbook

/-- How a number is filled up to its width. -/
inductive Padding where
  | none | zero | space
deriving DecidableEq

/-- The numbers a directive can show. -/
inductive Quantity where
  | year | century | yearOfCentury | isoYear | isoYearOfCentury | quarter | month | day
  | weekFromSunday | weekFromMonday | isoWeek | weekdayFromSunday | weekdayFromMonday | ordinal
  | hour | hour12 | minute | second | nanosecond | timestamp

/-- One piece of a format. -/
inductive Directive where
  | text (c : Char)
  | number (q : Quantity) (p : Padding)
  | weekdayShort | weekdayLong | monthShort | monthLong | halfDayLower | halfDayUpper
  | zoneName | zoneOffset | zoneOffsetColon | zoneOffsetSeconds | zoneOffsetHours
  /-- Digits of the second, with the point in front if `point`. -/
  | fraction (digits : Nat) (point : Bool)
  | fractionAsNeeded
  | stamp
  | invalid

namespace Directive

def weekdayNames : List String :=
  ["Monday", "Tuesday", "Wednesday", "Thursday", "Friday", "Saturday", "Sunday"]

def monthNames : List String :=
  ["January", "February", "March", "April", "May", "June", "July", "August", "September", "October",
   "November", "December"]

/-- The directives a letter stands for; `none` if it stands for none. -/
def ofLetter? (c : Char) : Option (List Directive) :=
  let zero (q : Quantity) := Directive.number q .zero
  let space (q : Quantity) := Directive.number q .space
  let bare (q : Quantity) := Directive.number q .none
  match c with
  | 'A' => some [weekdayLong]
  | 'B' => some [monthLong]
  | 'C' => some [zero .century]
  | 'D' | 'x' => some [zero .month, text '/', zero .day, text '/', zero .yearOfCentury]
  | 'F' => some [zero .year, text '-', zero .month, text '-', zero .day]
  | 'G' => some [zero .isoYear]
  | 'H' => some [zero .hour]
  | 'I' => some [zero .hour12]
  | 'M' => some [zero .minute]
  | 'P' => some [halfDayLower]
  | 'R' => some [zero .hour, text ':', zero .minute]
  | 'S' => some [zero .second]
  | 'T' | 'X' => some [zero .hour, text ':', zero .minute, text ':', zero .second]
  | 'U' => some [zero .weekFromSunday]
  | 'V' => some [zero .isoWeek]
  | 'W' => some [zero .weekFromMonday]
  | 'Y' => some [zero .year]
  | 'Z' => some [zoneName]
  | 'a' => some [weekdayShort]
  | 'b' | 'h' => some [monthShort]
  | 'c' => some [weekdayShort, text ' ', monthShort, text ' ', space .day, text ' ', zero .hour, text ':',
      zero .minute, text ':', zero .second, text ' ', zero .year]
  | 'd' => some [zero .day]
  | 'e' => some [space .day]
  | 'f' => some [zero .nanosecond]
  | 'g' => some [zero .isoYearOfCentury]
  | 'j' => some [zero .ordinal]
  | 'k' => some [space .hour]
  | 'l' => some [space .hour12]
  | 'm' => some [zero .month]
  | 'n' => some [text '\n']
  | 'p' => some [halfDayUpper]
  | 'q' => some [bare .quarter]
  | 'r' => some [zero .hour12, text ':', zero .minute, text ':', zero .second, text ' ', halfDayUpper]
  | 's' => some [bare .timestamp]
  | 't' => some [text '\t']
  | 'u' => some [bare .weekdayFromMonday]
  | 'v' => some [space .day, text '-', monthShort, text '-', zero .year]
  | 'w' => some [bare .weekdayFromSunday]
  | 'y' => some [zero .yearOfCentury]
  | 'z' => some [zoneOffset]
  | '+' => some [stamp]
  | '%' => some [text '%']
  | _ => none

/-- What follows `%`, read from the front of a text. -/
def readDirective : List Char → List Directive × List Char
  | ':' :: ':' :: ':' :: 'z' :: rest => ([zoneOffsetHours], rest)
  | ':' :: ':' :: 'z' :: rest => ([zoneOffsetSeconds], rest)
  | ':' :: 'z' :: rest => ([zoneOffsetColon], rest)
  | '.' :: '3' :: 'f' :: rest => ([fraction 3 true], rest)
  | '.' :: '6' :: 'f' :: rest => ([fraction 6 true], rest)
  | '.' :: '9' :: 'f' :: rest => ([fraction 9 true], rest)
  | '.' :: 'f' :: rest => ([fractionAsNeeded], rest)
  | '3' :: 'f' :: rest => ([fraction 3 false], rest)
  | '6' :: 'f' :: rest => ([fraction 6 false], rest)
  | '9' :: 'f' :: rest => ([fraction 9 false], rest)
  | c :: rest =>
    match ofLetter? c with
    | some ds => (ds, rest)
    | none => ([invalid], rest)
  | [] => ([invalid], [])

/-- A padding asked for replaces that of a single number and fits nothing else. -/
def withPadding (p : Padding) : List Directive → List Directive
  | [number q _] => [number q p]
  | _ => [invalid]

/-- Read a directive with its padding: `-` for none, `0` for zeros, `_` for blanks. -/
def readPadded : List Char → List Directive × List Char
  | '-' :: rest => (readDirective rest).map (withPadding .none) id
  | '0' :: rest => (readDirective rest).map (withPadding .zero) id
  | '_' :: rest => (readDirective rest).map (withPadding .space) id
  | rest => readDirective rest

/-- The pieces of a format; the fuel bounds their number. -/
def parseWith : Nat → List Char → List Directive
  | 0, _ => []
  | _, [] => []
  | fuel + 1, '%' :: rest =>
    let (ds, rest) := readPadded rest
    ds ++ parseWith fuel rest
  | fuel + 1, c :: rest => text c :: parseWith fuel rest

def parse (format : List Char) : List Directive := parseWith format.length format

/-- At most two digits: what does not fit goes on in the characters behind `9`. -/
def twoDigits (n : Nat) (p : Padding) : List Char :=
  let n := n % 256
  let front := match n / 10, p with
    | 0, .none => []
    | 0, .space => [' ']
    | tens, _ => [Char.ofNat (48 + tens)]
  front ++ [Char.ofNat (48 + n % 10)]

/-- A number filled up to a width, the sign in front of zeros and behind blanks. -/
def signed (width : Nat) (n : Int) (p : Padding) (plus : Bool) : List Char :=
  let digits := Nat.toDigits 10 n.natAbs
  let sign := if n < 0 then ['-'] else if plus then ['+'] else []
  let fill := width - digits.length - sign.length
  match p with
  | .none => sign ++ digits
  | .zero => sign ++ List.replicate fill '0' ++ digits
  | .space => List.replicate fill ' ' ++ sign ++ digits

/-- A year has at least four digits, and a sign when it is outside 0 to 9999. -/
def yearDigits (y : Int) (p : Padding) : List Char :=
  if 0 ≤ y ∧ y < 10000 then signed 4 y p false else signed 5 y p true

/-- The hour on a clock of twelve. -/
def hour12 (h : Nat) : Nat := if h % 12 = 0 then 12 else h % 12

def quantity (t : Instant) (q : Quantity) (p : Padding) : List Char :=
  let d := t.date
  let c := t.clock
  let (isoYear, isoWeek) := d.isoWeek t.weekday
  match q with
  | .year => yearDigits d.year p
  | .century => twoDigits ((d.year / 100) % 256).toNat p
  | .yearOfCentury => twoDigits (d.year % 100).toNat p
  | .isoYear => yearDigits isoYear p
  | .isoYearOfCentury => twoDigits (isoYear % 100).toNat p
  | .quarter => Nat.toDigits 10 ((d.month + 2) / 3)
  | .month => twoDigits d.month p
  | .day => twoDigits d.day p
  | .weekFromSunday => twoDigits (Date.weeksFrom d.ordinal ((t.weekday + 1) % 7)) p
  | .weekFromMonday => twoDigits (Date.weeksFrom d.ordinal t.weekday) p
  | .isoWeek => twoDigits isoWeek p
  | .weekdayFromSunday => Nat.toDigits 10 ((t.weekday + 1) % 7)
  | .weekdayFromMonday => Nat.toDigits 10 (t.weekday + 1)
  | .ordinal => signed 3 d.ordinal p false
  | .hour => twoDigits c.hour p
  | .hour12 => twoDigits (hour12 c.hour) p
  | .minute => twoDigits c.minute p
  | .second => twoDigits c.second p
  | .nanosecond => signed 9 c.nanosecond p false
  | .timestamp => signed 9 t.seconds p false

/-- The text of one piece; `none` for an invalid one. -/
def write? (t : Instant) : Directive → Option (List Char)
  | text c => some [c]
  | number q p => some (quantity t q p)
  | weekdayShort => some ((weekdayNames.getD t.weekday "").toList.take 3)
  | weekdayLong => some (weekdayNames.getD t.weekday "").toList
  | monthShort => some ((monthNames.getD (t.date.month - 1) "").toList.take 3)
  | monthLong => some (monthNames.getD (t.date.month - 1) "").toList
  | halfDayLower => some (if t.clock.hour < 12 then ['a', 'm'] else ['p', 'm'])
  | halfDayUpper => some (if t.clock.hour < 12 then ['A', 'M'] else ['P', 'M'])
  | zoneName => some "UTC".toList
  | zoneOffset => some "+0000".toList
  | zoneOffsetColon => some "+00:00".toList
  | zoneOffsetSeconds => some "+00:00:00".toList
  | zoneOffsetHours => some "+00".toList
  | fraction digits point =>
    let shown := Stamp.padded digits (t.clock.nanosecond / Nat.pow 10 (9 - digits))
    some (if point then '.' :: shown else shown)
  | fractionAsNeeded => some (Stamp.fraction .asNeeded t.clock.nanosecond)
  | stamp => some (Stamp.write .asNeeded Stamp.offsetZone t)
  | invalid => none

/-- The text of an instant in a format; `none` if the format has an invalid piece. -/
def render? (format : List Char) (t : Instant) : Option (List Char) :=
  ((parse format).mapM (write? t)).map List.flatten

end Directive

end Logbook
