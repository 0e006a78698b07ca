import Logbook.Json

/-!
# Reading JSON

`Json.parse` reads a text that holds one value and nothing but blanks around it.  Of a key that occurs
several times the last value stays.  Arrays and objects may nest less than `depthLimit` deep.  A failure is
told apart by its cause: the text ends too early, it is no JSON, or (for the readers of
`Logbook.Json.Typed`) it is JSON of the wrong shape.
-/

namespace Logbook.Json

inductive ReadError where
  /-- The text ends inside a value. -/
  | cutShort
  /-- The text is no JSON. -/
  | malformed
  /-- The text is JSON of another shape than the one wanted. -/
  | mismatch
deriving DecidableEq

/-- A reader takes a value off the front of a text. -/
abbrev Reader (α : Type) := List Char → Except ReadError (α × List Char)

/-- Containers nest less deep than this. -/
def depthLimit : Nat := 128

/-- The blanks of JSON. -/
def isBlank (c : Char) : Bool := c = ' ' || c = '\n' || c = '\t' || c = '\r'

def skipBlanks (cs : List Char) : List Char := cs.dropWhile isBlank

/-- The characters of a word that has to come next. -/
def readWord : List Char → Reader Unit
  | [], cs => .ok ((), cs)
  | _ :: _, [] => .error .cutShort
  | w :: ws, c :: cs => if c = w then readWord ws cs else .error .malformed

/-! ## Strings -/

def hexValue? (c : Char) : Option Nat :=
  if '0' ≤ c ∧ c ≤ '9' then some (c.toNat - 48)
  else if 'a' ≤ c ∧ c ≤ 'f' then some (c.toNat - 87)
  else if 'A' ≤ c ∧ c ≤ 'F' then some (c.toNat - 55)
  else none

/-- The bytes the characters take in UTF-8. -/
def byteLength (cs : List Char) : Nat := cs.foldl (fun n c => n + c.utf8Size) 0

/-- Four hexadecimal digits.  The text is cut short when fewer than four bytes are left of it. -/
def readHex : Reader Nat := fun cs =>
  if byteLength (cs.take 4) < 4 then .error .cutShort
  else
    match cs with
    | a :: b :: c :: d :: rest =>
      match hexValue? a, hexValue? b, hexValue? c, hexValue? d with
      | some a, some b, some c, some d => .ok (((a * 16 + b) * 16 + c) * 16 + d, rest)
      | _, _, _, _ => .error .malformed
    | _ => .error .malformed

/-- A code point that half of a surrogate pair announces. -/
def isHighSurrogate (n : Nat) : Bool := 0xD800 ≤ n && n ≤ 0xDBFF

def isLowSurrogate (n : Nat) : Bool := 0xDC00 ≤ n && n ≤ 0xDFFF

/-- What follows `\u`: four digits, or a surrogate pair as two escapes. -/
def readUnicode : Reader Char := fun cs => do
  let (n, cs) ← readHex cs
  if isLowSurrogate n then .error .malformed
  else if isHighSurrogate n then
    match cs with
    | [] => .error .cutShort
    | '\\' :: cs =>
      match cs with
      | [] => .error .cutShort
      | 'u' :: cs =>
        let (m, cs) ← readHex cs
        if isLowSurrogate m then
          .ok (Char.ofNat (0x10000 + (n - 0xD800) * 0x400 + (m - 0xDC00)), cs)
        else .error .malformed
      | _ => .error .malformed
    | _ => .error .malformed
  else .ok (Char.ofNat n, cs)

/-- The character of an escape by one letter. -/
def shortEscape? : Char → Option Char
  | '"' => some '"'
  | '\\' => some '\\'
  | '/' => some '/'
  | 'b' => some '\x08'
  | 'f' => some '\x0c'
  | 'n' => some '\n'
  | 'r' => some '\r'
  | 't' => some '\t'
  | _ => none

/-- The rest of a string, `acc` holding what came before in reverse; the fuel bounds the characters. -/
def readChars : Nat → List Char → Reader (List Char)
  | 0, _, _ => .error .cutShort
  | _ + 1, _, [] => .error .cutShort
  | _ + 1, acc, '"' :: cs => .ok (acc.reverse, cs)
  | fuel + 1, acc, '\\' :: cs =>
    match cs with
    | [] => .error .cutShort
    | 'u' :: cs => do
      let (c, cs) ← readUnicode cs
      readChars fuel (c :: acc) cs
    | e :: cs =>
      match shortEscape? e with
      | some c => readChars fuel (c :: acc) cs
      | none => .error .malformed
  | fuel + 1, acc, c :: cs =>
    if c.toNat < 32 then .error .malformed else readChars fuel (c :: acc) cs

/-- A string whose opening quote has been read. -/
def readStringBody : Reader String := fun cs => do
  let (text, cs) ← readChars (cs.length + 1) [] cs
  .ok (String.ofList text, cs)

/-! ## Numbers -/

/-- A number as it is read: digits, and how many places the point moves. -/
structure Digits where
  significand : Nat
  exponent : Int

/-- The largest significand; digits that would go beyond it only count. -/
def maxSignificand : Nat := 0xffffffffffffffff

/-- Exponents are read up to this. -/
def maxExponent : Nat := 0x7fffffff

/-- The digits at the front of a text. -/
def takeDigits (cs : List Char) : List Char × List Char := (cs.takeWhile Char.isDigit, cs.dropWhile Char.isDigit)

/-- Append digits to a significand as long as it stays in range; the digits left over. -/
def extendSignificand (n : Nat) : List Char → Nat × List Char
  | [] => (n, [])
  | c :: cs =>
    let m := n * 10 + (c.toNat - 48)
    if maxSignificand < m then (n, c :: cs) else extendSignificand m cs

/-- `significand * 10 ^ exponent`: the significand rounded to a double, then times or through a power of
ten.  No double is that large: out of range. -/
def scaleDigits (negative : Bool) (d : Digits) : Except ReadError Binary64 :=
  let x := Binary64.ofNat d.significand
  let signed (y : Binary64) : Binary64 := if negative then y.neg else y
  let power (n : Nat) : Binary64 := Binary64.ofNat (Nat.pow 10 n)
  if 0 ≤ d.exponent then
    if 308 < d.exponent then
      if x.isZero then .ok (signed x) else .error .malformed
    else
      let y := x.mul (power d.exponent.toNat)
      if y.isInfinite then .error .malformed else .ok (signed y)
  else .ok (signed (shrink 40 x (-d.exponent).toNat))
where
  /-- Divide by `10 ^ n`, by at most `10 ^ 308` at a time. -/
  shrink : Nat → Binary64 → Nat → Binary64
    | 0, x, _ => x
    | fuel + 1, x, n =>
      if x.isZero then x
      else if n ≤ 308 then x.div (Binary64.ofNat (Nat.pow 10 n))
      else shrink fuel (x.div (Binary64.ofNat (Nat.pow 10 308))) (n - 308)

/-- At least one digit. -/
def readDigits : Reader (List Char) := fun cs =>
  match takeDigits cs with
  | ([], []) => .error .cutShort
  | ([], _ :: _) => .error .malformed
  | (digits, rest) => .ok (digits, rest)

/-- A number with an exponent of some digits behind it. -/
def scalePower (negative : Bool) (d : Digits) (down : Bool) (digits : List Char) : Except ReadError Binary64 :=
  let n := digits.foldl (fun n c => n * 10 + (c.toNat - 48)) 0
  if maxExponent < n then
    if d.significand ≠ 0 ∧ !down then .error .malformed else .ok (Binary64.zero negative)
  else scaleDigits negative ⟨d.significand, if down then d.exponent - n else d.exponent + n⟩

/-- The digits of an exponent, behind its sign. -/
def readPower (negative : Bool) (d : Digits) (down : Bool) : Reader Binary64 := fun cs => do
  let (digits, cs) ← readDigits cs
  let x ← scalePower negative d down digits
  .ok (x, cs)

/-- What follows `e`: a sign, and at least one digit. -/
def readExponent (negative : Bool) (d : Digits) : Reader Binary64
  | '+' :: cs => readPower negative d false cs
  | '-' :: cs => readPower negative d true cs
  | cs => readPower negative d false cs

/-- An exponent if there is one. -/
def readTail (negative : Bool) (d : Digits) : Reader Binary64
  | 'e' :: cs => readExponent negative d cs
  | 'E' :: cs => readExponent negative d cs
  | cs => do
    let x ← scaleDigits negative d
    .ok (x, cs)

/-- What follows the point: at least one digit, then perhaps an exponent. -/
def readFraction (negative : Bool) (d : Digits) : Reader Binary64 := fun cs => do
  let (digits, cs) ← readDigits cs
  let (n, spare) := extendSignificand d.significand digits
  readTail negative ⟨n, d.exponent - (digits.length - spare.length : Nat)⟩ cs

/-- The number of digits that all fit.  With a sign, zero becomes a double, and so does what no signed word holds. -/
def wholeNumber (negative : Bool) (n : Nat) : Number :=
  if !negative then .whole n
  else if n = 0 ∨ 0x8000000000000000 < n then .real (Binary64.ofNat n).neg
  else .whole (-(n : Int))

/-- What follows the digits in front of the point. -/
def readPoint (negative : Bool) (digits : List Char) : Reader Number := fun cs =>
  let (n, spare) := extendSignificand 0 digits
  let d : Digits := ⟨n, spare.length⟩
  let real (r : Except ReadError (Binary64 × List Char)) : Except ReadError (Number × List Char) :=
    r.map fun (x, cs) => (.real x, cs)
  match cs with
  | '.' :: cs => real (readFraction negative d cs)
  | 'e' :: cs => real (readExponent negative d cs)
  | 'E' :: cs => real (readExponent negative d cs)
  | cs => if spare ≠ [] then real (readTail negative d cs) else .ok (wholeNumber negative n, cs)

/-- Only zero itself has a zero in front. -/
def hasLeadingZero : List Char → Bool
  | '0' :: _ :: _ => true
  | _ => false

/-- A number after its sign. -/
def readNumber (negative : Bool) : Reader Number := fun cs => do
  let (digits, cs) ← readDigits cs
  if hasLeadingZero digits then .error .malformed else readPoint negative digits cs

/-! ## Values -/

/-- Whether an array or object goes on: `close` ends it, a comma separates its elements. -/
def readSeparator (close : Char) (first : Bool) : Reader Bool := fun cs =>
  match skipBlanks cs with
  | [] => .error .cutShort
  | c :: rest =>
    if c = close then .ok (false, rest)
    else if first then .ok (true, c :: rest)
    else if c = ',' then
      match skipBlanks rest with
      | [] => .error .cutShort
      | d :: rest => if d = close then .error .malformed else .ok (true, d :: rest)
    else .error .malformed

/-- The colon behind a key. -/
def readColon : Reader Unit := fun cs =>
  match skipBlanks cs with
  | [] => .error .cutShort
  | ':' :: cs => .ok ((), cs)
  | _ => .error .malformed

/-- A key, which has to come next. -/
def readKeyText : Reader String
  | '"' :: cs => readStringBody cs
  | _ => .error .malformed

/-- A key and the colon behind it. -/
def readKey : Reader String := fun cs => do
  let (key, cs) ← readKeyText cs
  let (_, cs) ← readColon cs
  .ok (key, cs)

mutual

/-- A value; `depth` is how many containers it may still open, less one. -/
def readValue : Nat → Nat → Reader Json
  | 0, _, _ => .error .malformed
  | fuel + 1, depth, cs =>
    match skipBlanks cs with
    | [] => .error .cutShort
    | 'n' :: cs => do
      let (_, cs) ← readWord "ull".toList cs
      .ok (.null, cs)
    | 't' :: cs => do
      let (_, cs) ← readWord "rue".toList cs
      .ok (.bool true, cs)
    | 'f' :: cs => do
      let (_, cs) ← readWord "alse".toList cs
      .ok (.bool false, cs)
    | '"' :: cs => do
      let (s, cs) ← readStringBody cs
      .ok (.string s, cs)
    | '-' :: cs => do
      let (n, cs) ← readNumber true cs
      .ok (.number n, cs)
    | '[' :: cs =>
      match depth with
      | 0 => .error .malformed
      | depth + 1 => do
        let (items, cs) ← readItems fuel depth [] cs
        .ok (.array items, cs)
    | '\x7b' :: cs =>
      match depth with
      | 0 => .error .malformed
      | depth + 1 => do
        let (members, cs) ← readMembers fuel depth true .nil cs
        .ok (.object members, cs)
    | c :: cs =>
      if c.isDigit then do
        let (n, cs) ← readNumber false (c :: cs)
        .ok (.number n, cs)
      else .error .malformed

/-- The items up to the closing bracket; `acc` holds those read, in reverse. -/
def readItems : Nat → Nat → List Json → Reader (List Json)
  | 0, _, _, _ => .error .malformed
  | fuel + 1, depth, acc, cs => do
    let (more, cs) ← readSeparator ']' acc.isEmpty cs
    if more then
      let (j, cs) ← readValue fuel depth cs
      readItems fuel depth (j :: acc) cs
    else .ok (acc.reverse, cs)

/-- The members up to the closing brace, added to those in `acc`. -/
def readMembers : Nat → Nat → Bool → Fields Json none → Reader (Fields Json none)
  | 0, _, _, _, _ => .error .malformed
  | fuel + 1, depth, first, acc, cs => do
    let (more, cs) ← readSeparator '\x7d' first cs
    if more then
      let (key, cs) ← readKey cs
      let (j, cs) ← readValue fuel depth cs
      readMembers fuel depth false (acc.insert key j) cs
    else .ok (acc, cs)

end

/-- Enough steps for a text: two for each of its characters. -/
def fuelFor (cs : List Char) : Nat := 2 * cs.length + 2

/-- Nothing but blanks is left. -/
def finish {α : Type} (read : Except ReadError (α × List Char)) : Except ReadError α := do
  let (a, cs) ← read
  match skipBlanks cs with
  | [] => .ok a
  | _ => .error .malformed

/-- Read one value from a text. -/
def parseList (cs : List Char) : Except ReadError Json :=
  finish (readValue (fuelFor cs) (depthLimit - 1) cs)

def parse (text : String) : Except ReadError Json := parseList text.toList

end Logbook.Json
