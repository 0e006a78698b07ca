import Logbook.Json
import Logbook.Decimal.Shortest
import Logbook.Text.Quoted

/-!
# JSON text

`Json.render` writes a value on one line without blanks.  Members come in the order of their keys.  A string
escapes the quote, the backslash and the characters below the blank, the latter by their short escapes where
there is one.  A double has the shortest digits that read back.
-/

namespace Logbook.Json

/-- Doubles are written with a point from 0.00001 to below 10 ^ 16, else with an exponent and its sign. -/
def numberStyle : Decimal.Style := ⟨-5, 16, true⟩

/-- One character inside a string. -/
def escapeChar (c : Char) : List Char :=
  if c = '"' then ['\\', '"']
  else if c = '\\' then ['\\', '\\']
  else if c = '\x08' then ['\\', 'b']
  else if c = '\t' then ['\\', 't']
  else if c = '\n' then ['\\', 'n']
  else if c = '\x0c' then ['\\', 'f']
  else if c = '\r' then ['\\', 'r']
  else if c.toNat < 32 then
    ['\\', 'u', '0', '0', if c.toNat < 16 then '0' else '1', Nat.digitChar (c.toNat % 16)]
  else [c]

def renderString (s : String) : List Char := '"' :: s.toList.flatMap escapeChar ++ ['"']

def renderInt : Int → List Char
  | .ofNat n => Nat.toDigits 10 n
  | .negSucc n => '-' :: Nat.toDigits 10 (n + 1)

def renderNumber : Number → List Char
  | .whole i => renderInt i
  | .real x => if x.isFinite then Decimal.write numberStyle x else "null".toList

mutual

/-- The text of a value, in front of `rest`. -/
def renderBefore : Json → List Char → List Char
  | null, rest => 'n' :: 'u' :: 'l' :: 'l' :: rest
  | bool true, rest => 't' :: 'r' :: 'u' :: 'e' :: rest
  | bool false, rest => 'f' :: 'a' :: 'l' :: 's' :: 'e' :: rest
  | number n, rest => renderNumber n ++ rest
  | string s, rest => renderString s ++ rest
  | array items, rest => '[' :: renderItems true items (']' :: rest)
  | object members, rest => '\x7b' :: renderMembers true members ('\x7d' :: rest)

/-- Items with commas between them; no comma before the first. -/
def renderItems (first : Bool) : List Json → List Char → List Char
  | [], rest => rest
  | j :: items, rest =>
    let body := renderBefore j (renderItems false items rest)
    if first then body else ',' :: body

def renderMembers (first : Bool) : {b : Option String} → Fields Json b → List Char → List Char
  | _, .nil, rest => rest
  | _, .cons key j _ members, rest =>
    let body := renderString key ++ ':' :: renderBefore j (renderMembers false members rest)
    if first then body else ',' :: body

end

def renderList (j : Json) : List Char := j.renderBefore []

/-- The text of a value. -/
def render (j : Json) : String := String.ofList j.renderList

end Logbook.Json
