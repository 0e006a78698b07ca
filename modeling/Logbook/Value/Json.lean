import Logbook.Json.Printer
import Logbook.Json.Reader
import Logbook.Record
import Logbook.Time.Format

/-!
# Values as JSON

`Value.encode` turns a value into JSON, asking its deferred and guarded parts as it meets them; it never fails.
An array, a deferred and a guarded value each take one level of `Value.depthLimit`, a record takes two; what lies
deeper is replaced by a text.  `Value.decode` goes back: integers become signed ones if they fit, objects become
records and lose their nulls.
-/

namespace Logbook

namespace Value

variable {m : Type → Type} [Monad m]

/-- What stands for a value below the depth limit. -/
def tooDeep : Json := .string "<value nested too deeply>"

/-- What stands for a record below the depth limit. -/
def recordTooDeep : Json := .string "<record nested too deeply>"

/-- The JSON of a float; the ones that no number stands for become words. -/
def encodeFloat (x : Binary64) : Json :=
  if x.isFinite then .number (.real x) else .string (Decimal.nonFiniteWord x)

/-- The JSON of a value with so many levels left, this one included. -/
def encodeWithin (s : Sources m) : Nat → Value → m Json
  | 0, _ => pure tooDeep
  | room + 1, v =>
    match v with
    | null => pure .null
    | bool b => pure (.bool b)
    | int i => pure (.whole i.toInt)
    | uint n => pure (.whole n.toNat)
    | float x => pure (encodeFloat x)
    | text t => pure (.string t)
    | time t => pure (.string (TimeFormat.default.write t))
    | level l => pure (.whole l.number)
    | array items => do
      let items ← items.mapM (encodeWithin s room)
      pure (.array items)
    | record fields =>
      if fields.isEmpty then pure .null
      else
        match room with
        | 0 => pure recordTooDeep
        | room + 1 => do
          let members ← fields.mapM fun _ v => encodeWithin s room v
          pure (.object members)
    | deferred source => do
      let v ← s.compute source
      encodeWithin s room v
    | guarded source => do
      let v ← s.disclose source
      encodeWithin s room v

/-- The JSON of a value. -/
def encode (s : Sources m) (v : Value) : m Json := encodeWithin s (depthLimit + 1) v

/-- The value of a number: signed if it fits, else unsigned. -/
def ofNumber : Json.Number → Value
  | .whole i => if i < 0x8000000000000000 then int (.ofInt i) else uint (.ofNat i.toNat)
  | .real x => float x

def isNullJson : Json → Bool
  | .null => true
  | _ => false

mutual

/-- The value of a JSON value. -/
def decode : Json → Value
  | .null => null
  | .bool b => bool b
  | .number n => ofNumber n
  | .string s => text s
  | .array items => array (decodeItems items)
  | .object members => record (decodeMembers members)

def decodeItems : List Json → List Value
  | [] => []
  | j :: rest => decode j :: decodeItems rest

/-- The fields of an object, without those that are null. -/
def decodeMembers : {b : Option String} → Fields Json b → Fields Value b
  | _, .nil => .nil
  | _, .cons key j h rest =>
    if isNullJson j then (decodeMembers rest).lower h
    else .cons key (decode j) h (decodeMembers rest)

end

/-- A value for people: texts and level names as they are, all else as JSON. -/
def display (s : Sources m) (v : Value) : m String :=
  match v with
  | text t => pure t
  | level l => pure l.name
  | v => do
    let j ← v.encode s
    pure j.render

/-- An error as a value: its message, and the messages of its causes if there are any. -/
def ofErrorChain (message : String) (causes : List String) : Value :=
  let r := Record.empty.set "message" (text message)
  record (if causes.isEmpty then r else r.set "causes" (array (causes.map text)))

end Value

namespace Record

variable {m : Type → Type} [Monad m]

/-- The JSON of a record; an empty one is null. -/
def encode (s : Sources m) (r : Record) : m Json :=
  if r.isEmpty then pure .null
  else do
    let members ← r.mapM fun _ v => v.encodeWithin s Value.depthLimit
    pure (.object members)

/-- The record as one line of JSON. -/
def encodeText (s : Sources m) (r : Record) : m String := do
  let j ← r.encode s
  pure j.render

/-- Why a text holds no record. -/
inductive ReadError where
  | json (e : Json.ReadError)
  /-- The text holds something else than an object or null. -/
  | notRecord (found : Json)

/-- What is wrong with a value that is no record. -/
def notRecordMessage (found : Json) : String := "expected a JSON object or null, found " ++ found.render

/-- The record of a JSON value; null is the empty one. -/
def ofJson : Json → Except ReadError Record
  | .null => .ok empty
  | .object members => .ok (Value.decodeMembers members)
  | j => .error (.notRecord j)

/-- Read a record from JSON text. -/
def parse (text : String) : Except ReadError Record :=
  match Json.parse text with
  | .error e => .error (.json e)
  | .ok j => ofJson j

end Record

end Logbook
