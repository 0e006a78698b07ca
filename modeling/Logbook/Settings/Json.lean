import Logbook.Json.Printer
import Logbook.Json.Typed
import Logbook.Settings

/-!
# Settings as JSON

A level is written as its name, a filter as its pattern, a layout as its name, a time format as its name or as an
object with the format of one's own, a duration as text.  Settings are an object of these.
-/

namespace Logbook

namespace Level

def encode (l : Level) : Json := .string l.name

/-- A level from its name. -/
def read : Json.Reader Level := fun cs => do
  let (name, cs) ← Json.readText cs
  .ok (ofName name, cs)

end Level

namespace Filter

def encode (f : Filter) : Json := .string f.render

/-- A filter from its pattern. -/
def read : Json.Reader Filter := fun cs => do
  let (pattern, cs) ← Json.readText cs
  .ok (parse pattern, cs)

end Filter

namespace Layout.Kind

def encode (k : Kind) : Json := .string k.name

def all : List Kind := [bunyan, stackdriver, cloudwatch]

/-- A layout from its name, exactly as it is written. -/
def read : Json.Reader Kind :=
  Json.readVariant fun name => (all.find? (·.name = name)).map .plain

end Layout.Kind

namespace TimeFormat

def encode : TimeFormat → Json
  | iso8601 => .string "Iso8601"
  | rfc3339Nanos => .string "Rfc3339Nanos"
  | unix => .string "Unix"
  | unixMillis => .string "UnixMillis"
  | custom format => .object (.ofList [("Custom", .string format)])

def read : Json.Reader TimeFormat :=
  Json.readVariant fun
    | "Iso8601" => some (.plain iso8601)
    | "Rfc3339Nanos" => some (.plain rfc3339Nanos)
    | "Unix" => some (.plain unix)
    | "UnixMillis" => some (.plain unixMillis)
    | "Custom" => some (.holding fun cs => do
        let (format, cs) ← Json.readText cs
        .ok (custom format, cs))
    | _ => none

end TimeFormat

/-- A duration from its text; a text that is none is a mismatch. -/
def Duration.read : Json.Reader Duration := fun cs => do
  let (text, cs) ← Json.readText cs
  match parse text with
  | .ok d => .ok (d, cs)
  | .error _ => .error .mismatch

namespace Settings

def levelKey : String := "level"
def destinationsKey : String := "destinations"
def layoutKey : String := "converter"
def flushKey : String := "flush_frequency"

def encode (s : Settings) : Json :=
  .object (.ofList [
    (levelKey, s.level.encode),
    (destinationsKey, .array (s.destinations.map .string)),
    (layoutKey, s.layout.encode),
    (flushKey, .string s.flushEvery.render)])

/-- The fields of settings, in order. -/
def fields : List (Json.Field Settings) := [
  ⟨levelKey, fun s cs => do
    let (level, cs) ← Filter.read cs
    .ok ({ s with level }, cs)⟩,
  ⟨destinationsKey, fun s cs => do
    let (destinations, cs) ← Json.readList Json.readText cs
    .ok ({ s with destinations }, cs)⟩,
  ⟨layoutKey, fun s cs => do
    let (layout, cs) ← Layout.Kind.read cs
    .ok ({ s with layout }, cs)⟩,
  ⟨flushKey, fun s cs => do
    let (flushEvery, cs) ← Duration.read cs
    .ok ({ s with flushEvery }, cs)⟩]

/-- Settings from JSON; what is missing is as by default. -/
def read : Json.Reader Settings := Json.readStructure fields default

end Settings

end Logbook
