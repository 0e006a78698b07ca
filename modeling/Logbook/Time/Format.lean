import Logbook.Time.Directive

/-!
# Formats for the time of an entry

A `TimeFormat` writes instants as stamps, as numbers, or by a format of the application's own.  A format that
cannot be rendered gives the stamp with milliseconds instead.
-/

namespace Logbook

inductive TimeFormat where
  /-- A stamp with milliseconds. -/
  | iso8601
  /-- A stamp with nanoseconds and an offset. -/
  | rfc3339Nanos
  /-- Seconds since the start of 1970. -/
  | unix
  /-- Milliseconds since the start of 1970. -/
  | unixMillis
  /-- A format made of directives. -/
  | custom (format : String)
deriving DecidableEq

namespace TimeFormat

def default : TimeFormat := iso8601

/-- The stamp with milliseconds. -/
def stamp (t : Instant) : String := String.ofList (Stamp.write .milli Stamp.letterZone t)

/-- The number a format shows, if it shows one. -/
def number? : TimeFormat → Instant → Option Int
  | unix, t => some t.seconds
  | unixMillis, t => some t.milliseconds
  | _, _ => none

/-- An instant as text. -/
def write (f : TimeFormat) (t : Instant) : String :=
  match f with
  | iso8601 => stamp t
  | rfc3339Nanos => String.ofList (Stamp.write .nano Stamp.offsetZone t)
  | unix => toString t.seconds
  | unixMillis => toString t.milliseconds
  | custom format =>
    match Directive.render? format.toList t with
    | some text => String.ofList text
    | none => stamp t

end TimeFormat

end Logbook
