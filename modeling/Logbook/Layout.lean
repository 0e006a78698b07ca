import Logbook.Error
import Logbook.Record
import Logbook.Text.Case
import Logbook.Time.Format

/-!
# Layouts

A layout reshapes a finished record for the program that shows it: Bunyan, the StackDriver logging of Google, or
the CloudWatch of Amazon.  It touches its own fields only.
-/

namespace Logbook

/-- The time as a field: a number if the format shows one, else text. -/
def TimeFormat.render (f : TimeFormat) (t : Instant) : Value :=
  match f.number? t with
  | some n => .int (.ofInt n)
  | none => .text (f.write t)

/-- What StackDriver calls a level. -/
def Level.severity : Level → String
  | never | unset => "DEFAULT"
  | trace | debug => "DEBUG"
  | info => "INFO"
  | warn => "WARNING"
  | error => "ERROR"
  | fatal => "CRITICAL"
  | always => "NOTICE"

inductive Layout where
  | bunyan
  | stackdriver
  /-- The layout of CloudWatch with a format for the time. -/
  | cloudwatch (time : TimeFormat)

namespace Layout

/-- Bunyan records carry the version of the layout. -/
def arrangeBunyan (r : Record) : Record := r.set "v" (.int 0)

/-- StackDriver records have a severity instead of a level, and the message under another name. -/
def arrangeStackdriver (r : Record) : Record :=
  let level := (r.find? Record.levelKey).bind Value.level?
  let r := r.remove Record.levelKey
  let r := match level with
    | some l => r.replace "severity" (.text l.severity)
    | none => r
  r.rename Record.messageKey "message"

/-- CloudWatch records have the name of the level, and the time in a format of one's own. -/
def arrangeCloudwatch (format : TimeFormat) (r : Record) : Record :=
  let r := match (r.find? Record.levelKey).bind Value.level? with
    | some l => r.replace Record.levelKey (.text l.name)
    | none => r
  match r.find? Record.timeKey with
  | some (.time t) => r.replace Record.timeKey (format.render t)
  | _ => r

def arrange : Layout → Record → Record
  | bunyan => arrangeBunyan
  | stackdriver => arrangeStackdriver
  | cloudwatch format => arrangeCloudwatch format

/-- The layouts that are chosen by name. -/
inductive Kind where
  | bunyan | stackdriver | cloudwatch
deriving DecidableEq

namespace Kind

instance : Inhabited Kind := ⟨bunyan⟩

def layout : Kind → Layout
  | bunyan => .bunyan
  | stackdriver => .stackdriver
  | cloudwatch => .cloudwatch .unixMillis

def name : Kind → String
  | bunyan => "bunyan"
  | stackdriver => "stackdriver"
  | cloudwatch => "cloudwatch"

/-- The layout of a name in any case, blanks around it. -/
def ofName (text : String) : Except Error Kind :=
  match Text.lower (Text.trim text) with
  | "" | "default" | "bunyan" => .ok bunyan
  | "stackdriver" | "google" | "gcp" => .ok stackdriver
  | "cloudwatch" | "aws" => .ok cloudwatch
  | other => .error (.configuration "converter" ("unknown converter '" ++ other ++ "'"))

end Kind

end Layout

end Logbook
