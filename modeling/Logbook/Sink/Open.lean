import Logbook.Settings
import Logbook.Sink

/-!
# Opening destinations

A destination is the name of a standard stream, `nil` for nowhere, or the path of a file.  `Settings.openSink` opens
all destinations of some settings, each with its own copy of the filter.
-/

namespace Logbook

namespace Store

/-- Open a file for appending, as a new output. -/
def openFile (st : Store) (path : String) (filter : Filter) (layout : Layout) (flushEvery : Option Duration) :
    Except Error Nat × Store :=
  match st.disk.open? path with
  | none => (.error (.operation "opening log file" ("cannot open '" ++ path ++ "'") ""), st)
  | some (file, disk) =>
    let (id, st) := { st with disk }.add (.file path file filter layout flushEvery)
    (.ok id, st)

/-- Add an output as a sink. -/
def addSink (st : Store) (o : Output) : Sink × Store :=
  let (id, st) := st.add o
  (.output id, st)

/-- A duration of zero means never. -/
def timer (d : Duration) : Option Duration := if d.isZero then none else some d

/-- Open one destination. -/
def openDestination (st : Store) (destination : String) (filter : Filter) (layout : Layout.Kind)
    (flushEvery : Duration) : Except Error Sink × Store :=
  let path := Text.trim destination
  if path = Settings.standardOutput then
    let (s, st) := st.addSink (.console .output filter layout.layout)
    (.ok s, st)
  else if path = Settings.standardError then
    let (s, st) := st.addSink (.console .error filter layout.layout)
    (.ok s, st)
  else if path = Settings.nowhere then (.ok .nowhere, st)
  else
    let (id, st) := st.openFile path filter layout.layout (timer flushEvery)
    (id.map .output, st)

/-- Open destinations in order, up to the first that cannot be opened. -/
def openDestinations (st : Store) (settings : Settings) : List String → Except Error (List Sink) × Store
  | [] => (.ok [], st)
  | d :: rest =>
    match st.openDestination d settings.level settings.layout settings.flushEvery with
    | (.error e, st) => (.error e, st)
    | (.ok s, st) =>
      let (more, st) := st.openDestinations settings rest
      (more.map (s :: ·), st)

end Store

/-- Open the destinations as one sink. -/
def Settings.openSink (settings : Settings) (st : Store) : Except Error Sink × Store :=
  let (sinks, st) := st.openDestinations settings settings.destinations
  let sink := match sinks with
    | .error e => .error e
    | .ok [] => .error (.configuration destinationName "no destination given")
    | .ok [s] => .ok s
    | .ok sinks => .ok (.fan sinks)
  (sink, st)

end Logbook
