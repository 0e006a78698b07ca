/-!
# Errors

Every way in which building or using loggers and sinks can fail.  `Error.message` words an error for people, and
`Error.causes` gives the messages of what lies behind it.
-/

namespace Logbook

/-- What is wrong with a redaction pattern. -/
inductive PatternFault where
  /-- It is no regular expression, or too big a one. -/
  | malformed
  /-- It matches the marker that would replace its matches. -/
  | matchesMarker (marker : String)
  /-- Another fault, in words. -/
  | reported (message : String)
deriving DecidableEq

inductive Error where
  | invalidPattern (pattern : String) (fault : PatternFault)
  /-- A sink could not write. -/
  | sinkWrite (sink message : String)
  /-- The failures of the branches of a fan-out, in their order. -/
  | branches (errors : List Error)
  /-- No sink took the record. -/
  | unrouted
  /-- A context holds no logger. -/
  | missingLogger
  /-- Input or output failed during some activity. -/
  | operation (activity message cause : String)
  | io (message : String)
  | configuration (component message : String)
  /-- A sink has been closed before. -/
  | closed (sink : String)
  | other (message : String)

instance : Inhabited Error := ⟨.unrouted⟩

def PatternFault.message : PatternFault → String
  | malformed => "not a regular expression"
  | matchesMarker marker => "replacement marker '" ++ marker ++ "' matches the pattern"
  | reported message => message

namespace Error

mutual

def message : Error → String
  | invalidPattern pattern fault => "Invalid redaction pattern '" ++ pattern ++ "': " ++ fault.message
  | sinkWrite sink message => "Sink '" ++ sink ++ "' failed to write: " ++ message
  | branches errors =>
    toString errors.length ++ " sink(s) failed: " ++ "; ".intercalate (messages errors)
  | unrouted => "No sink accepted the record"
  | missingLogger => "No logger found in context"
  | operation activity message _ => "IO error while " ++ activity ++ ": " ++ message
  | io message => "IO error: " ++ message
  | configuration component message => "Invalid configuration for " ++ component ++ ": " ++ message
  | closed sink => "Sink '" ++ sink ++ "' is closed"
  | other message => message

def messages : List Error → List String
  | [] => []
  | e :: rest => message e :: messages rest

end

/-- The messages of what caused an error. -/
def causes : Error → List String
  | operation _ _ cause => [cause]
  | io message => [message]
  | _ => []

mutual

/-- The errors of the single sinks, read left to right through all fan-outs. -/
def leaves : Error → List Error
  | branches errors => leavesOf errors
  | e => [e]

def leavesOf : List Error → List Error
  | [] => []
  | e :: rest => leaves e ++ leavesOf rest

end

end Error

end Logbook
