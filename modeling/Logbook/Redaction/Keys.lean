import Logbook.Text.Case

/-!
# Redaction by key

A `Keys` rule names fields whose values are masked whole.  Names are compared in lower case.
-/

namespace Logbook.Redaction

structure Keys where
  /-- The names, in lower case. -/
  names : List String

namespace Keys

def ofList (names : List String) : Keys := ⟨names.map Text.lower⟩

def covers (k : Keys) (key : String) : Bool := k.names.contains (Text.lower key)

def isEmpty (k : Keys) : Bool := k.names.isEmpty

end Keys

end Logbook.Redaction
