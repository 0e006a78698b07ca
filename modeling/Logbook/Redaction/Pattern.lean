import Logbook.Error
import Logbook.Regex.Match
import Logbook.Regex.Reader

/-!
# Redaction by pattern

A `Pattern` replaces every match of a regular expression by a marker.  A replacement can form a new match with
its neighbours, so redaction repeats until nothing matches any more, at most `Pattern.passes` times.  No pattern
matches its own marker: `Pattern.ofRegex?` refuses it.
-/

namespace Logbook.Redaction

/-- What is written in place of what is redacted. -/
def mask : String := "REDACTED"

structure Pattern where
  source : String
  regex : Regex
  marker : String

namespace Pattern

def ofRegex (source : String) (regex : Regex) (marker : String) : Except Error Pattern :=
  if regex.isMatch marker.toList.toArray then .error (.invalidPattern source (.matchesMarker marker))
  else .ok ⟨source, regex, marker⟩

/-- Read a pattern; it may be no regular expression, or match the marker. -/
def parse (source : String) (marker : String) : Except Error Pattern :=
  match Regex.parse? source with
  | none => .error (.invalidPattern source .malformed)
  | some regex => ofRegex source regex marker

/-- A pattern that comes with the library. -/
def shipped (source : String) : Pattern := ⟨source, (Regex.parse? source).getD .empty, mask⟩

/-- Numbers of 13 to 19 digits, single blanks or hyphens between them. -/
def creditCard : Pattern := shipped "\\b(?:\\d[ -]?)\x7b12,18\x7d\\d\\b"

def email : Pattern := shipped "[A-Za-z0-9._%+-]+@[A-Za-z0-9.-]+\\.[A-Za-z]\x7b2,\x7d"

/-- North American telephone numbers with separators. -/
def phone : Pattern :=
  shipped "(?:\\+1[-. ]?)?\\(?\\b\\d\x7b3\x7d\\)?[-. ]\\d\x7b3\x7d[-. ]\\d\x7b4\x7d\\b"

/-- How often a text is gone through at most. -/
def passes : Nat := 8

/-- Replace the matches once; nothing if there is none. -/
def pass? (p : Pattern) (text : List Char) : Option (List Char) :=
  p.regex.replaceAll? p.marker.toList text

/-- Replace until nothing matches, at most so often. -/
def settle (p : Pattern) : Nat → List Char → List Char
  | 0, text => text
  | n + 1, text =>
    match p.pass? text with
    | none => text
    | some next => settle p n next

/-- The redacted text, and whether anything matched. -/
def redactList (p : Pattern) (text : List Char) : List Char × Bool :=
  match p.pass? text with
  | none => (text, false)
  | some next => (p.settle (passes - 1) next, true)

def redact (p : Pattern) (text : String) : String × Bool :=
  let (chars, matched) := p.redactList text.toList
  (String.ofList chars, matched)

end Pattern

end Logbook.Redaction
