import Logbook.Regex.Basic
import Logbook.Unicode.Age
import Logbook.Unicode.Boundary
import Logbook.Unicode.CaseTable
import Logbook.Unicode.Property
import Logbook.Unicode.Script

/-!
# Character classes by name

The sets behind the names a pattern can use: `\d`, `\s`, `\w`, the ASCII classes such as `[:alpha:]`, and the
properties of `\p`.  `foldCase` closes a set under simple case folding.
-/

namespace Logbook.CharClass

/-- Which characters a pattern is about: all of them, or single bytes of which only ASCII can match. -/
inductive Universe where
  | unicode | bytes
deriving DecidableEq

/-- The complement within the universe. -/
def negate (u : Universe) (s : CharSet) : CharSet :=
  match u with
  | .unicode => s.compl
  | .bytes => (CharSet.range 0 255).diff s

/-- All characters with the character they fold to, as far as these differ. -/
def foldPairs : List (Nat × Nat) := CaseTable.foldRuns.flatMap CaseTable.Run.pairs

/-- Add every character that folds to the same as one of the set. -/
def foldUnicode (s : CharSet) : CharSet :=
  let targets := foldPairs.filterMap fun (c, f) =>
    if s.containsPoint c || s.containsPoint f then some f else none
  let wanted := CharSet.normalize (.ofPoints targets)
  let others := foldPairs.filterMap fun (c, f) => if wanted.containsPoint f then some c else none
  s.union (.ofPoints (targets ++ others))

def lowerLetters : CharSet := .range 97 122

def upperLetters : CharSet := .range 65 90

/-- Add the other case of the ASCII letters in the set. -/
def foldAscii (s : CharSet) : CharSet :=
  let shift (t : CharSet) (up : Bool) : CharSet :=
    ⟨t.ranges.map fun (lo, hi) => if up then (lo + 32, hi + 32) else (lo - 32, hi - 32)⟩
  (s.union (shift (s.inter upperLetters) true)).union (shift (s.inter lowerLetters) false)

def foldCase (u : Universe) (s : CharSet) : CharSet :=
  match u with
  | .unicode => foldUnicode s
  | .bytes => foldAscii s

/-- The classes written with one letter: digits, blanks and word characters. -/
def letterClass? (u : Universe) (c : Char) : Option CharSet :=
  match u, c with
  | .unicode, 'd' => some Category.digit
  | .unicode, 's' => some Property.whiteSpace
  | .unicode, 'w' => some Word.set
  | .bytes, 'd' => some (.range 48 57)
  | .bytes, 's' => some ⟨[(9, 13), (32, 32)]⟩
  | .bytes, 'w' => some ⟨[(48, 57), (65, 90), (95, 95), (97, 122)]⟩
  | _, _ => none

/-- The words of `\b` in a universe. -/
def words (u : Universe) : CharSet :=
  match u with
  | .unicode => Word.set
  | .bytes => ⟨[(48, 57), (65, 90), (95, 95), (97, 122)]⟩

/-- The ASCII classes. -/
def ascii? : String → Option CharSet
  | "alnum" => some ⟨[(48, 57), (65, 90), (97, 122)]⟩
  | "alpha" => some ⟨[(65, 90), (97, 122)]⟩
  | "ascii" => some (.range 0 127)
  | "blank" => some ⟨[(9, 9), (32, 32)]⟩
  | "cntrl" => some ⟨[(0, 31), (127, 127)]⟩
  | "digit" => some (.range 48 57)
  | "graph" => some (.range 33 126)
  | "lower" => some lowerLetters
  | "print" => some (.range 32 126)
  | "punct" => some ⟨[(33, 47), (58, 64), (91, 96), (123, 126)]⟩
  | "space" => some ⟨[(9, 13), (32, 32)]⟩
  | "upper" => some upperLetters
  | "word" => some ⟨[(48, 57), (65, 90), (95, 95), (97, 122)]⟩
  | "xdigit" => some ⟨[(48, 57), (65, 70), (97, 102)]⟩
  | _ => none

/-- A property name as it is compared: ASCII in lower case without blanks, hyphens and underscores, and
without `is` in front. -/
def propertyName (name : List Char) : String :=
  let lower (cs : List Char) : List Char :=
    cs.filterMap fun c =>
      if c = ' ' ∨ c = '_' ∨ c = '-' ∨ 128 ≤ c.toNat then none else some c.toLower
  match name with
  | i :: s :: rest =>
    if i.toLower = 'i' ∧ s.toLower = 's' then
      let rest := lower rest
      String.ofList (if rest = ['c'] then ['i', 's', 'c'] else rest)
    else String.ofList (lower name)
  | _ => String.ofList (lower name)

/-- The characters of a general category or a group of categories. -/
def category? (name : String) : Option CharSet :=
  match name with
  | "any" => some .full
  | "ascii" => some (.range 0 127)
  | "assigned" => some (Category.set [.unassigned]).compl
  | _ => (Category.named? name).map Category.set

/-- The characters of `\p` with one name: a property, a general category or a script. -/
def named? (name : List Char) : Option CharSet :=
  let name := propertyName name
  let property :=
    -- These three names of categories come before those of properties.
    if name = "cf" ∨ name = "sc" ∨ name = "lc" then none else Property.named? name
  property.orElse fun _ => (category? name).orElse fun _ => Script.named? name

/-- The characters of `\p` with a name and a value. -/
def valued? (name value : List Char) : Option CharSet :=
  let value := propertyName value
  match propertyName name with
  | "gc" | "generalcategory" => category? value
  | "sc" | "script" => Script.named? value
  | "scx" | "scriptextensions" => Script.extended? value
  | "age" => Age.upTo? value
  | "gcb" | "graphemeclusterbreak" => Boundary.cluster? value
  | "wb" | "wordbreak" => Boundary.word? value
  | "sb" | "sentencebreak" => Boundary.sentence? value
  | _ => none

end Logbook.CharClass
