import Logbook.Unicode.CaseTable
import Logbook.Unicode.Property

/-!
# Upper and lower case of texts

The full mappings: one character may become several (`ß` in upper case is `SS`), and a capital sigma in
lower case depends on its place: at the end of a word it becomes `ς`, elsewhere `σ`.
-/

namespace Logbook.Text

/-- The upper case of one character. -/
def upperOf (c : Char) : List Char :=
  if c.toNat < 128 then [c.toUpper]
  else
    match CaseTable.expansions.lookup c.toNat with
    | some points => points.map Char.ofNat
    | none => [Char.ofNat ((CaseTable.lookup? CaseTable.upperRuns c.toNat).getD c.toNat)]

/-- The lower case of one character away from its neighbours. -/
def lowerOf (c : Char) : List Char :=
  if c.toNat < 128 then [c.toLower]
  else if c = 'İ' then ['i', '\u0307']
  else [Char.ofNat ((CaseTable.lookup? CaseTable.lowerRuns c.toNat).getD c.toNat)]

/-- The first character that counts for case is a cased letter. -/
def startsCased (cs : List Char) : Bool :=
  match cs.dropWhile Property.caseIgnorable.contains with
  | [] => false
  | c :: _ => Property.cased.contains c

def upper (s : String) : String := String.ofList (s.toList.flatMap upperOf)

/-- Lower case of `rest`, where `before` is what precedes it, nearest character first. -/
def lowerAfter (before : List Char) : List Char → List Char
  | [] => []
  | c :: rest =>
    let here :=
      if c = 'Σ' then (if startsCased before && !startsCased rest then ['ς'] else ['σ'])
      else lowerOf c
    here ++ lowerAfter (c :: before) rest

def lower (s : String) : String := String.ofList (lowerAfter [] s.toList)

end Logbook.Text
