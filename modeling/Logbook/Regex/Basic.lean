import Logbook.Unicode.Word

/-!
# Regular expressions

`Regex` is the syntax of patterns once names, flags and character classes are resolved: sets of characters,
conditions on a place in the text (`Look`), sequence, choice and repetition.  Choice prefers its left side;
a greedy repetition prefers more, a reluctant one fewer.
-/

namespace Logbook

/-- A condition on a place in a text. -/
inductive Look where
  | textStart | textEnd
  /-- Next to a line feed or an end of the text. -/
  | lineStart | lineEnd
  /-- The same with `\r\n` and `\r` as line ends too. -/
  | lineStartAny | lineEndAny
  | wordBoundary | notWordBoundary | wordStart | wordEnd | wordStartHalf | wordEndHalf
deriving DecidableEq

inductive Regex where
  | empty
  | set (s : CharSet)
  /-- A condition; the set says which characters make words. -/
  | look (l : Look) (word : CharSet)
  | seq (a b : Regex)
  | alt (a b : Regex)
  | rep (body : Regex) (min : Nat) (max : Option Nat) (greedy : Bool)
deriving DecidableEq

namespace Regex

instance : Inhabited Regex := ⟨empty⟩

def char (c : Char) : Regex := set (.singleton c)

/-- The parts one after another. -/
def seqAll : List Regex → Regex
  | [] => empty
  | [r] => r
  | r :: rest => seq r (seqAll rest)

/-- The first part that matches. -/
def altAll : List Regex → Regex
  | [] => set .empty
  | [r] => r
  | r :: rest => alt r (altAll rest)

/-- Matches the empty text only. -/
def isWidthless : Regex → Bool
  | empty => true
  | set _ => false
  | look .. => true
  | seq a b => a.isWidthless && b.isWidthless
  | alt a b => a.isWidthless && b.isWidthless
  | rep body _ max _ => body.isWidthless || max = some 0

/-- A repetition in the least form: repeating what has no width does no more than having it once. -/
def repeated (body : Regex) (min : Nat) (max : Option Nat) (greedy : Bool) : Regex :=
  if max = some 0 then empty
  else if min = 1 ∧ max = some 1 then body
  else if body.isWidthless then rep body (Nat.min min 1) (some (Nat.min (max.getD 1) 1)) greedy
  else rep body min max greedy

end Regex

end Logbook
