import Logbook.Text.Split

/-!
# Lines

A line ends with a line feed, which may have a carriage return before it.  `split_flatMap` says that
what was written line by line is found again, with nothing behind the last line feed.
-/

namespace Logbook.Text

/-- A line without the carriage return at its end. -/
def dropReturn (line : List Char) : List Char :=
  if line.getLast? = some '\r' then line.dropLast else line

/-- The parts between line feeds; behind the last one there is a line only if it is not empty. -/
def linesOf (cs : List Char) : List (List Char) :=
  let parts := split '\n' cs
  (if parts.getLast? = some [] then parts.dropLast else parts).map dropReturn

/-- The lines of a text. -/
def lines (text : String) : List String := (linesOf text.toList).map String.ofList

/-- What was written line by line is found again, with nothing behind the last line feed. -/
theorem split_flatMap {sep : Char} {parts : List (List Char)} (h : ∀ part ∈ parts, sep ∉ part) :
    split sep (parts.flatMap (· ++ [sep])) = parts ++ [[]] := by
  induction parts with
  | nil => rfl
  | cons part parts ih =>
    rw [List.flatMap_cons, List.append_assoc, List.singleton_append, split_append_cons _ (h part (by simp)),
      ih fun q hq => h q (by simp [hq]), List.cons_append]

end Logbook.Text
