import Logbook.Regex.Basic

/-!
# Size of an expression

How large a machine for an expression is, in bytes.  Repetitions are written out.  A set beyond ASCII takes a state
for each step through the bytes of its characters in UTF-8: `CharSet.byteRuns` cuts the set into runs of byte
sequences in which every byte goes through a range of its own, and runs that start alike share states.  A group that
is numbered takes two states more in each copy, which mark where it begins and ends.  `Regex.isFeasible` sets the limit.
-/

namespace Logbook

namespace CharSet

/-- What each byte of a sequence goes through, less its marking. -/
abbrev ByteRun := List (Nat × Nat)

/-- The runs from one point to another, both with `n` bytes behind the first. -/
def runsBetween : (n lo hi : Nat) → List ByteRun
  | 0, lo, hi => [[(lo, hi)]]
  | n + 1, lo, hi =>
    let w := Nat.pow 64 (n + 1)
    let a := lo / w
    let b := hi / w
    let x := lo % w
    let y := hi % w
    if a = b then (runsBetween n x y).map ((a, a) :: ·)
    else
      let first := if x = 0 then [] else (runsBetween n x (w - 1)).map ((a, a) :: ·)
      let last := if y = w - 1 then [] else (runsBetween n 0 y).map ((b, b) :: ·)
      let c := if x = 0 then a else a + 1
      let d := if y = w - 1 then b + 1 else b
      let middle := if c < d then [(c, d - 1) :: List.replicate (n + 1) (0, 63)] else []
      first ++ middle ++ last

/-- The characters with so many bytes behind the first, from where to where. -/
def byteBlocks : List (Nat × Nat × Nat) :=
  [(0, 0, 0x7F), (1, 0x80, 0x7FF), (2, 0x800, 0xD7FF), (2, 0xE000, 0xFFFF), (3, 0x10000, 0x10FFFF)]

/-- The runs of a set, in order. -/
def byteRuns (s : CharSet) : List ByteRun :=
  s.ranges.flatMap fun r => byteBlocks.flatMap fun (n, lo, hi) =>
    let lo := max r.1 lo
    let hi := min r.2 hi
    if lo ≤ hi then runsBetween n lo hi else []

/-- How many steps two lists have in common at the front. -/
def commonFront : ByteRun → ByteRun → Nat
  | a :: as, b :: bs => if a = b then commonFront as bs + 1 else 0
  | _, _ => 0

/-- The steps of some runs, those shared with the run before counted once. -/
def steps (before : ByteRun) : List ByteRun → Nat
  | [] => 0
  | r :: rest => (r.length - if r.length = before.length then commonFront before r else 0) + steps r rest

/-- How many bytes a character has. -/
def bytesOf (n : Nat) : Nat := if n < 0x80 then 1 else if n < 0x800 then 2 else if n < 0x10000 then 3 else 4

/-- The size of a machine that reads one character of the set. -/
def size (s : CharSet) : Nat :=
  let general := if s.below 127 then 2 * 32 + 8 * s.ranges.length
    else 32 * (2 + steps [] s.byteRuns) + 4 * s.byteRuns.length
  match s.ranges with
  | [(lo, hi)] => if lo = hi then 32 * bytesOf lo else general
  | _ => general

end CharSet

namespace Regex

/-- The size of a machine for the expression: 32 bytes a state, and four for each way out of a choice. -/
def size : Regex → Nat
  | empty => 32
  | set s => s.size
  | look .. => 32
  | seq a b => a.size + b.size
  | alt a b => a.size + b.size + 72
  | rep body min max _ =>
    match max with
    | none => body.size * Nat.max min 1 + 40
    | some m => body.size * min + (body.size + 40) * (m - min) + 32

/-- How often a repetition holds its body; without width once is enough. -/
def copies (body : Regex) (min : Nat) (max : Option Nat) : Nat :=
  if body.isWidthless then Nat.min (max.getD 1) 1 else max.getD (Nat.max min 1)

/-- Ten mebibytes. -/
def sizeLimit : Nat := 10 * 1024 * 1024

/-- The expression is small enough to be used, with so many states that mark groups. -/
def isFeasible (r : Regex) (marks : Nat) : Bool := decide (r.size + 32 * marks ≤ sizeLimit)

end Regex

end Logbook
