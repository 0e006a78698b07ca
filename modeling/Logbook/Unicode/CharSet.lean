/-!
# Sets of characters

A `CharSet` is a list of closed ranges of code points.  Membership (`contains`) reads the list as it
stands; the algebra (`union`, `inter`, `diff`, `symmDiff`, `compl`) works on the list in normal form:
increasing, disjoint and with a gap between neighbours.

`decode` reads the compact form in which the large tables of this library are written.
-/

namespace Logbook

/-- A set of code points, as closed ranges. -/
structure CharSet where
  ranges : List (Nat × Nat)
deriving DecidableEq, Inhabited

namespace CharSet

/-- The largest code point. -/
def maxPoint : Nat := 0x10FFFF

def empty : CharSet := ⟨[]⟩

/-- Every code point. -/
def full : CharSet := ⟨[(0, maxPoint)]⟩

def singleton (c : Char) : CharSet := ⟨[(c.toNat, c.toNat)]⟩

def range (lo hi : Nat) : CharSet := ⟨[(lo, hi)]⟩

/-- The points listed, each by itself. -/
def ofPoints (points : List Nat) : CharSet := ⟨points.map fun n => (n, n)⟩

def containsPoint (s : CharSet) (n : Nat) : Bool :=
  s.ranges.any fun r => decide (r.1 ≤ n) && decide (n ≤ r.2)

def contains (s : CharSet) (c : Char) : Bool := s.containsPoint c.toNat

/-- Merge neighbours of a list of ranges sorted by their lower ends. -/
def mergeSorted : List (Nat × Nat) → List (Nat × Nat)
  | [] => []
  | r :: rest => coalesce r rest
where
  /-- `coalesce r rest` extends `r` by the ranges of `rest` that touch it. -/
  coalesce (r : Nat × Nat) : List (Nat × Nat) → List (Nat × Nat)
    | [] => [r]
    | q :: rest =>
      if q.1 ≤ r.2 + 1 then coalesce (r.1, max r.2 q.2) rest else r :: coalesce q rest

/-- Put a range in front of the first one that does not start below it. -/
def insertRange (r : Nat × Nat) : List (Nat × Nat) → List (Nat × Nat)
  | [] => [r]
  | q :: rest => if r.1 ≤ q.1 then r :: q :: rest else q :: insertRange r rest

/-- The ranges in increasing order, overlapping and adjacent ones merged. -/
def normalize (s : CharSet) : CharSet :=
  ⟨mergeSorted ((s.ranges.filter fun r => decide (r.1 ≤ r.2)).foldr insertRange [])⟩

def union (s t : CharSet) : CharSet := normalize ⟨s.ranges ++ t.ranges⟩

/-- The gaps of a list in normal form, from `start` up to the largest code point. -/
def gaps (start : Nat) : List (Nat × Nat) → List (Nat × Nat)
  | [] => if start ≤ maxPoint then [(start, maxPoint)] else []
  | r :: rest =>
    if start < r.1 then (start, r.1 - 1) :: gaps (r.2 + 1) rest else gaps (r.2 + 1) rest

/-- The points outside the set. -/
def compl (s : CharSet) : CharSet := ⟨gaps 0 s.normalize.ranges⟩

def inter (s t : CharSet) : CharSet := (s.compl.union t.compl).compl

def diff (s t : CharSet) : CharSet := s.inter t.compl

def symmDiff (s t : CharSet) : CharSet := (s.union t).diff (s.inter t)

/-- No point lies above `n`. -/
def below (n : Nat) (s : CharSet) : Bool := s.ranges.all fun r => decide (r.2 ≤ n)

/-- The value of a digit in base 36: `0` to `9`, then `a` to `z`. -/
def digitValue (c : Char) : Nat :=
  if c.toNat ≤ 57 then c.toNat - 48 else c.toNat - 87

/-- The numbers of a line: base 36, blanks between them. -/
def numbers (line : String) : List Nat :=
  let finish (acc : List Nat × Option Nat) : List Nat :=
    match acc.2 with
    | some n => n :: acc.1
    | none => acc.1
  (finish (line.toList.foldl
    (fun acc c =>
      if c = ' ' then (finish acc, none)
      else (acc.1, some ((acc.2.getD 0) * 36 + digitValue c)))
    ([], none))).reverse

/-- Read gap and width of one range after another, the gap counted from the end of the range before. -/
def fromGaps (start : Nat) : List Nat → List (Nat × Nat)
  | gap :: width :: rest => (start + gap, start + gap + width) :: fromGaps (start + gap + width + 1) rest
  | _ => []

/-- The set written in the compact form: for each range the gap before it and its width less one. -/
def decode (lines : List String) : CharSet := ⟨fromGaps 0 (lines.flatMap numbers)⟩

/-- What lies in the ranges of two lists lies in one of them. -/
theorem containsPoint_append (l m : List (Nat × Nat)) (n : Nat) :
    (CharSet.mk (l ++ m)).containsPoint n
      = ((CharSet.mk l).containsPoint n || (CharSet.mk m).containsPoint n) := by
  simp [containsPoint, List.any_append]

end CharSet

end Logbook
