import Logbook.Regex.Basic

/-!
# Matching

`Regex.ends r t i` lists the places where a match of `r` that starts at place `i` of the text `t` can end, in the
order of preference and each once.  A match in a text is the leftmost, and of those the most preferred
(`find?`).  `replaceAll?` replaces all matches that do not overlap; it gives nothing when there is none.

A repetition goes on only from places it has not tried yet, so it ends even when its body matches the
empty text.
-/

namespace Logbook.Regex

/-- A text whose characters are looked up by place. -/
abbrev Subject := Array Char

/-- The character before a place. -/
def before? (t : Subject) (i : Nat) : Option Char := if i = 0 then none else t[i - 1]?

/-- Whether a condition holds at a place. -/
def holds (l : Look) (word : CharSet) (t : Subject) (i : Nat) : Bool :=
  let prev := before? t i
  let next := t[i]?
  let wordBefore := prev.any word.contains
  let wordAfter := next.any word.contains
  match l with
  | .textStart => i = 0
  | .textEnd => i = t.size
  | .lineStart => i = 0 || prev = some '\n'
  | .lineEnd => i = t.size || next = some '\n'
  | .lineStartAny => i = 0 || prev = some '\n' || (prev = some '\r' && next ≠ some '\n')
  | .lineEndAny => i = t.size || next = some '\r' || (next = some '\n' && prev ≠ some '\r')
  | .wordBoundary => wordBefore != wordAfter
  | .notWordBoundary => wordBefore == wordAfter
  | .wordStart => !wordBefore && wordAfter
  | .wordEnd => wordBefore && !wordAfter
  | .wordStartHalf => !wordBefore
  | .wordEndHalf => !wordAfter

/-- Whether a number is in a set of numbers, kept as the bits of one number. -/
def isMarked (marks n : Nat) : Bool := marks.testBit n

def mark (marks n : Nat) : Nat := marks ||| (1 <<< n)

/-- The first occurrence of each number, without those that are marked. -/
def unmarked (marks : Nat) : List Nat → List Nat
  | [] => []
  | n :: rest => if isMarked marks n then unmarked marks rest else n :: unmarked (mark marks n) rest

/-- The first occurrence of each number. -/
def firsts : List Nat → List Nat
  | [] => []
  | [n] => [n]
  | ns => unmarked 0 ns

/-- Places reached while a repetition is explored: marks on those tried, and the ends found, last first. -/
structure Trail where
  marks : Nat
  ends : List Nat

/-- Take steps one after another. -/
def followed (step : Nat → List Nat) (ends : List Nat) : List Nat := firsts (ends.flatMap step)

/-- Exactly `n` steps. -/
def exactly (step : Nat → List Nat) : Nat → List Nat → List Nat
  | 0, ends => ends
  | n + 1, ends =>
    match ends with
    | [] => []
    | ends => exactly step n (followed step ends)

/-- Go on from place `i`, which was reached by at least one step: try more steps first if `greedy`, and record
the place itself.  Further steps start from later places only.  The fuel bounds the distance gone. -/
def explore (step : Nat → List Nat) (greedy : Bool) : Nat → (stay : Bool) → Trail → Nat → Trail
  | 0, _, trail, _ => trail
  | fuel + 1, stay, trail, i =>
    if isMarked trail.marks i then trail
    else
      let trail : Trail := ⟨mark trail.marks i, trail.ends⟩
      let more (trail : Trail) : Trail :=
        if stay then trail
        else (step i).foldl (fun trail j => if i < j then explore step greedy fuel false trail j else trail) trail
      if greedy then
        let trail := more trail
        ⟨trail.marks, i :: trail.ends⟩
      else more ⟨trail.marks, i :: trail.ends⟩

/-- One step or more. -/
def oneOrMore (step : Nat → List Nat) (greedy : Bool) (size i : Nat) : List Nat :=
  let trail := (step i).foldl
    (fun trail j => explore step greedy (size + 1) (j = i) trail j) (⟨0, []⟩ : Trail)
  trail.ends.reverse

/-- At most `n` steps from place `i`.  The marks are on pairs of steps left and place. -/
def upToFrom (step : Nat → List Nat) (greedy : Bool) (size : Nat) : Nat → Trail → Nat → Trail
  | 0, trail, i => ⟨trail.marks, i :: trail.ends⟩
  | n + 1, trail, i =>
    let key := n * (size + 1) + i
    if isMarked trail.marks key then trail
    else
      let trail : Trail := ⟨mark trail.marks key, trail.ends⟩
      let more (trail : Trail) : Trail := (step i).foldl (upToFrom step greedy size n) trail
      if greedy then
        let trail := more trail
        ⟨trail.marks, i :: trail.ends⟩
      else more ⟨trail.marks, i :: trail.ends⟩

/-- At most `n` steps. -/
def upTo (step : Nat → List Nat) (greedy : Bool) (size n i : Nat) : List Nat :=
  firsts (upToFrom step greedy size n ⟨0, []⟩ i).ends.reverse

/-- From `min` to `max` steps. -/
def repeatedly (step : Nat → List Nat) (min : Nat) (max : Option Nat) (greedy : Bool) (size i : Nat) :
    List Nat :=
  match max with
  | some m => followed (upTo step greedy size (m - min)) (exactly step min [i])
  | none =>
    match min with
    | 0 =>
      let more := oneOrMore step greedy size i
      firsts (if greedy then more ++ [i] else i :: more)
    | n + 1 => followed (oneOrMore step greedy size) (exactly step n [i])

/-- Where matches that start at place `i` can end, the preferred place first. -/
def ends (t : Subject) : Regex → Nat → List Nat
  | empty, i => [i]
  | set s, i =>
    match t[i]? with
    | some c => if s.contains c then [i + 1] else []
    | none => []
  | look l word, i => if holds l word t i then [i] else []
  | seq a b, i => followed (ends t b) (ends t a i)
  | alt a b, i => firsts (ends t a i ++ ends t b i)
  | rep body min max greedy, i => repeatedly (ends t body) min max greedy t.size i

/-- The end of the preferred match that starts at a place. -/
def endAt? (r : Regex) (t : Subject) (i : Nat) : Option Nat := (ends t r i).head?

/-- The leftmost match among the next `count` starts. -/
def findWithin (r : Regex) (t : Subject) : (count start : Nat) → Option (Nat × Nat)
  | 0, _ => none
  | count + 1, start =>
    match r.endAt? t start with
    | some stop => some (start, stop)
    | none => findWithin r t count (start + 1)

/-- The leftmost match that starts at `start` or behind it, from where to where. -/
def find? (r : Regex) (t : Subject) (start : Nat) : Option (Nat × Nat) :=
  r.findWithin t (t.size + 1 - start) start

def isMatch (r : Regex) (t : Subject) : Bool := (r.find? t 0).isSome

/-- The matches from `start` on, none of them overlapping.  An empty match right behind the match before it
does not count: the search goes on one place further. -/
def matchesFrom (r : Regex) (t : Subject) : (fuel : Nat) → (start : Nat) → (last : Option Nat) →
    List (Nat × Nat)
  | 0, _, _ => []
  | fuel + 1, start, last =>
    match r.find? t start with
    | none => []
    | some (i, j) =>
      if i = j ∧ last = some j then
        match r.find? t (start + 1) with
        | none => []
        | some (k, l) => (k, l) :: matchesFrom r t fuel l (some l)
      else (i, j) :: matchesFrom r t fuel j (some j)

/-- All matches that do not overlap, from left to right. -/
def allMatches (r : Regex) (t : Subject) : List (Nat × Nat) := r.matchesFrom t (t.size + 2) 0 none

/-- The text with pieces cut out and a marker put in the place of each. -/
def substitute (t : Subject) (marker : List Char) (start : Nat) : List (Nat × Nat) → List Char
  | [] => (t.extract start t.size).toList
  | (i, j) :: rest => (t.extract start i).toList ++ marker ++ substitute t marker j rest

/-- Every match replaced by the marker; nothing if there is no match. -/
def replaceAll? (r : Regex) (marker : List Char) (text : List Char) : Option (List Char) :=
  let t := text.toArray
  match r.allMatches t with
  | [] => none
  | found => some (substitute t marker 0 found)

end Logbook.Regex
