import Logbook.Regex.CharClass
import Logbook.Regex.Size

/-!
# Reading regular expressions

`Regex.parse?` reads the usual notation: `.`, classes, groups, alternatives, greedy and reluctant
repetitions, conditions, and flags.  There are no back references and no look-around.  A pattern that is
malformed, nests more than `nestLimit` deep or is not feasible in size is no regular expression.

Readers take what they read off the front of the text.
-/

namespace Logbook.Regex

/-- The flags in force at a place of a pattern. -/
structure Flags where
  ignoreCase : Bool
  multiLine : Bool
  dotAll : Bool
  swapGreed : Bool
  unicode : Bool
  crlf : Bool
  extended : Bool

/-- What holds at the start of a pattern. -/
def Flags.initial : Flags := ⟨false, false, false, false, true, false, false⟩

def Flags.universe (f : Flags) : CharClass.Universe := if f.unicode then .unicode else .bytes

/-- Patterns nest no deeper than this. -/
def nestLimit : Nat := 250

/-- A part of a pattern: what it matches, how deep it nests, the names of its groups, and how many states mark where its
groups begin and end. -/
structure Piece where
  regex : Regex
  depth : Nat
  names : List String
  marks : Nat

/-- An element of a sequence: a part, or a change of flags, which matches nothing and cannot be repeated. -/
inductive Element where
  | part (p : Piece)
  | flags

/-- A character written by itself or by an escape, a class, or a condition. -/
inductive Primitive where
  | literal (c : Char)
  /-- A byte beyond ASCII. -/
  | byte (n : Nat)
  | set (s : CharSet)
  | look (l : Look)

/-! ## Blanks and comments -/

/-- In an extended pattern blanks do not count, nor does what follows `#` in a line. -/
def skipExtended (comment : Bool) : List Char → List Char
  | [] => []
  | c :: cs =>
    if comment then skipExtended (c ≠ '\n') cs
    else if Property.whiteSpace.contains c then skipExtended false cs
    else if c = '#' then skipExtended true cs
    else c :: cs

def skip (f : Flags) (cs : List Char) : List Char := if f.extended then skipExtended false cs else cs

/-! ## Escapes -/

def hexValue? (c : Char) : Option Nat :=
  if '0' ≤ c ∧ c ≤ '9' then some (c.toNat - 48)
  else if 'a' ≤ c ∧ c ≤ 'f' then some (c.toNat - 87)
  else if 'A' ≤ c ∧ c ≤ 'F' then some (c.toNat - 55)
  else none

/-- The character of a code point, if there is one. -/
def charOfPoint? (n : Nat) : Option Char := if n.isValidChar then some (Char.ofNat n) else none

/-- Exactly so many hexadecimal digits. -/
def readHexDigits (f : Flags) : Nat → Nat → List Char → Option (Nat × List Char)
  | 0, n, cs => some (n, cs)
  | _ + 1, _, [] => none
  | count + 1, n, c :: cs => do
    let d ← hexValue? c
    readHexDigits f count (n * 16 + d) (skip f cs)

/-- Hexadecimal digits up to a closing brace; the fuel bounds their number. -/
def readHexBraced (f : Flags) : Nat → Nat → List Char → Option (Nat × List Char)
  | 0, _, _ => none
  | _, _, [] => none
  | fuel + 1, n, c :: cs =>
    if c = '\x7d' then some (n, skip f cs)
    else do
      let d ← hexValue? c
      if 0x100000000 ≤ n * 16 + d then none else readHexBraced f fuel (n * 16 + d) (skip f cs)

/-- The code point behind `\x`, `\u` or `\U`, which take two, four or eight digits, or any number in braces. -/
def readHex (f : Flags) (digits : Nat) (cs : List Char) : Option (Primitive × List Char) :=
  match skip f cs with
  | '\x7b' :: cs =>
    match skip f cs with
    | '\x7d' :: _ => none
    | cs => do
      let (n, cs) ← readHexBraced f (cs.length + 1) 0 cs
      let c ← charOfPoint? n
      some (.literal c, cs)
  | cs => do
    let (n, cs) ← readHexDigits f digits 0 cs
    let c ← charOfPoint? n
    if !f.unicode && digits = 2 && 127 < n then some (.byte n, cs) else some (.literal c, cs)

/-- The text up to a closing brace. -/
def readBraced (f : Flags) : Nat → List Char → Option (List Char × List Char)
  | 0, _ => none
  | _, [] => none
  | fuel + 1, c :: cs =>
    if c = '\x7d' then some ([], cs)
    else do
      let (name, cs) ← readBraced f fuel (skip f cs)
      some (c :: name, cs)

/-- What stands before and behind the first occurrence of a word. -/
def cutAt (word : List Char) : List Char → Option (List Char × List Char)
  | [] => none
  | c :: cs =>
    if word.isPrefixOf (c :: cs) then some ([], (c :: cs).drop word.length)
    else (cutAt word cs).map fun (before, after) => (c :: before, after)

/-- The class behind `\p` or `\P`. -/
def readProperty (f : Flags) (negated : Bool) (cs : List Char) : Option (CharSet × List Char) := do
  let (found, negated, cs) ← match skip f cs with
    | [] => none
    | '\x7b' :: cs => do
      let (name, cs) ← readBraced f (cs.length + 1) (skip f cs)
      match cutAt ['!', '='] name with
      | some (name, value) => some (CharClass.valued? name value, !negated, cs)
      | none =>
        match cutAt [':'] name with
        | some (name, value) => some (CharClass.valued? name value, negated, cs)
        | none =>
          match cutAt ['='] name with
          | some (name, value) => some (CharClass.valued? name value, negated, cs)
          | none => some (CharClass.named? name, negated, cs)
    | '\\' :: _ => none
    | c :: cs => some (CharClass.named? [c], negated, skip f cs)
  let s ← found
  if !f.unicode then none
  let s := if f.ignoreCase then CharClass.foldUnicode s else s
  some (if negated then s.compl else s, cs)

/-- Characters that mean something else without a backslash. -/
def isMeta (c : Char) : Bool := "\\.+*?()|[]\x7b\x7d^$#&-~".toList.contains c

/-- Characters that may have a backslash in front though they need none: ASCII but letters, digits and angle
brackets. -/
def isEscapable (c : Char) : Bool :=
  isMeta c || (c.toNat < 128 && !c.isAlphanum && c ≠ '<' && c ≠ '>')

/-- The conditions that `\b` with a name in braces can ask for. -/
def namedBoundary? (name : String) : Option Look :=
  match name with
  | "start" => some .wordStart
  | "end" => some .wordEnd
  | "start-half" => some .wordStartHalf
  | "end-half" => some .wordEndHalf
  | _ => none

/-- The letters and hyphens of such a name, and what follows. -/
def boundaryName (f : Flags) : Nat → List Char → List Char × List Char
  | 0, cs => ([], cs)
  | _, [] => ([], [])
  | fuel + 1, c :: cs =>
    if c.isAlpha || c = '-' then
      let (name, rest) := boundaryName f fuel (skip f cs)
      (c :: name, rest)
    else ([], c :: cs)

/-- What follows `\b`: a name in braces, or nothing that belongs to it. -/
def readBoundary (f : Flags) (cs : List Char) : Option (Look × List Char) :=
  match cs with
  | '\x7b' :: rest =>
    match skip f rest with
    | [] => none
    | inner =>
      match boundaryName f inner.length inner with
      | ([], _) => some (.wordBoundary, cs)
      | (name, '\x7d' :: after) => (namedBoundary? (String.ofList name)).map fun l => (l, after)
      | _ => none
  | _ => some (.wordBoundary, cs)

/-- What follows a backslash. -/
def readEscape (f : Flags) (cs : List Char) : Option (Primitive × List Char) :=
  match cs with
  | [] => none
  | c :: cs =>
    if c.isDigit then none
    else if c = 'x' then readHex f 2 cs
    else if c = 'u' then readHex f 4 cs
    else if c = 'U' then readHex f 8 cs
    else if c = 'p' ∨ c = 'P' then (readProperty f (c = 'P') cs).map fun (s, cs) => (.set s, cs)
    else if isEscapable c then some (.literal c, cs)
    else
      match CharClass.letterClass? f.universe c.toLower with
      | some s => some (.set (if c.isLower then s else CharClass.negate f.universe s), cs)
      | none =>
        match c with
        | 'a' => some (.literal '\x07', cs)
        | 'f' => some (.literal '\x0c', cs)
        | 't' => some (.literal '\t', cs)
        | 'n' => some (.literal '\n', cs)
        | 'r' => some (.literal '\r', cs)
        | 'v' => some (.literal '\x0b', cs)
        | 'A' => some (.look .textStart, cs)
        | 'z' => some (.look .textEnd, cs)
        | 'b' => (readBoundary f cs).map fun (l, cs) => (.look l, cs)
        | 'B' => some (.look .notWordBoundary, cs)
        | '<' => some (.look .wordStart, cs)
        | '>' => some (.look .wordEnd, cs)
        | _ => none

/-! ## Classes in brackets -/

inductive ClassOp where
  | intersection | difference | symmetricDifference

/-- The operator at the front of a text, which is doubled. -/
def classOp? : List Char → Option (ClassOp × List Char)
  | '&' :: '&' :: cs => some (.intersection, cs)
  | '-' :: '-' :: cs => some (.difference, cs)
  | '~' :: '~' :: cs => some (.symmetricDifference, cs)
  | _ => none

/-- Close a set under case if the flags ask for it. -/
def foldIf (f : Flags) (s : CharSet) : CharSet :=
  if f.ignoreCase then CharClass.foldCase f.universe s else s

/-- The operator waiting on the left is applied to what was read since. -/
def applyOp (f : Flags) (pending : Option (ClassOp × CharSet)) (s : CharSet) : CharSet :=
  match pending with
  | none => s
  | some (op, left) =>
    let left := foldIf f left
    let right := foldIf f s
    match op with
    | .intersection => left.inter right
    | .difference => left.diff right
    | .symmetricDifference => left.symmDiff right

/-- An ASCII class such as `[:alpha:]`, its opening bracket read; `none` if the text is something else. -/
def asciiClass? (f : Flags) (cs : List Char) : Option (CharSet × List Char) :=
  match cs with
  | ':' :: cs =>
    let (negated, cs) := match cs with
      | '^' :: cs => (true, cs)
      | cs => (false, cs)
    match cs.dropWhile (· ≠ ':') with
    | ':' :: ']' :: rest =>
      (CharClass.ascii? (String.ofList (cs.takeWhile (· ≠ ':')))).map fun s =>
        let s := foldIf f s
        (if negated then CharClass.negate f.universe s else s, rest)
    | _ => none
  | _ => none

/-- One character or class inside brackets. -/
def readClassItem (f : Flags) (cs : List Char) : Option (Primitive × List Char) :=
  match cs with
  | [] => none
  | '\\' :: cs => readEscape f cs
  | c :: cs => some (.literal c, cs)

/-- The point a primitive stands for inside brackets, where it may be the end of a range. -/
def Primitive.point? (f : Flags) : Primitive → Option Nat
  | .literal c => if !f.unicode && 127 < c.toNat then none else some c.toNat
  | .byte n => some n
  | _ => none

/-- The set a primitive stands for inside brackets. -/
def Primitive.set? (f : Flags) (p : Primitive) : Option CharSet :=
  match p with
  | .set s => some s
  | p => (p.point? f).map fun n => CharSet.range n n

/-- A character, a class or a range inside brackets.  A hyphen before the closing bracket or another hyphen
makes no range. -/
def readClassRange (f : Flags) (cs : List Char) : Option (CharSet × List Char) := do
  let (first, cs) ← readClassItem f cs
  let cs := skip f cs
  match cs with
  | [] => none
  | '-' :: rest =>
    match skip f rest with
    | [] => none
    | ']' :: _ | '-' :: _ => do
      let s ← first.set? f
      some (s, cs)
    | rest => do
      let (last, rest) ← readClassItem f rest
      let lo ← first.point? f
      let hi ← last.point? f
      if hi < lo then none else some (.range lo hi, rest)
  | _ => do
    let s ← first.set? f
    some (s, cs)

/-- Hyphens at the front of a class stand for themselves. -/
def leadingHyphens (f : Flags) : Nat → List Char → Option (CharSet × List Char)
  | 0, cs => some (.empty, cs)
  | fuel + 1, '-' :: cs =>
    match skip f cs with
    | [] => none
    | cs => (leadingHyphens f fuel cs).map fun (_, cs) => (.singleton '-', cs)
  | _, cs => some (.empty, cs)

mutual

/-- A class whose opening bracket has been read, with how deep it nests. -/
def readClass (f : Flags) : Nat → List Char → Option (CharSet × Nat × List Char)
  | 0, _ => none
  | fuel + 1, cs => do
    let cs := skip f cs
    let (negated, cs) ← match cs with
      | [] => none
      | '^' :: cs =>
        match skip f cs with
        | [] => none
        | cs => some (true, cs)
      | cs => some (false, cs)
    let (start, cs) ← leadingHyphens f cs.length cs
    let (start, cs) ← match cs with
      | ']' :: rest =>
        if start.ranges.isEmpty then
          match skip f rest with
          | [] => none
          | rest => some (CharSet.singleton ']', rest)
        else some (start, cs)
      | _ => some (start, cs)
    let (s, depth, cs) ← readClassBody f fuel start 0 none cs
    let s := foldIf f s
    some (if negated then CharClass.negate f.universe s else s, depth + 1, cs)

/-- The rest of a class: `acc` is the union read since the last operator, `pending` that operator. -/
def readClassBody (f : Flags) : Nat → CharSet → Nat → Option (ClassOp × CharSet) → List Char →
    Option (CharSet × Nat × List Char)
  | 0, _, _, _, _ => none
  | fuel + 1, acc, depth, pending, cs =>
    let cs := skip f cs
    match classOp? cs with
    | some (op, cs) => readClassBody f fuel .empty (depth + 1) (some (op, applyOp f pending acc)) cs
    | none =>
      match cs with
      | [] => none
      | ']' :: cs => some (applyOp f pending acc, depth, cs)
      | '[' :: cs =>
        match asciiClass? f cs with
        | some (s, cs) => readClassBody f fuel (acc.union s) depth pending cs
        | none => do
          let (s, inner, cs) ← readClass f fuel cs
          readClassBody f fuel (acc.union s) (Nat.max depth inner) pending cs
      | cs => do
        let (s, cs) ← readClassRange f cs
        readClassBody f fuel (acc.union s) depth pending cs

end

/-! ## Repetitions -/

/-- A number, blanks around it allowed; nothing if there is none, failure if it is too large. -/
def readCount (f : Flags) (cs : List Char) : Option (Option Nat × List Char) :=
  let cs := cs.dropWhile Property.whiteSpace.contains
  let rec digits : Nat → List Char → List Char → List Char × List Char
    | fuel + 1, acc, c :: cs => if c.isDigit then digits fuel (c :: acc) (skip f cs) else (acc.reverse, c :: cs)
    | _, acc, cs => (acc.reverse, cs)
  let (ds, cs) := digits cs.length [] cs
  let cs := cs.dropWhile Property.whiteSpace.contains
  if ds.isEmpty then some (none, cs)
  else
    let n := ds.foldl (fun n c => n * 10 + (c.toNat - 48)) 0
    if 0x100000000 ≤ n then none else some (some n, cs)

/-- The bounds of a counted repetition, its opening brace read. -/
def readBounds (f : Flags) (cs : List Char) : Option ((Nat × Option Nat) × List Char) := do
  let cs := skip f cs
  if cs.isEmpty then none
  let (low, cs) ← readCount f cs
  let (bounds, cs) ← match cs with
    | ',' :: cs =>
      match skip f cs with
      | [] => none
      | '\x7d' :: rest => low.map fun n => ((n, none), '\x7d' :: rest)
      | cs => do
        let low ← low
        let (high, cs) ← readCount f cs
        let high ← high
        some ((low, some high), cs)
    | cs => low.map fun n => ((n, some n), cs)
  match cs with
  | '\x7d' :: cs => some (bounds, cs)
  | _ => none

/-- A question mark behind a repetition makes it reluctant. -/
def readReluctant : List Char → Bool × List Char
  | '?' :: cs => (true, cs)
  | cs => (false, cs)

/-- Repeat the last element read, which has to be a part. -/
def repeatLast (f : Flags) (min : Nat) (max : Option Nat) (reluctant : Bool) :
    List Element → Option (List Element)
  | .part p :: rest =>
    some (.part ⟨repeated p.regex min max (reluctant == f.swapGreed), p.depth + 1, p.names,
      p.marks * copies p.regex min max⟩ :: rest)
  | _ => none

/-! ## Groups and flags -/

/-- Letters of any script, and the underscore, can start the name of a group. -/
def isNameStart (c : Char) : Bool := c = '_' || Property.alphabetic.contains c

/-- Letters, numbers and some marks can go on. -/
def isNamePart (c : Char) : Bool :=
  isNameStart c || c = '.' || c = '[' || c = ']' || (Category.set Category.numbers).contains c

/-- The name of a group up to its closing angle bracket. -/
def readGroupName (cs : List Char) : Option (String × List Char) :=
  match cs.dropWhile (· ≠ '>') with
  | '>' :: rest =>
    match cs.takeWhile (· ≠ '>') with
    | [] => none
    | c :: name =>
      if isNameStart c && name.all isNamePart then some (String.ofList (c :: name), rest) else none
  | _ => none

/-- Switch the flag of a letter. -/
def Flags.switch? (f : Flags) (on : Bool) : Char → Option Flags
  | 'i' => some { f with ignoreCase := on }
  | 'm' => some { f with multiLine := on }
  | 's' => some { f with dotAll := on }
  | 'U' => some { f with swapGreed := on }
  | 'u' => some { f with unicode := on }
  | 'R' => some { f with crlf := on }
  | 'x' => some { f with extended := on }
  | _ => none

/-- Flags up to `:` or `)`, each at most once, those behind a hyphen switched off.  The hyphen comes at most
once and not last. -/
def readFlags (f : Flags) (seen : List Char) (dangling : Bool) : List Char →
    Option (Flags × Bool × List Char)
  | [] => none
  | c :: cs =>
    if c = ':' ∨ c = ')' then
      if dangling then none else some (f, seen.isEmpty, c :: cs)
    else if seen.contains c then none
    else if c = '-' then readFlags f (c :: seen) true cs
    else
      match f.switch? (!seen.contains '-') c with
      | some f => readFlags f (c :: seen) false cs
      | none => none

/-- What an opening parenthesis starts. -/
inductive Opening where
  /-- A group, under these flags and perhaps with a name; it may be numbered. -/
  | group (f : Flags) (name : List String) (isNumbered : Bool)
  /-- Nothing but a change of flags. -/
  | flags (f : Flags)

/-- Read up to the contents of a group. -/
def readOpening (f : Flags) (cs : List Char) : Option (Opening × List Char) :=
  match skip f cs with
  | '?' :: '=' :: _ | '?' :: '!' :: _ | '?' :: '<' :: '=' :: _ | '?' :: '<' :: '!' :: _ => none
  | '?' :: 'P' :: '<' :: cs => (readGroupName cs).map fun (name, cs) => (.group f [name] true, cs)
  | '?' :: '<' :: cs => (readGroupName cs).map fun (name, cs) => (.group f [name] true, cs)
  | '?' :: cs => do
    let (g, none?, cs) ← readFlags f [] false cs
    match cs with
    | ')' :: cs => if none? then none else some (.flags g, cs)
    | _ :: cs => some (.group g [] false, cs)
    | [] => none
  | cs => some (.group f [] true, cs)

/-! ## The whole pattern -/

/-- What a character matches under the flags. -/
def literalRegex (f : Flags) (c : Char) : Regex :=
  if f.ignoreCase then
    if f.unicode then set (CharClass.foldUnicode (.singleton c))
    else set (CharClass.foldAscii (.singleton c))
  else char c

/-- What a primitive matches outside of brackets.  Bytes beyond ASCII cannot be part of text. -/
def Primitive.regex? (f : Flags) : Primitive → Option Regex
  | .literal c => some (literalRegex f c)
  | .byte _ => none
  | .set s => if f.unicode || s.below 127 then some (Regex.set s) else none
  | .look l => some (Regex.look l (CharClass.words f.universe))

/-- What `.` matches: all but line ends, or all. -/
def dotRegex? (f : Flags) : Option Regex :=
  if !f.unicode then none
  else if f.dotAll then some (set .full)
  else if f.crlf then some (set (CharSet.compl (.ofPoints [10, 13])))
  else some (set (CharSet.compl (.ofPoints [10])))

/-- What `^` and `$` match. -/
def lineRegex (f : Flags) (start : Bool) : Regex :=
  let l : Look :=
    match start, f.multiLine, f.crlf with
    | true, false, _ => .textStart
    | true, true, false => .lineStart
    | true, true, true => .lineStartAny
    | false, false, _ => .textEnd
    | false, true, false => .lineEnd
    | false, true, true => .lineEndAny
  look l (CharClass.words f.universe)

def Element.depth : Element → Nat
  | .part p => p.depth
  | .flags => 0

def Element.regex? : Element → Option Regex
  | .part p => some p.regex
  | .flags => none

def Element.names : Element → List String
  | .part p => p.names
  | .flags => []

def Element.marks : Element → Nat
  | .part p => p.marks
  | .flags => 0

/-- The elements of a sequence, last first, as one part. -/
def sequence (elements : List Element) : Piece :=
  let elements := elements.reverse
  let deepest := (elements.map Element.depth).foldl Nat.max 0
  ⟨seqAll (elements.filterMap Element.regex?),
    if elements.length ≤ 1 then deepest else deepest + 1,
    elements.flatMap Element.names, (elements.map Element.marks).foldl Nat.add 0⟩

/-- Alternatives, last first, as one part. -/
def alternatives (branches : List Piece) : Piece :=
  match branches.reverse with
  | [p] => p
  | ps => ⟨altAll (ps.map (·.regex)), (ps.map (·.depth)).foldl Nat.max 0 + 1, ps.flatMap (·.names),
    (ps.map (·.marks)).foldl Nat.add 0⟩

mutual

/-- Alternatives up to a closing parenthesis or the end; `branches` holds those read, last first. -/
def readAlternatives : Nat → Flags → List Piece → List Char → Option (Piece × List Char)
  | 0, _, _, _ => none
  | fuel + 1, f, branches, cs => do
    let (elements, f, cs) ← readSequence fuel f [] cs
    let branches := sequence elements :: branches
    match cs with
    | '|' :: cs => readAlternatives fuel f branches cs
    | cs => some (alternatives branches, cs)

/-- Elements up to `|`, `)` or the end; `acc` holds those read, last first.  The flags change on the way. -/
def readSequence : Nat → Flags → List Element → List Char →
    Option (List Element × Flags × List Char)
  | 0, _, _, _ => none
  | fuel + 1, f, acc, cs =>
    match skip f cs with
    | [] => some (acc, f, [])
    | '|' :: cs => some (acc, f, '|' :: cs)
    | ')' :: cs => some (acc, f, ')' :: cs)
    | '(' :: cs => do
      let (opening, cs) ← readOpening f cs
      match opening with
      | .flags f => readSequence fuel f (.flags :: acc) cs
      | .group g names isNumbered =>
        let (p, cs) ← readAlternatives fuel g [] cs
        match cs with
        | ')' :: cs =>
          let marks := if isNumbered then p.marks + 2 else p.marks
          readSequence fuel f (.part ⟨p.regex, p.depth + 1, names ++ p.names, marks⟩ :: acc) cs
        | _ => none
    | '[' :: cs => do
      let (s, depth, cs) ← readClass f fuel cs
      let r ← (Primitive.set s).regex? f
      readSequence fuel f (.part ⟨r, depth, [], 0⟩ :: acc) cs
    | '?' :: cs => do
      let (reluctant, cs) := readReluctant cs
      let acc ← repeatLast f 0 (some 1) reluctant acc
      readSequence fuel f acc cs
    | '*' :: cs => do
      let (reluctant, cs) := readReluctant cs
      let acc ← repeatLast f 0 none reluctant acc
      readSequence fuel f acc cs
    | '+' :: cs => do
      let (reluctant, cs) := readReluctant cs
      let acc ← repeatLast f 1 none reluctant acc
      readSequence fuel f acc cs
    | '\x7b' :: cs => do
      let ((min, max), cs) ← readBounds f cs
      let (reluctant, cs) := readReluctant (skip f cs)
      if max.any (· < min) then none
      let acc ← repeatLast f min max reluctant acc
      readSequence fuel f acc cs
    | '.' :: cs => do
      let r ← dotRegex? f
      readSequence fuel f (.part ⟨r, 0, [], 0⟩ :: acc) cs
    | '^' :: cs => readSequence fuel f (.part ⟨lineRegex f true, 0, [], 0⟩ :: acc) cs
    | '$' :: cs => readSequence fuel f (.part ⟨lineRegex f false, 0, [], 0⟩ :: acc) cs
    | '\\' :: cs => do
      let (p, cs) ← readEscape f cs
      let r ← p.regex? f
      readSequence fuel f (.part ⟨r, 0, [], 0⟩ :: acc) cs
    | c :: cs => readSequence fuel f (.part ⟨literalRegex f c, 0, [], 0⟩ :: acc) cs

end

/-- The regular expression of a pattern. -/
def parse? (pattern : String) : Option Regex := do
  let cs := pattern.toList
  let (p, rest) ← readAlternatives (3 * cs.length + 3) .initial [] cs
  if rest.isEmpty && p.depth ≤ nestLimit && p.names.eraseDups.length = p.names.length
      && p.regex.isFeasible p.marks then some p.regex
  else none

end Logbook.Regex
