import Logbook.Json.Reader

/-!
# Reading JSON of a known shape

These readers take texts, variants and structures straight off a text and report the first fault they meet.
JSON of another kind than the one wanted is a mismatch.  A structure is an object, in which fields may be missing
and unknown ones are skipped, or an array of its fields in order, in which the last ones may be missing.
-/

namespace Logbook.Json

/-- A value of the wrong kind comes next.  A scalar is read first and may turn out to be malformed. -/
def refuse {α : Type} : Reader α := fun cs =>
  match cs with
  | [] => .error .malformed
  | 'n' :: cs => do
    let _ ← readWord "ull".toList cs
    .error .mismatch
  | 't' :: cs => do
    let _ ← readWord "rue".toList cs
    .error .mismatch
  | 'f' :: cs => do
    let _ ← readWord "alse".toList cs
    .error .mismatch
  | '"' :: cs => do
    let _ ← readStringBody cs
    .error .mismatch
  | '-' :: cs => do
    let _ ← readNumber true cs
    .error .mismatch
  | '[' :: _ => .error .mismatch
  | '\x7b' :: _ => .error .mismatch
  | c :: cs =>
    if c.isDigit then do
      let _ ← readNumber false (c :: cs)
      .error .mismatch
    else .error .malformed

/-- A string. -/
def readText : Reader String := fun cs =>
  match skipBlanks cs with
  | [] => .error .cutShort
  | '"' :: cs => readStringBody cs
  | cs => refuse cs

/-- Null. -/
def readNull : Reader Unit := fun cs =>
  match skipBlanks cs with
  | [] => .error .cutShort
  | 'n' :: cs => readWord "ull".toList cs
  | cs => refuse cs

/-! ## Skipping -/

/-- Digits where at least one has to be. -/
def skipDigits : Reader Unit := fun cs =>
  match takeDigits cs with
  | ([], _) => .error .malformed
  | (_, rest) => .ok ((), rest)

/-- An exponent if there is one. -/
def skipExponent : Reader Unit := fun cs =>
  let afterSign (cs : List Char) : Except ReadError (Unit × List Char) :=
    match cs with
    | '+' :: cs => skipDigits cs
    | '-' :: cs => skipDigits cs
    | cs => skipDigits cs
  match cs with
  | 'e' :: cs => afterSign cs
  | 'E' :: cs => afterSign cs
  | cs => .ok ((), cs)

/-- A number after its sign, of any size. -/
def skipNumber : Reader Unit := fun cs =>
  match takeDigits cs with
  | ([], _) => .error .malformed
  | ('0' :: _ :: _, _) => .error .malformed
  | (_, '.' :: rest) => do
    let (_, rest) ← skipDigits rest
    skipExponent rest
  | (_, rest) => skipExponent rest

/-- The rest of a string; its surrogates need not be paired.  The fuel bounds the characters. -/
def skipChars : Nat → Reader Unit
  | 0, _ => .error .cutShort
  | _ + 1, [] => .error .cutShort
  | _ + 1, '"' :: cs => .ok ((), cs)
  | fuel + 1, '\\' :: cs =>
    match cs with
    | [] => .error .cutShort
    | 'u' :: cs => do
      let (_, cs) ← readHex cs
      skipChars fuel cs
    | e :: cs => if (shortEscape? e).isSome then skipChars fuel cs else .error .malformed
  | fuel + 1, c :: cs => if c.toNat < 32 then .error .malformed else skipChars fuel cs

mutual

/-- A value of any kind and depth. -/
def skipValue : Nat → Reader Unit
  | 0, _ => .error .malformed
  | fuel + 1, cs =>
    match skipBlanks cs with
    | [] => .error .cutShort
    | 'n' :: cs => readWord "ull".toList cs
    | 't' :: cs => readWord "rue".toList cs
    | 'f' :: cs => readWord "alse".toList cs
    | '"' :: cs => skipChars (cs.length + 1) cs
    | '-' :: cs => skipNumber cs
    | '[' :: cs => skipItems fuel true cs
    | '\x7b' :: cs => skipMembers fuel true cs
    | c :: cs => if c.isDigit then skipNumber (c :: cs) else .error .malformed

def skipItems : Nat → Bool → Reader Unit
  | 0, _, _ => .error .malformed
  | fuel + 1, first, cs => do
    let (more, cs) ← readSeparator ']' first cs
    if more then
      let (_, cs) ← skipValue fuel cs
      skipItems fuel false cs
    else .ok ((), cs)

def skipMembers : Nat → Bool → Reader Unit
  | 0, _, _ => .error .malformed
  | fuel + 1, first, cs => do
    let (more, cs) ← readSeparator '\x7d' first cs
    if more then
      match cs with
      | '"' :: cs =>
        let (_, cs) ← skipChars (cs.length + 1) cs
        let (_, cs) ← readColon cs
        let (_, cs) ← skipValue fuel cs
        skipMembers fuel false cs
      | _ => .error .malformed
    else .ok ((), cs)

end

/-! ## Variants -/

/-- What a name in an enumeration stands for. -/
inductive Variant (α : Type) where
  | plain (a : α)
  /-- The variant has a content of its own. -/
  | holding (read : Reader α)

/-- A variant: its name, or an object with its name as the only key, holding null or the content. -/
def readVariant {α : Type} (variant? : String → Option (Variant α)) : Reader α := fun cs =>
  match skipBlanks cs with
  | [] => .error .cutShort
  | '"' :: cs => do
    let (name, cs) ← readStringBody cs
    match variant? name with
    | some (.plain a) => .ok (a, cs)
    | _ => .error .mismatch
  | '\x7b' :: cs => do
    let (name, cs) ← readText cs
    match variant? name with
    | none => .error .mismatch
    | some v =>
      let (_, cs) ← readColon cs
      let (a, cs) ← match v with
        | .plain a => do
          let (_, cs) ← readNull cs
          Except.ok (a, cs)
        | .holding read => read cs
      match skipBlanks cs with
      | [] => .error .cutShort
      | '\x7d' :: cs => .ok (a, cs)
      | _ => .error .malformed
  | _ => .error .malformed

/-! ## Lists and structures -/

/-- The items of a list up to the closing bracket, `acc` holding those before, in reverse. -/
def readListItems {α : Type} (read : Reader α) : Nat → List α → Reader (List α)
  | 0, _, _ => .error .malformed
  | fuel + 1, acc, cs => do
    let (more, cs) ← readSeparator ']' acc.isEmpty cs
    if more then
      let (a, cs) ← read cs
      readListItems read fuel (a :: acc) cs
    else .ok (acc.reverse, cs)

def readList {α : Type} (read : Reader α) : Reader (List α) := fun cs =>
  match skipBlanks cs with
  | [] => .error .cutShort
  | '[' :: cs => readListItems read (fuelFor cs) [] cs
  | cs => refuse cs

/-- A field of a structure: its key, and how to read it into the structure. -/
structure Field (α : Type) where
  key : String
  read : α → Reader α

/-- The fields of a structure in order; the last ones may be missing, more are not allowed. -/
def readPositional {α : Type} (a : α) (first : Bool) : List (Field α) → Reader α
  | [], cs =>
    match skipBlanks cs with
    | [] => .error .cutShort
    | ']' :: cs => .ok (a, cs)
    | _ => .error .malformed
  | f :: fields, cs => do
    let (more, cs) ← readSeparator ']' first cs
    if more then
      let (a, cs) ← f.read a cs
      readPositional a false fields cs
    else .ok (a, cs)

/-- The members of a structure; `seen` holds the keys read, and no key may come twice. -/
def readNamed {α : Type} (fields : List (Field α)) : Nat → List String → Bool → α → Reader α
  | 0, _, _, _, _ => .error .malformed
  | fuel + 1, seen, first, a, cs => do
    let (more, cs) ← readSeparator '\x7d' first cs
    if more then
      let (key, cs) ← readKeyText cs
      match fields.find? (·.key = key) with
      | some f =>
        if seen.contains key then .error .mismatch
        else
          let (_, cs) ← readColon cs
          let (a, cs) ← f.read a cs
          readNamed fields fuel (key :: seen) false a cs
      | none =>
        let (_, cs) ← readColon cs
        let (_, cs) ← skipValue (fuelFor cs) cs
        readNamed fields fuel seen false a cs
    else .ok (a, cs)

/-- A structure, missing fields being those of `a`. -/
def readStructure {α : Type} (fields : List (Field α)) (a : α) : Reader α := fun cs =>
  match skipBlanks cs with
  | [] => .error .cutShort
  | '[' :: cs => readPositional a true fields cs
  | '\x7b' :: cs => readNamed fields (fuelFor cs) [] true a cs
  | cs => refuse cs

/-- Read a whole text. -/
def readAll {α : Type} (read : Reader α) (text : String) : Except ReadError α := finish (read text.toList)

end Logbook.Json
