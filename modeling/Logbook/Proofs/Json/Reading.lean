import Logbook.Proofs.Json.Number

/-!
# Reading JSON back

What `Json.render` writes `Json.parse` reads back, provided that the containers do not nest too deeply for the reader
and that the numbers read back.  Strings need no proviso: every character that is escaped is escaped in a way that is
read as the character.  Each part of the text is read in front of what follows it, so the proof goes along the value.
A double that is read as another one does no harm: the value is the same but for its doubles (`mapReals`).

## Key results

- `readStringBody_escaped`: strings read back
- `readValue_renderBefore`: a value is read in front of anything that may follow it
- `parse_render_eq_mapReals`: a value is read from its own text
- `parse_render_eq_ok`: a value reads back from its own text
-/

namespace Logbook

/-- Inserting the fields of a map in their order adds them all to it. -/
theorem Fields.find?_foldl_insert {α : Type} : {b : Option String} → (f : Fields α b) → (acc : Fields α none) →
    (key : String) → (f.toList.foldl (fun f e => f.insert e.1 e.2) acc).find? key = (f.find? key).or (acc.find? key)
  | _, .nil, acc, key => by simp [toList]
  | _, .cons k v h rest, acc, key => by
    rw [toList, List.foldl_cons, find?_foldl_insert rest, find?_insert, find?_cons]
    by_cases hk : key = k
    · -- the rest lies above the first key, so nothing there replaces its value
      have hrest : rest.find? key = none := by
        rw [hk]
        exact find?_eq_none_of_not_above (b := some k) (String.lt_irrefl k)
      rw [if_pos hk, if_pos hk, hrest]
      rfl
    · rw [if_neg hk, if_neg hk]

/-- Inserting the entries of a map one after another gives the map. -/
theorem Fields.foldl_insert_toList {α : Type} (f : Fields α none) :
    f.toList.foldl (fun f e => f.insert e.1 e.2) .nil = f :=
  Fields.ext fun key => by rw [find?_foldl_insert, find?_nil, Option.or_none]

namespace Json

/-! ## Strings -/

/-- A digit is read as what it stands for. -/
theorem hexValue?_digitChar : ∀ d < 16, hexValue? (Nat.digitChar d) = some d := by
  decide

/-- Four digits are read as their value, whatever bytes follow. -/
theorem readHex_of_hexValue? {a b c d : Char} {i j k l : Nat} (ha : hexValue? a = some i) (hb : hexValue? b = some j)
    (hc : hexValue? c = some k) (hd : hexValue? d = some l) (cs : List Char) :
    readHex (a :: b :: c :: d :: cs) = .ok (((i * 16 + j) * 16 + k) * 16 + l, cs) := by
  -- four characters have four bytes at least
  have hbytes : ¬ byteLength ((a :: b :: c :: d :: cs).take 4) < 4 := by
    show ¬ 0 + a.utf8Size + b.utf8Size + c.utf8Size + d.utf8Size < 4
    have := a.utf8Size_pos
    have := b.utf8Size_pos
    have := c.utf8Size_pos
    have := d.utf8Size_pos
    omega
  rw [readHex, if_neg hbytes]
  simp only [ha, hb, hc, hd]

/-- The escape of a character below the blank by its number. -/
theorem readUnicode_escape {c : Char} (hc : c.toNat < 32) (cs : List Char) :
    readUnicode ('0' :: '0' :: (if c.toNat < 16 then '0' else '1') :: Nat.digitChar (c.toNat % 16) :: cs)
      = .ok (c, cs) := by
  -- below 32 the first of the two digits is 0 or 1
  have hhigh : hexValue? (if c.toNat < 16 then '0' else '1') = some (c.toNat / 16) := by
    split
    next h => rw [Nat.div_eq_of_lt h]; rfl
    next h => rw [show c.toNat / 16 = 1 by omega]; rfl
  have hzero : hexValue? '0' = some 0 := rfl
  have hhex := readHex_of_hexValue? hzero hzero hhigh (hexValue?_digitChar _ (Nat.mod_lt c.toNat (by decide))) cs
  have hvalue : ((0 * 16 + 0) * 16 + c.toNat / 16) * 16 + c.toNat % 16 = c.toNat := by omega
  have hlow : isLowSurrogate c.toNat = false := by simp [isLowSurrogate]; omega
  have hsurrogate : isHighSurrogate c.toNat = false := by simp [isHighSurrogate]; omega
  rw [hvalue] at hhex
  rw [readUnicode, bind_of_ok hhex]
  show (if isLowSurrogate c.toNat then Except.error ReadError.malformed
    else if isHighSurrogate c.toNat then _ else Except.ok (Char.ofNat c.toNat, cs)) = _
  rw [hlow, hsurrogate, Char.ofNat_toNat]
  rfl

/-- One character of a string is read as it was written. -/
theorem readChars_escapeChar (c : Char) (fuel : Nat) (acc cs : List Char) :
    readChars (fuel + 1) acc (escapeChar c ++ cs) = readChars fuel (c :: acc) cs := by
  unfold escapeChar
  -- seven characters have an escape of one letter
  iterate 7
    split
    next h => rw [h]; rfl
  split
  next hlow => exact bind_of_ok (readUnicode_escape hlow cs) _
  next hquote hslash _ _ _ _ _ hlow =>
    -- no other character is escaped, and the reader takes it as it is
    show readChars (fuel + 1) acc (c :: cs) = _
    rw [readChars]
    · rw [if_neg hlow]
    · simpa using hquote
    · simpa using hslash

/-- An escaped text is read up to its closing quote. -/
theorem readChars_flatMap (s : List Char) (fuel : Nat) (acc rest : List Char) (hfuel : s.length < fuel) :
    readChars fuel acc (s.flatMap escapeChar ++ '"' :: rest) = .ok (acc.reverse ++ s, rest) := by
  -- one step for each character, and one for the closing quote
  induction s generalizing fuel acc with
  | nil =>
    obtain ⟨fuel, rfl⟩ := Nat.exists_eq_add_one_of_ne_zero (Nat.ne_of_gt hfuel)
    rw [List.append_nil]
    rfl
  | cons c s ih =>
    obtain ⟨fuel, rfl⟩ := Nat.exists_eq_add_one_of_ne_zero (Nat.ne_zero_of_lt hfuel)
    rw [List.flatMap_cons, List.append_assoc, readChars_escapeChar, ih fuel (c :: acc) (Nat.lt_of_succ_lt_succ hfuel),
      List.reverse_cons, List.append_assoc, List.singleton_append]

/-- Escaping shortens nothing. -/
theorem length_le_length_flatMap_escapeChar (s : List Char) : s.length ≤ (s.flatMap escapeChar).length := by
  have hone : ∀ c, 1 ≤ (escapeChar c).length := by
    intro c
    unfold escapeChar
    repeat' split
    all_goals exact Nat.le_add_left 1 _
  induction s with
  | nil => exact Nat.le_refl 0
  | cons c s ih =>
    rw [List.flatMap_cons, List.length_append, List.length_cons]
    have := hone c
    omega

/-- A string reads back, behind its opening quote. -/
theorem readStringBody_escaped (s : String) (rest : List Char) :
    readStringBody (s.toList.flatMap escapeChar ++ '"' :: rest) = .ok (s, rest) := by
  -- an escaped character is no shorter than itself, so the text has enough steps
  have hfuel : s.toList.length < (s.toList.flatMap escapeChar ++ '"' :: rest).length + 1 := by
    have := length_le_length_flatMap_escapeChar s.toList
    rw [List.length_append]
    omega
  rw [readStringBody, bind_of_ok (readChars_flatMap s.toList _ [] rest hfuel)]
  show Except.ok (String.ofList s.toList, rest) = _
  rw [String.ofList_toList]

/-- A string is written between quotes. -/
theorem renderString_append (s : String) (rest : List Char) :
    renderString s ++ rest = '"' :: (s.toList.flatMap escapeChar ++ '"' :: rest) := by
  simp [renderString]

/-! ## What stands where -/

/-- A value begins with a character that neither is blank nor ends a container. -/
def isStart (c : Char) : Bool := !isBlank c && c ≠ ']' && c ≠ '\x7d'

/-- A value starts with what is neither blank nor a closing bracket. -/
theorem isStart_iff {c : Char} : isStart c = true ↔ isBlank c = false ∧ c ≠ ']' ∧ c ≠ '\x7d' := by
  simp [isStart, and_assoc]

/-- A digit can start a value. -/
theorem isStart_of_isDigit {c : Char} (h : c.isDigit = true) : isStart c = true := by
  have hblank : isBlank c = false := isBlank_of_isNumeral (by simp [isNumeral, h])
  rw [isStart, hblank]
  by_cases hclose : c = ']' ∨ c = '\x7d'
  · rcases hclose with rfl | rfl <;> cases h
  · simpa [not_or] using hclose

/-- A number starts like a value. -/
theorem start_renderNumber (n : Number) : ∃ c cs, renderNumber n = c :: cs ∧ isStart c = true := by
  -- it starts with a digit, with a minus, or as null
  have hdigits : ∀ n, ∃ c cs, Nat.toDigits 10 n = c :: cs ∧ isStart c = true := by
    intro n
    obtain ⟨c, cs, h, hc⟩ := (IsUnsigned.of_digits Nat.toDigits_ne_nil (isDigit_of_mem_toDigits (n := n))).head
    exact ⟨c, cs, h, isStart_of_isDigit hc⟩
  match n with
  | .whole (.ofNat n) => exact hdigits n
  | .whole (.negSucc n) => exact ⟨'-', _, rfl, rfl⟩
  | .real x =>
    rw [renderNumber, write_eq]
    split
    · split
      · exact ⟨'-', _, rfl, rfl⟩
      · obtain ⟨c, cs, h, hc⟩ := (isUnsigned_unsignedText numberStyle x).head
        exact ⟨c, cs, h, isStart_of_isDigit hc⟩
    · exact ⟨'n', _, rfl, rfl⟩

/-- A value starts like one. -/
theorem start_renderBefore (j : Json) (rest : List Char) :
    ∃ c cs, j.renderBefore rest = c :: cs ∧ isStart c = true := by
  match j with
  | null => exact ⟨'n', _, rfl, rfl⟩
  | bool true => exact ⟨'t', _, rfl, rfl⟩
  | bool false => exact ⟨'f', _, rfl, rfl⟩
  | number n =>
    obtain ⟨c, cs, h, hc⟩ := start_renderNumber n
    exact ⟨c, cs ++ rest, by rw [renderBefore, h]; rfl, hc⟩
  | string s => exact ⟨'"', _, by rw [renderBefore, renderString_append], rfl⟩
  | array items => exact ⟨'[', _, by rw [renderBefore], rfl⟩
  | object members => exact ⟨'\x7b', _, by rw [renderBefore], rfl⟩

/-- Behind an item stands what may follow a number. -/
theorem follows_renderItems (items : List Json) (rest : List Char) :
    Follows (renderItems false items (']' :: rest)) := by
  cases items with
  | nil =>
    rintro c ⟨⟩
    exact .inr (.inl rfl)
  | cons j items =>
    rw [renderItems]
    rintro c ⟨⟩
    exact .inl rfl

/-- Behind a member stands what may follow a number. -/
theorem follows_renderMembers {b : Option String} (members : Fields Json b) (rest : List Char) :
    Follows (renderMembers false members ('\x7d' :: rest)) := by
  cases members with
  | nil =>
    rintro c ⟨⟩
    exact .inr (.inr rfl)
  | cons key j h members =>
    rw [renderMembers]
    rintro c ⟨⟩
    exact .inl rfl

/-! ## Separators -/

/-- The closing bracket ends a container. -/
theorem readSeparator_close {close : Char} (hclose : isBlank close = false) (first : Bool) (rest : List Char) :
    readSeparator close first (close :: rest) = .ok (false, rest) := by
  rw [readSeparator, skipBlanks_cons hclose]
  simp

/-- In front of an element there is a comma, unless it is the first. -/
theorem readSeparator_more {close c : Char} (hcomma : close ≠ ',') (hc : isBlank c = false) (hne : c ≠ close)
    (first : Bool) (cs : List Char) :
    readSeparator close first (if first then c :: cs else ',' :: c :: cs) = .ok (true, c :: cs) := by
  cases first with
  | true =>
    -- the first part has no comma in front
    rw [if_pos rfl, readSeparator, skipBlanks_cons hc]
    simp [hne]
  | false =>
    -- the comma is taken, and the part behind it does not close
    rw [if_neg Bool.false_ne_true, readSeparator, skipBlanks_cons rfl]
    simp [hcomma.symm, skipBlanks_cons hc, hne]

/-- A comma in front only takes more steps. -/
theorem le_of_separated {first : Bool} {body : List Char} {fuel : Nat}
    (h : 2 * (if first then body else ',' :: body).length ≤ fuel) : 2 * body.length ≤ fuel := by
  cases first with
  | true => exact h
  | false =>
    rw [if_neg Bool.false_ne_true, List.length_cons] at h
    omega

/-- A key reads back, with its colon. -/
theorem readKey_render (key : String) (rest : List Char) :
    readKey (renderString key ++ ':' :: rest) = .ok (key, rest) := by
  rw [renderString_append, readKey, readKeyText, readStringBody_escaped]
  rfl

/-! ## Values -/

/-- The number reads back: it is an integer that fits a word, or a double that reads back. -/
def Number.ReadsBack : Number → Prop
  | whole i => -0x8000000000000000 ≤ i ∧ i ≤ 0xffffffffffffffff
  | real x => Json.ReadsBack x

/-- The numbers in a value. -/
def numbers : Json → List Number :=
  fold fun
    | number n, _ => [n]
    | _, below => below.flatten

/-- What holds of the numbers in a value holds of the value, if it is one itself, and of those in its parts. -/
theorem forall_mem_numbers_iff {P : Number → Prop} {j : Json} :
    (∀ n ∈ j.numbers, P n) ↔ (∀ n, j = number n → P n) ∧ ∀ part ∈ j.parts, ∀ n ∈ part.numbers, P n := by
  have hparts : (∀ n ∈ (j.parts.map numbers).flatten, P n) ↔ ∀ part ∈ j.parts, ∀ n ∈ part.numbers, P n :=
    List.forall_mem_flatMap
  rw [← hparts, numbers, fold_eq]
  cases j with
  | number n =>
    -- a number has no parts
    refine ⟨fun h => ⟨?_, List.forall_mem_nil P⟩, fun h => List.forall_mem_singleton.2 (h.1 n rfl)⟩
    rintro m ⟨⟩
    exact h n List.mem_cons_self
  | _ => exact ⟨fun h => ⟨nofun, h⟩, fun h => h.2⟩

/-- The text of the number is read: it is an integer that fits a word, or a double that is read as `f` of it. -/
def Number.ReadsBy (f : Binary64 → Binary64) : Number → Prop
  | whole i => -0x8000000000000000 ≤ i ∧ i ≤ 0xffffffffffffffff
  | real x => ReadsAs x (f x)

/-- A number that reads as itself reads back. -/
theorem Number.readsBy_id_iff {n : Number} : n.ReadsBy id ↔ n.ReadsBack := by
  cases n <;> exact Iff.rfl

mutual

/-- The value with other doubles. -/
def mapReals (f : Binary64 → Binary64) : Json → Json
  | null => null
  | bool b => bool b
  | number (.whole i) => whole i
  | number (.real x) => number (.real (f x))
  | string s => string s
  | array items => array (mapRealsOfItems f items)
  | object members => object (mapRealsOfMembers f members)

def mapRealsOfItems (f : Binary64 → Binary64) : List Json → List Json
  | [] => []
  | j :: rest => j.mapReals f :: mapRealsOfItems f rest

def mapRealsOfMembers (f : Binary64 → Binary64) : {b : Option String} → Fields Json b → Fields Json b
  | _, .nil => .nil
  | _, .cons key j h rest => .cons key (j.mapReals f) h (mapRealsOfMembers f rest)

end

mutual

/-- Doubles that are read as they are change nothing. -/
theorem mapReals_id : (j : Json) → j.mapReals id = j
  | null => rfl
  | bool _ => rfl
  | number (.whole _) => rfl
  | number (.real _) => rfl
  | string _ => rfl
  | array items => congrArg array (mapRealsOfItems_id items)
  | object members => congrArg object (mapRealsOfMembers_id members)

/-- Doubles that are read as they are change nothing in a list. -/
theorem mapRealsOfItems_id : (items : List Json) → mapRealsOfItems id items = items
  | [] => rfl
  | j :: items => by rw [mapRealsOfItems, mapReals_id j, mapRealsOfItems_id items]

/-- Doubles that are read as they are change nothing in an object. -/
theorem mapRealsOfMembers_id {b : Option String} (members : Fields Json b) :
    mapRealsOfMembers id members = members := by
  cases members with
  | nil => rfl
  | cons key j h members => rw [mapRealsOfMembers, mapReals_id j, mapRealsOfMembers_id members]

end

/-- A member is found with its doubles as they are read. -/
theorem find?_mapRealsOfMembers (f : Binary64 → Binary64) (key : String) {b : Option String}
    (members : Fields Json b) : (mapRealsOfMembers f members).find? key = (members.find? key).map (mapReals f) := by
  induction members with
  | nil => rfl
  | cons k j h rest ih =>
    rw [mapRealsOfMembers, Fields.find?_cons, Fields.find?_cons, ih]
    split <;> rfl

mutual

/-- A value takes at least one character. -/
theorem length_lt_renderBefore : (j : Json) → (rest : List Char) → rest.length < (j.renderBefore rest).length
  | null, rest => by
    rw [renderBefore]
    simp only [List.length_cons]
    omega
  | bool true, rest => by
    rw [renderBefore]
    simp only [List.length_cons]
    omega
  | bool false, rest => by
    rw [renderBefore]
    simp only [List.length_cons]
    omega
  | number n, rest => by
    obtain ⟨c, cs, h, -⟩ := start_renderNumber n
    rw [renderBefore, h, List.length_append, List.length_cons]
    omega
  | string s, rest => by
    rw [renderBefore, renderString_append, List.length_cons, List.length_append, List.length_cons]
    omega
  | array items, rest => by
    have hitems := length_le_renderItems true items (']' :: rest)
    rw [List.length_cons] at hitems
    rw [renderBefore, List.length_cons]
    omega
  | object members, rest => by
    have hmembers := length_le_renderMembers true members ('\x7d' :: rest)
    rw [List.length_cons] at hmembers
    rw [renderBefore, List.length_cons]
    omega

/-- Items in front of a text only make it longer. -/
theorem length_le_renderItems (first : Bool) : (items : List Json) → (rest : List Char) →
    rest.length ≤ (renderItems first items rest).length
  | [], rest => Nat.le_refl rest.length
  | j :: items, rest => by
    have hitems := length_le_renderItems false items rest
    have hbody := length_lt_renderBefore j (renderItems false items rest)
    rw [renderItems]
    split
    · omega
    · rw [List.length_cons]
      omega

/-- Members in front of a text only make it longer. -/
theorem length_le_renderMembers (first : Bool) : {b : Option String} → (members : Fields Json b) →
    (rest : List Char) → rest.length ≤ (renderMembers first members rest).length
  | _, .nil, rest => Nat.le_refl rest.length
  | _, .cons key j _ members, rest => by
    have hmembers := length_le_renderMembers false members rest
    have hbody := length_lt_renderBefore j (renderMembers false members rest)
    rw [renderMembers]
    split
    · rw [List.length_append, List.length_cons]
      omega
    · rw [List.length_cons, List.length_append, List.length_cons]
      omega

end

/-! ## Steps of the reader -/

/-- A string is read back. -/
theorem readValue_string (fuel depth : Nat) (s : String) (rest : List Char) :
    readValue (fuel + 1) depth (renderString s ++ rest) = .ok (.string s, rest) := by
  rw [renderString_append, readValue, skipBlanks_cons rfl]
  exact bind_of_ok (readStringBody_escaped s rest) _

/-- An array is read if its items are. -/
theorem readValue_array {fuel depth : Nat} {cs rest : List Char} {items : List Json}
    (h : readItems fuel depth [] cs = .ok (items, rest)) :
    readValue (fuel + 1) (depth + 1) ('[' :: cs) = .ok (.array items, rest) := by
  rw [readValue, skipBlanks_cons rfl]
  exact bind_of_ok h _

/-- An object is read if its members are. -/
theorem readValue_object {fuel depth : Nat} {cs rest : List Char} {members : Fields Json none}
    (h : readMembers fuel depth true .nil cs = .ok (members, rest)) :
    readValue (fuel + 1) (depth + 1) ('\x7b' :: cs) = .ok (.object members, rest) := by
  rw [readValue, skipBlanks_cons rfl]
  exact bind_of_ok h _

/-- An item is read, and the reader goes on with the others. -/
theorem readItems_more {fuel depth : Nat} {acc : List Json} {cs body rest : List Char} {j : Json}
    (hmore : readSeparator ']' acc.isEmpty cs = .ok (true, body)) (hj : readValue fuel depth body = .ok (j, rest)) :
    readItems (fuel + 1) depth acc cs = readItems fuel depth (j :: acc) rest := by
  rw [readItems, bind_of_ok hmore]
  exact bind_of_ok hj _

/-- A member is read, and the reader goes on with the others. -/
theorem readMembers_more {fuel depth : Nat} {first : Bool} {acc : Fields Json none} {cs body tail rest : List Char}
    {key : String} {j : Json} (hmore : readSeparator '\x7d' first cs = .ok (true, body))
    (hkey : readKey body = .ok (key, tail)) (hj : readValue fuel depth tail = .ok (j, rest)) :
    readMembers (fuel + 1) depth first acc cs = readMembers fuel depth false (acc.insert key j) rest := by
  rw [readMembers, bind_of_ok hmore]
  calc
    _ = _ := bind_of_ok hkey _
    _ = _ := bind_of_ok hj _

/-! ## Reading a value back -/

section Values

variable {f : Binary64 → Binary64}

mutual

/-- A value is read in front of anything that may follow it, if the reader may open enough containers and has two
steps for each character. -/
theorem readValue_renderBefore : (j : Json) → (∀ n ∈ j.numbers, n.ReadsBy f) → {rest : List Char} →
    Follows rest → {fuel depth : Nat} → 2 * (j.renderBefore rest).length ≤ fuel + 1 → j.nesting ≤ depth →
    readValue (fuel + 1) depth (j.renderBefore rest) = .ok (j.mapReals f, rest)
  -- each value has one step, and its parts have the others; the level that a list takes is there, as its nesting says
  | null, _, rest, _, fuel, depth, _, _ => by
    rw [renderBefore, readValue, skipBlanks_cons rfl]
    rfl
  | bool true, _, rest, _, fuel, depth, _, _ => by
    rw [renderBefore, readValue, skipBlanks_cons rfl]
    rfl
  | bool false, _, rest, _, fuel, depth, _, _ => by
    rw [renderBefore, readValue, skipBlanks_cons rfl]
    rfl
  | number (.whole i), hnumbers, rest, hrest, fuel, depth, _, _ => by
    obtain ⟨hlow, hhigh⟩ := hnumbers (.whole i) (List.mem_singleton_self _)
    exact readValue_renderInt hlow hhigh fuel depth hrest
  | number (.real x), hnumbers, rest, hrest, fuel, depth, _, _ => by
    have hx : ReadsAs x (f x) := hnumbers (.real x) (List.mem_singleton_self _)
    exact hx.readValue fuel depth hrest
  | string s, _, rest, _, fuel, depth, _, _ => readValue_string fuel depth s rest
  | array _, _, _, _, _, 0, _, hdepth => absurd hdepth (Nat.not_succ_le_zero _)
  | array items, hnumbers, rest, _, fuel, depth + 1, hfuel, hdepth => by
    have hitems := (forall_mem_numbers_iff.1 hnumbers).2
    rw [renderBefore, List.length_cons] at hfuel
    obtain ⟨fuel, rfl⟩ := Nat.exists_eq_add_one_of_ne_zero (show fuel ≠ 0 by omega)
    have hread : readItems (fuel + 1) depth [] (renderItems true items (']' :: rest))
        = .ok (mapRealsOfItems f items, rest) :=
      readItems_renderItems items hitems [] rest (by
        show 2 * (renderItems true items (']' :: rest)).length ≤ fuel
        omega) (height_le_iff.1 hdepth)
    rw [renderBefore]
    exact readValue_array hread
  | object _, _, _, _, _, 0, _, hdepth => absurd hdepth (Nat.not_succ_le_zero _)
  | object members, hnumbers, rest, _, fuel, depth + 1, hfuel, hdepth => by
    have hmembers := (forall_mem_numbers_iff.1 hnumbers).2
    rw [renderBefore, List.length_cons] at hfuel
    obtain ⟨fuel, rfl⟩ := Nat.exists_eq_add_one_of_ne_zero (show fuel ≠ 0 by omega)
    have hread := readMembers_renderMembers members hmembers true .nil rest (show _ ≤ fuel by omega)
      (height_le_iff.1 hdepth)
    -- inserting the members again makes the same object
    rw [Fields.foldl_insert_toList] at hread
    rw [renderBefore]
    exact readValue_object hread

/-- The items that are left are read behind those that were read. -/
theorem readItems_renderItems : (items : List Json) → (∀ j ∈ items, ∀ n ∈ j.numbers, n.ReadsBy f) →
    (acc : List Json) → (rest : List Char) → {fuel depth : Nat} →
    2 * (renderItems acc.isEmpty items (']' :: rest)).length ≤ fuel → (∀ j ∈ items, j.nesting ≤ depth) →
    readItems (fuel + 1) depth acc (renderItems acc.isEmpty items (']' :: rest))
      = .ok (acc.reverse ++ mapRealsOfItems f items, rest)
  | [], _, acc, rest, fuel, depth, _, _ => by
    rw [renderItems, readItems, readSeparator_close rfl, mapRealsOfItems, List.append_nil]
    rfl
  | j :: items, hnumbers, acc, rest, fuel, depth, hfuel, hdepth => by
    let tail := renderItems false items (']' :: rest)
    have hlength : tail.length < (j.renderBefore tail).length := length_lt_renderBefore j tail
    obtain ⟨hj, hitems⟩ := List.forall_mem_cons.1 hnumbers
    obtain ⟨hdepthj, hdepthitems⟩ := List.forall_mem_cons.1 hdepth
    rw [renderItems] at hfuel ⊢
    -- one step goes to this list, and the item leaves two for each character behind it
    have hbody : 2 * (j.renderBefore tail).length ≤ fuel := le_of_separated hfuel
    obtain ⟨fuel, rfl⟩ := Nat.exists_eq_add_one_of_ne_zero (show fuel ≠ 0 by omega)
    have hmore : readSeparator ']' acc.isEmpty
        (if acc.isEmpty then j.renderBefore tail else ',' :: j.renderBefore tail)
        = .ok (true, j.renderBefore tail) := by
      obtain ⟨c, cs, hstart, hc⟩ := start_renderBefore j tail
      obtain ⟨hblank, hclose, -⟩ := isStart_iff.1 hc
      rw [hstart]
      exact readSeparator_more (by decide) hblank hclose _ cs
    have hvalue := readValue_renderBefore j hj (follows_renderItems items rest) hbody hdepthj
    have hrest := readItems_renderItems items hitems (j.mapReals f :: acc) rest
      (show 2 * tail.length ≤ fuel by omega) hdepthitems
    rw [readItems_more hmore hvalue]
    rw [List.reverse_cons, List.append_assoc] at hrest
    exact hrest

/-- The members of an object are read behind those that were read already. -/
theorem readMembers_renderMembers : {b : Option String} → (members : Fields Json b) →
    (∀ j ∈ members.values, ∀ n ∈ j.numbers, n.ReadsBy f) → (first : Bool) → (acc : Fields Json none) →
    (rest : List Char) → {fuel depth : Nat} →
    2 * (renderMembers first members ('\x7d' :: rest)).length ≤ fuel →
    (∀ j ∈ members.values, j.nesting ≤ depth) →
    readMembers (fuel + 1) depth first acc (renderMembers first members ('\x7d' :: rest))
      = .ok ((mapRealsOfMembers f members).toList.foldl (fun f e => f.insert e.1 e.2) acc, rest)
  | _, .nil, _, first, acc, rest, fuel, depth, _, _ => by
    rw [renderMembers, readMembers, readSeparator_close rfl]
    rfl
  | _, .cons key j _ members, hnumbers, first, acc, rest, fuel, depth, hfuel, hdepth => by
    let tail := renderMembers false members ('\x7d' :: rest)
    let body := renderString key ++ ':' :: j.renderBefore tail
    have hlength : tail.length < (j.renderBefore tail).length := length_lt_renderBefore j tail
    obtain ⟨hj, hmembers⟩ := List.forall_mem_cons.1 hnumbers
    obtain ⟨hdepthj, hdepthmembers⟩ := List.forall_mem_cons.1 hdepth
    rw [renderMembers] at hfuel ⊢
    -- again one step goes to the list
    have hbody : 2 * body.length ≤ fuel := le_of_separated hfuel
    rw [List.length_append, List.length_cons] at hbody
    obtain ⟨fuel, rfl⟩ := Nat.exists_eq_add_one_of_ne_zero (show fuel ≠ 0 by omega)
    have hmore : readSeparator '\x7d' first (if first then body else ',' :: body) = .ok (true, body) := by
      have hquote : body = '"' :: (key.toList.flatMap escapeChar ++ '"' :: ':' :: j.renderBefore tail) :=
        renderString_append key _
      rw [hquote]
      exact @readSeparator_more '\x7d' '"' (by decide) rfl (by decide) first _
    have hvalue := readValue_renderBefore j hj (follows_renderMembers members rest)
      (show 2 * (j.renderBefore tail).length ≤ fuel + 1 by omega) hdepthj
    have hrest := readMembers_renderMembers members hmembers false (acc.insert key (j.mapReals f)) rest
      (show 2 * tail.length ≤ fuel by omega) hdepthmembers
    rw [readMembers_more hmore (readKey_render key _) hvalue]
    exact hrest

end

/-- A value is read from its own text, if its numbers are and its containers nest less deep than the limit. -/
theorem parse_render_eq_mapReals {j : Json} (hnumbers : ∀ n ∈ j.numbers, n.ReadsBy f)
    (hnesting : j.nesting < depthLimit) : parse j.render = .ok (j.mapReals f) := by
  have hend : Follows [] := nofun
  have hfuel : 2 * (j.renderBefore []).length ≤ 2 * j.renderList.length + 1 + 1 := Nat.le_add_right _ 2
  rw [parse_render, finish_eq_ok_iff]
  exact ⟨[], readValue_renderBefore j hnumbers hend hfuel (Nat.le_sub_one_of_lt hnesting), rfl⟩

end Values

/-- A value reads back from its own text, if its numbers do. -/
theorem parse_render_eq_ok {j : Json} (hnumbers : ∀ n ∈ j.numbers, n.ReadsBack) (hnesting : j.nesting < depthLimit) :
    parse j.render = .ok j := by
  have hread := parse_render_eq_mapReals (fun n hn => Number.readsBy_id_iff.2 (hnumbers n hn)) hnesting
  rwa [mapReals_id] at hread

end Json

end Logbook
