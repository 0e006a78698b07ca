import Logbook.Json.Typed
import Logbook.Proofs.Json.Reading

/-!
# Reading values of a known shape back

A reader that knows the shape takes a value off the front of a text: it reads the text of the value, whatever follows
(`Reader.Takes`).  Readers of lists and structures take what their parts take.  For a structure the order of the members
does not matter, since each of them is read into the field of its key.

## Key results

- `Reader.Takes.text` / `Reader.Takes.variant`: texts, and variants by their names
- `Reader.Takes.list`: a list whose items are taken
- `Reader.Takes.struct`: a structure whose members are taken
- `readAll_render`: a value that is taken is read from its own text
-/

namespace Logbook.Json

variable {α β : Type}

/-- The reader reads the value as `a`, whatever follows it. -/
def Reader.Takes (read : Reader α) (j : Json) (a : α) : Prop := ∀ rest, read (j.renderBefore rest) = .ok (a, rest)

/-- A value that is taken is read from its own text. -/
theorem readAll_render {read : Reader α} {j : Json} {a : α} (h : read.Takes j a) : readAll read j.render = .ok a := by
  rw [readAll, finish_eq_ok_iff, render, String.toList_ofList]
  exact ⟨[], h [], rfl⟩

namespace Reader.Takes

/-- A string is taken as its text. -/
theorem text (s : String) : Takes readText (.string s) s := by
  intro rest
  rw [renderBefore, renderString_append, readText, skipBlanks_cons rfl]
  exact readStringBody_escaped s rest

/-- What is read can be changed at once. -/
theorem map {read : Reader α} {j : Json} {a : α} (h : Takes read j a) (f : α → β) :
    Takes (fun cs => do
      let (a, cs) ← read cs
      .ok (f a, cs)) j (f a) :=
  fun rest => bind_of_ok (h rest) _

/-- A variant is taken by its name. -/
theorem variant {variant? : String → Option (Variant α)} {name : String} {a : α}
    (h : variant? name = some (.plain a)) : Takes (readVariant variant?) (.string name) a := by
  intro rest
  rw [renderBefore, renderString_append, readVariant, skipBlanks_cons rfl]
  refine (bind_of_ok (readStringBody_escaped name rest) _).trans ?_
  simp only [h]

/-! ## Lists -/

/-- The items that are left are taken behind those that were read. -/
theorem listItems {read : Reader α} {encode : α → Json} (h : ∀ a, Takes read (encode a) a) (as : List α) {fuel : Nat}
    (hfuel : as.length < fuel) (acc : List α) (rest : List Char) :
    readListItems read fuel acc (renderItems acc.isEmpty (as.map encode) (']' :: rest))
      = .ok (acc.reverse ++ as, rest) := by
  -- along the items, each of which takes a step
  induction as generalizing fuel acc with
  | nil =>
    obtain ⟨fuel, rfl⟩ := Nat.exists_eq_add_one_of_ne_zero (Nat.ne_zero_of_lt hfuel)
    rw [List.map_nil, renderItems, readListItems, readSeparator_close rfl, List.append_nil]
    rfl
  | cons a as ih =>
    obtain ⟨fuel, rfl⟩ := Nat.exists_eq_add_one_of_ne_zero (Nat.ne_zero_of_lt hfuel)
    let tail := renderItems false (as.map encode) (']' :: rest)
    have hmore : readSeparator ']' acc.isEmpty
        (if acc.isEmpty then (encode a).renderBefore tail else ',' :: (encode a).renderBefore tail)
        = .ok (true, (encode a).renderBefore tail) := by
      obtain ⟨c, cs, hstart, hc⟩ := start_renderBefore (encode a) tail
      obtain ⟨hblank, hclose, -⟩ := isStart_iff.1 hc
      rw [hstart]
      exact readSeparator_more (by decide) hblank hclose _ cs
    have hrest := ih (Nat.lt_of_succ_lt_succ hfuel) (a :: acc)
    rw [List.map_cons, renderItems, readListItems, bind_of_ok hmore]
    calc
      _ = readListItems read fuel (a :: acc) tail := bind_of_ok (h a tail) _
      _ = _ := hrest
      _ = _ := by rw [List.reverse_cons, List.append_assoc, List.singleton_append]

/-- Every item takes at least one character. -/
theorem length_lt_renderItems (items : List Json) (first : Bool) {rest : List Char} (hrest : rest ≠ []) :
    items.length < (renderItems first items rest).length := by
  -- each item takes a character at least, and something is left
  induction items generalizing first with
  | nil =>
    rw [renderItems]
    exact List.length_pos_iff.2 hrest
  | cons j items ih =>
    have hbody := length_lt_renderBefore j (renderItems false items rest)
    have hitems := ih false
    rw [renderItems, List.length_cons]
    split
    · omega
    · rw [List.length_cons]
      omega

/-- A list is taken item by item. -/
theorem list {read : Reader α} {encode : α → Json} (h : ∀ a, Takes read (encode a) a) (as : List α) :
    Takes (readList read) (.array (as.map encode)) as := by
  intro rest
  have hlength := length_lt_renderItems (as.map encode) true (List.cons_ne_nil ']' rest)
  rw [List.length_map] at hlength
  rw [renderBefore, readList, skipBlanks_cons rfl]
  exact listItems h as (by rw [fuelFor]; omega) [] rest

/-! ## Structures -/

/-- The members that are left are read one after another, each into the field of its key.  Here `put` says what becomes
of the structure under a key. -/
theorem members {fields : List (Field α)} {put : String → α → α} {b : Option String} (members : Fields Json b)
    (h : ∀ e ∈ members.toList, ∃ f, fields.find? (·.key = e.1) = some f ∧ ∀ a, Takes (f.read a) e.2 (put e.1 a))
    {fuel : Nat} (hfuel : members.size < fuel) {seen : List String} (hseen : ∀ key ∈ members.keys, key ∉ seen)
    (first : Bool) (a : α) (rest : List Char) :
    readNamed fields fuel seen first a (renderMembers first members ('\x7d' :: rest))
      = .ok (members.keys.foldl (fun a key => put key a) a, rest) := by
  -- along the members, each of which takes a step
  induction members generalizing fuel seen first a with
  | nil =>
    obtain ⟨fuel, rfl⟩ := Nat.exists_eq_add_one_of_ne_zero (Nat.ne_zero_of_lt hfuel)
    rw [renderMembers, readNamed, readSeparator_close rfl]
    rfl
  | cons key j habove members ih =>
    obtain ⟨fuel, rfl⟩ := Nat.exists_eq_add_one_of_ne_zero (Nat.ne_zero_of_lt hfuel)
    let tail := renderMembers false members ('\x7d' :: rest)
    let body := renderString key ++ ':' :: j.renderBefore tail
    obtain ⟨f, hfind, hf⟩ := h (key, j) List.mem_cons_self
    have hquote : body = '"' :: (key.toList.flatMap escapeChar ++ '"' :: ':' :: j.renderBefore tail) :=
      renderString_append key _
    have hmore : readSeparator '\x7d' first (if first then body else ',' :: body) = .ok (true, body) := by
      rw [hquote]
      exact @readSeparator_more '\x7d' '"' (by decide) rfl (by decide) first _
    have hkey : readKeyText body = .ok (key, ':' :: j.renderBefore tail) := by
      rw [hquote, readKeyText, readStringBody_escaped]
    have hcolon : readColon (':' :: j.renderBefore tail) = .ok ((), j.renderBefore tail) := rfl
    have hnew : seen.contains key = false := by
      simpa using hseen key List.mem_cons_self
    -- the keys behind are larger, so none of them has been seen
    have hlater : ∀ later ∈ members.keys, later ∉ key :: seen := by
      intro later hlater
      obtain ⟨⟨later, k⟩, hmem, rfl⟩ := List.mem_map.1 hlater
      have hlt : key < later := Fields.above_of_find? (Fields.mem_toList.1 hmem)
      rw [List.mem_cons, not_or]
      exact ⟨fun heq => String.lt_irrefl key (heq ▸ hlt), hseen later (List.mem_cons_of_mem key hlater)⟩
    have hmembers : ∀ e ∈ members.toList, _ := fun e he => h e (List.mem_cons_of_mem _ he)
    have hrest := ih hmembers (Nat.lt_of_succ_lt_succ hfuel) hlater false (put key a)
    rw [renderMembers, readNamed, bind_of_ok hmore]
    refine (bind_of_ok hkey _).trans ?_
    simp only [hfind, hnew]
    refine (bind_of_ok hcolon _).trans ?_
    exact (bind_of_ok (hf a tail) _).trans hrest

/-- Every member takes at least one character. -/
theorem size_lt_renderMembers {b : Option String} (members : Fields Json b) (first : Bool) {rest : List Char}
    (hrest : rest ≠ []) : members.size < (renderMembers first members rest).length := by
  -- each member takes a character at least, and something is left
  induction members generalizing first with
  | nil =>
    rw [renderMembers]
    exact List.length_pos_iff.2 hrest
  | cons key j _ members ih =>
    have hbody := length_lt_renderBefore j (renderMembers false members rest)
    have hmembers := ih false
    rw [renderMembers, Fields.size]
    split
    · rw [List.length_append, List.length_cons]
      omega
    · rw [List.length_cons, List.length_append, List.length_cons]
      omega

/-- A structure is taken member by member. -/
theorem struct {fields : List (Field α)} {put : String → α → α} {members : Fields Json none}
    (h : ∀ e ∈ members.toList, ∃ f, fields.find? (·.key = e.1) = some f ∧ ∀ a, Takes (f.read a) e.2 (put e.1 a))
    (a : α) : Takes (readStructure fields a) (.object members) (members.keys.foldl (fun a key => put key a) a) := by
  intro rest
  have hsize := size_lt_renderMembers members true (List.cons_ne_nil '\x7d' rest)
  rw [renderBefore, readStructure, skipBlanks_cons rfl]
  exact Takes.members members h (by rw [fuelFor]; omega) (fun _ _ => List.not_mem_nil) true a rest

end Reader.Takes

end Logbook.Json
