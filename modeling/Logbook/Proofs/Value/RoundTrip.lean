import Logbook.Proofs.Json.Reading
import Logbook.Value.Json

/-!
# From JSON and back

Encoding cuts off what lies too deep, and decoding drops null members.  What has been encoded once has nothing left
that is too deep (`Json.Written`): decoded and encoded again with as many levels it is the same, if it has no null
members.  A record that is read from its text gets as many levels as before.  A record among values takes one level
more than a record by itself, so a value needs one level to spare (`Record.encode_settled`).

## Key results

- `Value.encodeWithin_written`: what encoding gives
- `Json.Written.encodeWithin_decode`: decoding and encoding again changes nothing
- `Json.Written.levels_le` / `Json.Written.of_levels_le`: how many levels that takes
- `Record.encode_settled`: records as text and as values
-/

namespace Logbook

/-! ## Entries of maps -/

namespace Fields

variable {α β : Type}

/-- A map without fields is the empty one. -/
theorem eq_nil_of_isEmpty {b : Option String} {fields : Fields α b} (h : fields.isEmpty = true) : fields = nil := by
  cases fields with
  | nil => rfl
  | cons => cases h

end Fields

namespace Json

variable {σ : Type}

/-! ## Null members and levels -/

/-- Whether something holds of a value or of one in it. -/
def anywhere (p : Json → Bool) : Json → Bool := fold fun j below => p j || below.any id

/-- What holds nowhere in a value holds neither of it nor within its parts. -/
theorem anywhere_eq_false_iff {p : Json → Bool} {j : Json} :
    j.anywhere p = false ↔ p j = false ∧ ∀ part ∈ j.parts, part.anywhere p = false := by
  rw [anywhere, fold_eq, Bool.or_eq_false_iff, List.any_map, List.any_eq_false]
  simp

/-- Whether an object in the value has a member that is null. -/
def hasNullMember : Json → Bool :=
  anywhere fun
    | object members => members.values.any Value.isNullJson
    | _ => false

/-- An object without null members has none at its own level and none within its members. -/
theorem hasNullMember_object_eq_false_iff {members : Fields Json none} :
    (object members).hasNullMember = false ↔
      ∀ key j, members.find? key = some j → Value.isNullJson j = false ∧ j.hasNullMember = false := by
  rw [← Fields.forall_mem_values (P := fun j => Value.isNullJson j = false ∧ j.hasNullMember = false), hasNullMember,
    anywhere_eq_false_iff, List.any_eq_false]
  constructor
  · rintro ⟨hnull, hbelow⟩ j hj
    exact ⟨Bool.eq_false_iff.2 (hnull j hj), hbelow j hj⟩
  · intro h
    exact ⟨fun j hj => Bool.eq_false_iff.1 (h j hj).1, fun j hj => (h j hj).2⟩

/-- The levels that the value takes when it is encoded: two for an object, one for anything else, none for the text
that stands for what was too deep. -/
def levels : Json → Nat :=
  height fun
    | string s => if s = "<value nested too deeply>" then 0 else 1
    | object _ => 2
    | _ => 1

/-- A string takes a level unless it stands for what is too deep. -/
theorem levels_string (s : String) : (string s).levels = if s = "<value nested too deeply>" then 0 else 1 := by
  rw [levels, height_eq]
  exact Nat.zero_add _

/-- A value takes a level for each container around its innermost part. -/
theorem nesting_le_levels (j : Json) : j.nesting ≤ j.levels := by
  refine height_mono (fun j => ?_) j
  cases j with
  | array items => exact Nat.le_refl 1
  | object members => exact Nat.le_succ 1
  | _ => exact Nat.zero_le _

/-! ## What encoding gives -/

/-- The value is one that encoding may give with so many levels. -/
inductive Written : Nat → Json → Prop where
  | tooDeep : Written 0 Value.tooDeep
  | null {room : Nat} : Written (room + 1) null
  | bool {room : Nat} (b : Bool) : Written (room + 1) (bool b)
  | whole {room : Nat} {i : Int} (hlow : -0x8000000000000000 ≤ i) (hhigh : i ≤ 0xffffffffffffffff) :
      Written (room + 1) (whole i)
  | real {room : Nat} {x : Binary64} (h : x.isFinite = true) : Written (room + 1) (number (.real x))
  | string {room : Nat} (s : String) : Written (room + 1) (string s)
  | array {room : Nat} {items : List Json} (h : ∀ j ∈ items, Written room j) : Written (room + 1) (array items)
  | object {room : Nat} {members : Fields Json none} (hne : members.isEmpty = false)
      (h : ∀ key j, members.find? key = some j → Written room j) : Written (room + 2) (object members)

namespace Written

variable {room room' : Nat} {j : Json}

/-- It takes no more levels than it had. -/
theorem levels_le (h : Written room j) : j.levels ≤ room := by
  induction h with
  | tooDeep => decide
  | string s =>
    rw [levels_string]
    split <;> omega
  | @array room items h ih => exact height_le_iff.2 ih
  | object hne h ih => exact height_le_iff.2 (Fields.forall_mem_values.2 ih)
  | _ => exact Nat.le_add_left 1 _

/-- It could also have been given with any number of levels that it takes. -/
theorem of_levels_le (h : Written room j) (hlevels : j.levels ≤ room') : Written room' j := by
  -- by induction on how the value was written, with the levels that are left
  induction h generalizing room' with
  | tooDeep =>
    cases room' with
    | zero => exact .tooDeep
    | succ room' => exact .string _
  | string s =>
    cases room' with
    | zero =>
      rw [levels_string] at hlevels
      split at hlevels
      next hs =>
        rw [hs]
        exact .tooDeep
      next => exact absurd hlevels (by decide)
    | succ room' => exact .string s
  -- the items have what the array leaves, and the height says how much that is
  | @array room items h ih =>
    obtain ⟨room', rfl⟩ := Nat.exists_eq_add_of_le' (Nat.le_trans (weight_le_height _ _) hlevels)
    have hitems : ∀ j ∈ items, j.levels ≤ room' := height_le_iff.1 hlevels
    exact .array fun j hj => ih j hj (hitems j hj)
  | @object room members hne h ih =>
    obtain ⟨room', rfl⟩ := Nat.exists_eq_add_of_le' (Nat.le_trans (weight_le_height _ _) hlevels)
    have hmembers : ∀ key j, members.find? key = some j → j.levels ≤ room' :=
      Fields.forall_mem_values.1 (height_le_iff.1 hlevels)
    exact .object hne fun key j hj => ih key j hj (hmembers key j hj)
  -- a scalar needs one level, and has it
  | null | bool | whole | real =>
    cases room' with
    | zero => exact absurd hlevels (Nat.not_succ_le_zero 0)
    | succ room' => constructor <;> assumption

/-- Its integers were words before they were encoded, and its doubles are finite. -/
theorem forall_numbers (h : Written room j) {P : Number → Prop}
    (hwhole : ∀ i, -0x8000000000000000 ≤ i → i ≤ 0xffffffffffffffff → P (.whole i))
    (hreal : ∀ x, x.isFinite = true → P (.real x)) : ∀ n ∈ j.numbers, P n := by
  -- by induction on how the value was written; only numbers have numbers of their own
  induction h with
  | whole hlow hhigh => exact List.forall_mem_singleton.2 (hwhole _ hlow hhigh)
  | real hx => exact List.forall_mem_singleton.2 (hreal _ hx)
  | array h ih =>
    refine forall_mem_numbers_iff.2 ⟨?_, ih⟩
    rintro n ⟨⟩
  | object hne h ih =>
    refine forall_mem_numbers_iff.2 ⟨?_, Fields.forall_mem_values.2 ih⟩
    rintro n ⟨⟩
  | _ => exact List.forall_mem_nil P

/-- Its numbers read back if its doubles do. -/
theorem readsBack (h : Written room j) (hreals : ∀ x, .real x ∈ j.numbers → ReadsBack x) :
    ∀ n ∈ j.numbers, n.ReadsBack := by
  have hwhole : ∀ n ∈ j.numbers, ∀ i, n = .whole i → n.ReadsBack :=
    h.forall_numbers (fun i hlow hhigh _ _ => ⟨hlow, hhigh⟩) fun _ _ _ heq => by cases heq
  intro n hn
  cases n with
  | whole i => exact hwhole _ hn i rfl
  | real x => exact hreals x hn

/-- More levels do no harm. -/
theorem mono (h : Written room j) (hle : room ≤ room') : Written room' j :=
  h.of_levels_le (Nat.le_trans h.levels_le hle)

end Written

end Json

/-! ## Encoding -/

variable {σ : Type}

/-- What is made of the items of a list one after another is made of one of them each. -/
theorem exists_of_mem_mapM {α β : Type} {f : α → StateM σ β} {items : List α} {hidden : σ} {b : β}
    (h : b ∈ (items.mapM f hidden).1) : ∃ a ∈ items, ∃ hidden', (f a hidden').1 = b := by
  induction items generalizing hidden with
  | nil => cases h
  | cons a items ih =>
    rw [List.mapM_cons] at h
    rcases List.mem_cons.1 h with rfl | h
    · exact ⟨a, List.mem_cons_self, hidden, rfl⟩
    · obtain ⟨a', ha', hfound⟩ := ih h
      exact ⟨a', List.mem_cons_of_mem a ha', hfound⟩

/-- Items that are each made again make the list again. -/
theorem mapM_eq_pure {α β : Type} {f : β → StateM σ α} {g : α → β} {items : List α}
    (h : ∀ a ∈ items, f (g a) = pure a) : (items.map g).mapM f = pure items := by
  induction items with
  | nil => rfl
  | cons a items ih =>
    rw [List.map_cons, List.mapM_cons, h a List.mem_cons_self, ih fun a' ha' => h a' (List.mem_cons_of_mem a ha')]
    rfl

namespace Fields

/-- A field of the result is made of a field. -/
theorem exists_of_find?_mapM {α β : Type} {f : String → α → StateM σ β} {b : Option String} {fields : Fields α b}
    {hidden : σ} {key : String} {w : β} (h : (fields.mapM f hidden).1.find? key = some w) :
    ∃ v hidden', (f key v hidden').1 = w := by
  obtain ⟨hidden', hfind⟩ := exists_find?_mapM (f := f) key fields hidden
  rw [hfind, Option.map_eq_some_iff] at h
  obtain ⟨v, -, hv⟩ := h
  exact ⟨v, hidden', hv⟩

/-- A map that is visited has as many fields. -/
theorem isEmpty_mapM {α β : Type} (f : String → α → StateM σ β) {b : Option String} (fields : Fields α b)
    (hidden : σ) : (fields.mapM f hidden).1.isEmpty = fields.isEmpty := by
  cases fields <;> rfl

/-- A map that is changed has as many fields. -/
theorem isEmpty_map {α β : Type} (f : α → β) {b : Option String} (fields : Fields α b) :
    (fields.map f).isEmpty = fields.isEmpty := by
  cases fields <;> rfl

/-- Fields that are each made again make the map again. -/
theorem mapM_eq_pure {α β : Type} {f : String → β → StateM σ α} {g : α → β} : {b : Option String} →
    {fields : Fields α b} → (∀ key a, fields.find? key = some a → f key (g a) = pure a) →
    (fields.map g).mapM f = pure fields
  | _, .nil, _ => rfl
  | _, .cons k a _ rest, h => by
    obtain ⟨hfirst, hothers⟩ := (forall_find?_cons (P := fun key a => f key (g a) = pure a)).1 h
    rw [map, mapM, hfirst, mapM_eq_pure hothers]
    rfl

end Fields

namespace Value

/-- With so many levels encoding gives a value that takes no more. -/
theorem encodeWithin_written (s : Suppliers σ) (room : Nat) (v : Value) (hidden : σ) :
    Json.Written room (v.encodeWithin s room hidden).1 := by
  -- a record hands on two levels less than it has, a deferred value may have become anything
  induction room using Nat.strongRecOn generalizing v hidden with
  | ind room ih =>
    cases room with
    | zero => exact .tooDeep
    | succ room =>
      cases v with
      | null => exact .null
      | bool b => exact .bool b
      -- a word is within the bounds of whole numbers
      | int i => exact .whole i.le_toInt (by have := i.toInt_lt; omega)
      | uint n => exact .whole (by omega) (by have := n.toNat_lt; omega)
      | float x =>
        show Json.Written _ (encodeFloat x)
        rw [encodeFloat]
        split
        next h => exact .real h
        next => exact .string _
      | text t => exact .string t
      | time t => exact .string _
      | level l => cases l <;> exact .whole (by decide) (by decide)
      | array items =>
        refine .array fun j hj => ?_
        obtain ⟨v, -, hidden', rfl⟩ := exists_of_mem_mapM hj
        exact ih room (Nat.lt_succ_self room) v hidden'
      | record fields =>
        cases room with
        | zero =>
          -- one level is too few, and what is cut off has a text of its own
          rw [encodeWithin]
          split
          · exact .null
          · exact .string _
        | succ room =>
          rw [encodeWithin]
          split
          next => exact .null
          next hne =>
            refine .object ?_ fun key j hj => ?_
            · rw [Fields.isEmpty_mapM]
              exact Bool.eq_false_iff.2 hne
            · obtain ⟨v, hidden', rfl⟩ := Fields.exists_of_find?_mapM hj
              exact ih room (by omega) v hidden'
      -- what is computed has one level less, and more would do
      | deferred source => exact (ih room (Nat.lt_succ_self room) _ _).mono (Nat.le_succ room)
      | guarded source => exact (ih room (Nat.lt_succ_self room) _ _).mono (Nat.le_succ room)

/-! ## Decoding -/

/-- Items are decoded one by one. -/
theorem decodeItems_eq_map (items : List Json) : decodeItems items = items.map decode := by
  induction items with
  | nil => rfl
  | cons j items ih => rw [decodeItems, ih, List.map_cons]

/-- Without null members decoding keeps all members. -/
theorem decodeMembers_eq_map : {b : Option String} → {members : Fields Json b} →
    (∀ key j, members.find? key = some j → isNullJson j = false) → decodeMembers members = members.map decode
  | _, .nil, _ => rfl
  | _, .cons k j _ rest, h => by
    obtain ⟨hfirst, hothers⟩ := (Fields.forall_find?_cons (P := fun _ j => isNullJson j = false)).1 h
    rw [decodeMembers, hfirst, if_neg Bool.false_ne_true, decodeMembers_eq_map hothers, Fields.map]

/-- A number that fits a word is encoded as it was decoded. -/
theorem encodeWithin_ofNumber (s : Suppliers σ) (room : Nat) {i : Int} (hlow : -0x8000000000000000 ≤ i)
    (hhigh : i ≤ 0xffffffffffffffff) : (ofNumber (.whole i)).encodeWithin s (room + 1) = pure (.whole i) := by
  rw [ofNumber]
  split
  next hsigned =>
    show pure (Json.whole (Int64.ofInt i).toInt) = _
    rw [Int64.toInt_ofInt_of_le (by omega) (by omega)]
  next hunsigned =>
    show pure (Json.whole ((UInt64.ofNat i.toNat).toNat : Int)) = _
    rw [UInt64.toNat_ofNat_of_lt' (by show i.toNat < 18446744073709551616; omega), Int.toNat_of_nonneg (by omega)]

end Value

namespace Json.Written

/-- What encoding gave is decoded to a value that is encoded in the same way, if no null member is lost. -/
theorem encodeWithin_decode (s : Suppliers σ) {room : Nat} {j : Json} (h : Written room j)
    (hnull : j.hasNullMember = false) : (Value.decode j).encodeWithin s room = pure j := by
  -- by induction on how the value was written
  induction h with
  | tooDeep => rfl
  | null => rfl
  | bool b => rfl
  | whole hlow hhigh => exact Value.encodeWithin_ofNumber s _ hlow hhigh
  | @real room x hx =>
    show pure (Value.encodeFloat x) = _
    rw [Value.encodeFloat, if_pos hx]
  | string s => rfl
  | @array room items h ih =>
    have hitems : (items.map Value.decode).mapM (Value.encodeWithin s room) = pure items :=
      mapM_eq_pure fun j hj => ih j hj ((anywhere_eq_false_iff.1 hnull).2 j hj)
    rw [Value.decode, Value.decodeItems_eq_map, Value.encodeWithin, hitems]
    rfl
  | @object room members hne h ih =>
    have hmembers := hasNullMember_object_eq_false_iff.1 hnull
    have hencode : (members.map Value.decode).mapM (fun _ v => v.encodeWithin s room) = pure members :=
      Fields.mapM_eq_pure fun key j hj => ih key j hj (hmembers key j hj).2
    rw [Value.decode, Value.decodeMembers_eq_map fun key j hj => (hmembers key j hj).1, Value.encodeWithin,
      Fields.isEmpty_map, hne, if_neg Bool.false_ne_true, hencode]
    rfl

end Json.Written

namespace Record

/-- A record by itself is encoded like one among values, with a level more than a value has. -/
theorem encode_eq_encodeWithin (s : Suppliers σ) (r : Record) :
    r.encode s = (Value.record r).encodeWithin s (Value.depthLimit + 2) := by
  rw [encode, Value.encodeWithin]

/-- What a record is encoded to is the JSON of a record, which is encoded like the value that it is decoded to. -/
theorem ofJson_encode (s : Suppliers σ) (r : Record) (hidden : σ) :
    ∃ r', ofJson (r.encode s hidden).1 = .ok r' ∧
      r'.encode s = (Value.decode (r.encode s hidden).1).encodeWithin s (Value.depthLimit + 2) := by
  cases hempty : r.isEmpty with
  -- a record without fields is written as null, and null is read as such a record
  | true =>
    have hnull : (r.encode s hidden).1 = .null := by
      rw [encode, hempty]
      rfl
    rw [hnull]
    exact ⟨empty, rfl, rfl⟩
  | false =>
    have hobject : (r.encode s hidden).1
        = .object (r.mapM (fun _ v => v.encodeWithin s Value.depthLimit) hidden).1 := by
      rw [encode, hempty]
      rfl
    rw [hobject]
    exact ⟨_, rfl, encode_eq_encodeWithin s _⟩

/-- By itself a record has two levels more than the values in it. -/
theorem encode_written (s : Suppliers σ) (r : Record) (hidden : σ) :
    Json.Written (Value.depthLimit + 2) (r.encode s hidden).1 := by
  rw [encode_eq_encodeWithin]
  exact Value.encodeWithin_written s (Value.depthLimit + 2) (.record r) hidden

/-- A record nests one level deeper than values may. -/
theorem nesting_encode_le (s : Suppliers σ) (r : Record) (hidden : σ) :
    (r.encode s hidden).1.nesting ≤ Value.depthLimit + 1 := by
  have hlevels := (encode_written s r hidden).levels_le
  have hshape := ofJson_encode s r hidden
  generalize (r.encode s hidden).1 = j at hlevels hshape
  match j with
  | .null => exact Nat.zero_le _
  | .object members =>
    -- an object takes two levels but is one container
    have hmembers : ∀ part ∈ members.values, part.levels ≤ Value.depthLimit := Json.height_le_iff.1 hlevels
    exact Json.height_le_iff.2 fun part hpart => Nat.le_trans part.nesting_le_levels (hmembers part hpart)
  | .bool _ | .number _ | .string _ | .array _ =>
    obtain ⟨r', hr', -⟩ := hshape
    cases hr'

/-- **Encoded records are settled.**  Let a record be encoded without null members.  If its doubles read back, then
its text is read as a record that is encoded in the same way.  As a value it is encoded in the same way exactly if
it does not take the last level that a record has. -/
theorem encode_settled (s : Suppliers σ) (r : Record) (hidden : σ)
    (hnull : (r.encode s hidden).1.hasNullMember = false) :
    let j := (r.encode s hidden).1
    ((∀ x, .real x ∈ j.numbers → Json.ReadsBack x) →
        ∃ r', Record.parse j.render = .ok r' ∧ ∀ hidden', r'.encode s hidden' = (j, hidden')) ∧
      (∀ hidden', (Value.decode j).encode s hidden' = (j, hidden') ↔ j.levels ≤ Value.depthLimit + 1) ∧
      j.levels ≤ Value.depthLimit + 2 := by
  intro j
  have hwritten : Json.Written (Value.depthLimit + 2) j := encode_written s r hidden
  refine ⟨fun hreals => ?_, fun hidden' => ⟨fun hsame => ?_, fun hlevels => ?_⟩, hwritten.levels_le⟩
  · have hnesting : j.nesting < Json.depthLimit := Nat.lt_of_le_of_lt (nesting_encode_le s r hidden) (by decide)
    obtain ⟨r', hread, hencode⟩ := ofJson_encode s r hidden
    refine ⟨r', ?_, fun hidden' => ?_⟩
    · rw [parse, Json.parse_render_eq_ok (hwritten.readsBack hreals) hnesting]
      exact hread
    · rw [hencode, hwritten.encodeWithin_decode s hnull]
      rfl
  · -- what a value is encoded to takes no more than the levels that a value has
    have h := Value.encodeWithin_written s (Value.depthLimit + 1) (Value.decode j) hidden'
    rw [Value.encode] at hsame
    rw [hsame] at h
    exact h.levels_le
  · rw [Value.encode, (hwritten.of_levels_le hlevels).encodeWithin_decode s hnull]
    rfl

/-- A record with a double, numbers that change their kind, a guarded value and one that is deferred without end. -/
theorem encode_settled_mixed :
    let s : Suppliers Nat :=
      ⟨fun source => pure (.deferred source), fun source n => (.uint (.ofNat (source + n)), n + 1)⟩
    let inner : Record := ((Record.empty.set "at" (.level .warn)).set "by" (.guarded 1)).set "id" (.uint 5)
    let r := ((((Record.empty.set "half" (.float ⟨0x3FE0000000000000⟩)).set "list" (.array [.null, .record inner])).set
      "loop" (.deferred 7)).set "max" (.uint 0xffffffffffffffff)).set "min" (.int (.ofInt (-5)))
    let j := (r.encode s 0).1
    j.hasNullMember = false ∧ j.levels = 6 ∧ (Value.decode j).encode s 0 = (j, 0) ∧
      ∃ r', Record.parse j.render = .ok r' ∧ r'.encode s 0 = (j, 0) := by
  intro s inner r j
  -- no member is null, and few levels are needed
  have hnull : j.hasNullMember = false := by decide
  have hlevels : j.levels = 6 := by decide
  have hnumbers : j.numbers
      = [.real ⟨0x3FE0000000000000⟩, .whole 40, .whole 1, .whole 5, .whole 0xffffffffffffffff, .whole (-5)] := by
    decide
  -- the only double is one half
  have hreals : ∀ x, .real x ∈ j.numbers → Json.ReadsBack x := by
    intro x hx
    rw [hnumbers] at hx
    obtain rfl : x = ⟨0x3FE0000000000000⟩ := by simpa using hx
    exact Json.readsBack_half
  obtain ⟨htext, hvalue, -⟩ := encode_settled s r 0 hnull
  obtain ⟨r', hread, hencode⟩ := htext hreals
  exact ⟨hnull, hlevels, (hvalue 0).2 (by rw [hlevels]; decide), r', hread, hencode 0⟩

/-- Arrays as deep as a record may hold them are too deep for the record as a value. -/
theorem encode_decode_of_deep :
    let s : Suppliers Unit := ⟨fun _ => pure .null, fun _ => pure .null⟩
    let deep : Value := Nat.repeat (fun v => .array [v]) 63 (.array [])
    let j := ((Record.empty.set "a" deep).encode s ()).1
    j.hasNullMember = false ∧ ((Value.decode j).encode s ()).1 ≠ j := by
  intro s deep j
  have hnull : j.hasNullMember = false := by decide +kernel
  have hlevels : j.levels = Value.depthLimit + 2 := by decide +kernel
  -- what is encoded has no more levels than there are, but the value has two more
  refine ⟨hnull, fun hsame => ?_⟩
  have hle := (Value.encodeWithin_written s (Value.depthLimit + 1) (Value.decode j) ()).levels_le
  rw [Value.encode] at hsame
  rw [hsame, hlevels] at hle
  exact absurd hle (by decide)

end Record

end Logbook
