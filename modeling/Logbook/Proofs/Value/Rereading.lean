import Logbook.Proofs.Json.Double
import Logbook.Proofs.Value.RoundTrip

/-!
# What is read, written and read again

A record that is read from a text holds no value that is supplied on demand, no instant and no level, and its integers
fit their kinds (`Value.IsRead`).  Written and read again it comes back if nothing of it is lost on the way.  Three
things can get lost: what lies deeper than the levels that the writer has, which are fewer than those of the reader;
a record without fields, which is written as null; and a double whose text is not read as that double again.  The
first two are told by the value itself, the last is `Json.ReadsBack`.  Whatever gets lost, the text that is written is
read (`Record.exists_parse_render`).

## Key results

- `Value.isRead_decode`: what decoding gives
- `Value.IsRead.encodeWithin_eq`: values of which nothing is lost
- `Value.IsRead.kept_of_beq`: what comes back has lost nothing
- `Record.exists_parse_render`: the text of any record is read as a record
- `Record.parse_encodeText`: which records are read again from their own text
-/

namespace Logbook

/-! ## Visiting fields -/

namespace Fields

variable {α β : Type}

/-- A map that is changed back is as it was. -/
theorem map_map_eq_self {f : α → β} {g : β → α} {fields : Fields α none}
    (h : ∀ key a, fields.find? key = some a → g (f a) = a) : (fields.map f).map g = fields := by
  refine ext fun key => ?_
  rw [find?_map, find?_map, Option.map_map]
  cases hfind : fields.find? key with
  | none => rfl
  | some a => exact congrArg some (h key a hfind)

end Fields

/-! ## JSON without empty objects -/

namespace Json

/-- An object without members. -/
def isEmptyObject : Json → Bool
  | object members => members.isEmpty
  | _ => false

/-- Whether an array or object in the value holds an object without members. -/
def holdsEmptyObject : Json → Bool := anywhere fun j => j.parts.any isEmptyObject

theorem holdsEmptyObject_eq_false_iff {j : Json} :
    j.holdsEmptyObject = false ↔ ∀ part ∈ j.parts, part.isEmptyObject = false ∧ part.holdsEmptyObject = false := by
  rw [holdsEmptyObject, anywhere_eq_false_iff, List.any_eq_false]
  constructor
  · rintro ⟨hempty, hbelow⟩ part hpart
    exact ⟨Bool.eq_false_iff.2 (hempty part hpart), hbelow part hpart⟩
  · intro h
    exact ⟨fun part hpart => Bool.eq_false_iff.1 (h part hpart).1, fun part hpart => (h part hpart).2⟩

/-- Only a finite double reads back, as all others are written as null. -/
theorem ReadsBack.isFinite {x : Binary64} (h : ReadsBack x) : x.isFinite = true := by
  rw [← Bool.not_eq_false]
  intro hx
  have hnull : render (.number (.real x)) = "null" := by
    rw [render, renderList, renderBefore, renderNumber, hx, if_neg Bool.false_ne_true]
    rfl
  rw [ReadsBack, hnull] at h
  have hparse : parse "null" = .ok .null := by rfl
  rw [hparse] at h
  cases h

/-- Encoding gives a value with the levels it takes, if its numbers read back and it has no empty object. -/
theorem written_levels {j : Json} (hnumbers : ∀ n ∈ j.numbers, n.ReadsBack) (hobject : j.isEmptyObject = false)
    (hholds : j.holdsEmptyObject = false) : Written j.levels j := by
  induction j using Json.induction with
  | null => exact .null
  | bool b => exact .bool b
  | number n =>
    have hback : n.ReadsBack := hnumbers n (List.mem_singleton.2 rfl)
    cases n with
    | whole i => exact .whole hback.1 hback.2
    | real x => exact .real (ReadsBack.isFinite hback)
  | string s =>
    -- the text for what is cut off needs no level
    rw [levels_string]
    split
    next hs =>
      rw [hs]
      exact .tooDeep
    next => exact .string s
  | array items ih =>
    have hitems := (forall_mem_numbers_iff.1 hnumbers).2
    have hkept := holdsEmptyObject_eq_false_iff.1 hholds
    -- the items have the levels that are left when the array has taken its own
    rw [levels, height_eq]
    refine .array fun j hj => (ih j hj (hitems j hj) (hkept j hj).1 (hkept j hj).2).mono ?_
    exact foldr_max_map_le_iff.1 (Nat.le_refl _) j hj
  | object members ih =>
    have hmembers := Fields.forall_mem_values.1 ((forall_mem_numbers_iff.1 hnumbers).2)
    have hkept := Fields.forall_mem_values.1 (holdsEmptyObject_eq_false_iff.1 hholds)
    rw [levels, height_eq]
    refine .object hobject fun key j hj =>
      (ih key j hj (hmembers key j hj) (hkept key j hj).1 (hkept key j hj).2).mono ?_
    exact Fields.forall_mem_values.1 (foldr_max_map_le_iff.1 (Nat.le_refl _)) key j hj

end Json

namespace Value

variable {σ : Type}

/-! ## The JSON of a value as it stands -/

mutual

/-- The JSON of a value, nothing cut off or left out: a record without fields is an object without members.  Only
what is supplied on demand is not in it. -/
def toJson : Value → Json
  | null => .null
  | bool b => .bool b
  | int i => .whole i.toInt
  | uint n => .whole n.toNat
  | float x => .number (.real x)
  | text s => .string s
  | time t => .string (TimeFormat.default.write t)
  | level l => .whole l.number
  | array items => .array (toJsonItems items)
  | record fields => .object (toJsonFields fields)
  | deferred _ => .null
  | guarded _ => .null

def toJsonItems : List Value → List Json
  | [] => []
  | v :: rest => v.toJson :: toJsonItems rest

def toJsonFields : {b : Option String} → Fields Value b → Fields Json b
  | _, .nil => .nil
  | _, .cons key v h rest => .cons key v.toJson h (toJsonFields rest)

end

theorem toJsonItems_eq_map (items : List Value) : toJsonItems items = items.map toJson := by
  induction items with
  | nil => rfl
  | cons v items ih => rw [toJsonItems, ih, List.map_cons]

theorem toJsonFields_eq_map : {b : Option String} → (fields : Fields Value b) →
    toJsonFields fields = fields.map toJson
  | _, .nil => rfl
  | _, .cons _ _ _ rest => by rw [toJsonFields, toJsonFields_eq_map rest, Fields.map]

theorem find?_toJsonFields {b : Option String} (fields : Fields Value b) (key : String) :
    (toJsonFields fields).find? key = (fields.find? key).map toJson := by
  rw [toJsonFields_eq_map, Fields.find?_map]

/-- What all members of a record have as JSON, its fields have. -/
theorem forall_find?_toJsonFields {P : Json → Prop} {b : Option String} {fields : Fields Value b} :
    (∀ key j, (toJsonFields fields).find? key = some j → P j) ↔
      ∀ key v, fields.find? key = some v → P v.toJson := by
  constructor
  · intro h key v hv
    exact h key v.toJson (by rw [find?_toJsonFields, hv, Option.map_some])
  · intro h key j hj
    rw [find?_toJsonFields, Option.map_eq_some_iff] at hj
    obtain ⟨v, hv, rfl⟩ := hj
    exact h key v hv

theorem forall_mem_values_toJsonFields {P : Json → Prop} {b : Option String} {fields : Fields Value b} :
    (∀ j ∈ (toJsonFields fields).values, P j) ↔ ∀ key v, fields.find? key = some v → P v.toJson :=
  Fields.forall_mem_values.trans (forall_find?_toJsonFields (P := P))

/-- What all items of an array have as JSON, they have. -/
theorem forall_mem_toJsonItems {P : Json → Prop} {items : List Value} :
    (∀ j ∈ toJsonItems items, P j) ↔ ∀ v ∈ items, P v.toJson := by
  rw [toJsonItems_eq_map, List.forall_mem_map]

/-! ## Values that are read -/

/-- The value is one that a text of JSON may stand for. -/
inductive IsRead : Value → Prop where
  | null : IsRead null
  | bool (b : Bool) : IsRead (bool b)
  | int (i : Int64) : IsRead (int i)
  | uint {n : UInt64} (h : 0x8000000000000000 ≤ n.toNat) : IsRead (uint n)
  | float (x : Binary64) : IsRead (float x)
  | text (s : String) : IsRead (text s)
  | array {items : List Value} (h : ∀ v ∈ items, IsRead v) : IsRead (array items)
  | record {fields : Fields Value none}
      (h : ∀ key v, fields.find? key = some v → IsRead v)
      (hnull : ∀ key v, fields.find? key = some v → v.isNull = false) : IsRead (record fields)

theorem isRead_ofNumber {n : Json.Number} (h : n.IsWord) : (ofNumber n).IsRead := by
  cases n with
  | real x => exact .float x
  | whole i =>
    rw [ofNumber]
    split
    next => exact .int _
    next hunsigned =>
      have hhigh : i.toNat < 18446744073709551616 := by have := h.2; omega
      refine .uint ?_
      rw [UInt64.toNat_ofNat_of_lt' hhigh]
      omega

/-- The fields of a decoded object are its members that are not null. -/
theorem find?_decodeMembers (key : String) {b : Option String} (members : Fields Json b) :
    (decodeMembers members).find? key
      = (members.find? key).bind fun j => if isNullJson j then none else some (decode j) := by
  induction members with
  | nil => rfl
  | cons k j h rest ih =>
    rw [decodeMembers, Fields.find?_cons]
    by_cases hk : key = k
    · subst hk
      -- a member that is left out does not come again
      have hrest : rest.find? key = none :=
        Fields.find?_eq_none_of_not_above (b := some key) (String.lt_irrefl key)
      rw [hrest, Option.bind_none] at ih
      rw [if_pos rfl, Option.bind_some]
      split
      next => rw [Fields.find?_lower, ih]
      next => rw [Fields.find?_cons, if_pos rfl]
    · rw [if_neg hk]
      split
      next => rw [Fields.find?_lower, ih]
      next => rw [Fields.find?_cons, if_neg hk, ih]

theorem isNull_decode (j : Json) : (decode j).isNull = isNullJson j := by
  cases j with
  | number n =>
    show (ofNumber n).isNull = false
    cases n with
    | real x => rfl
    | whole i =>
      rw [ofNumber]
      split <;> rfl
  | _ => rfl

/-- What is decoded from words and doubles is a value that is read. -/
theorem isRead_decode {j : Json} (hwords : ∀ n ∈ j.numbers, n.IsWord) : (decode j).IsRead := by
  induction j using Json.induction with
  | null => exact .null
  | bool b => exact .bool b
  | number n => exact isRead_ofNumber (hwords n (List.mem_singleton.2 rfl))
  | string s => exact .text s
  | array items ih =>
    have hitems := (Json.forall_mem_numbers_iff.1 hwords).2
    rw [decode, decodeItems_eq_map]
    exact .array (List.forall_mem_map.2 fun j hj => ih j hj (hitems j hj))
  | object members ih =>
    have hmembers := Fields.forall_mem_values.1 ((Json.forall_mem_numbers_iff.1 hwords).2)
    -- a member that is kept is no null
    have hfound : ∀ key v, (decodeMembers members).find? key = some v →
        ∃ j, members.find? key = some j ∧ isNullJson j = false ∧ decode j = v := by
      intro key v hv
      rw [find?_decodeMembers, Option.bind_eq_some_iff] at hv
      obtain ⟨j, hj, hv⟩ := hv
      split at hv
      next => cases hv
      next hnull => exact ⟨j, hj, Bool.eq_false_iff.2 hnull, Option.some_inj.1 hv⟩
    rw [decode]
    refine .record (fun key v hv => ?_) fun key v hv => ?_
    · obtain ⟨j, hj, -, rfl⟩ := hfound key v hv
      exact ih key j hj (hmembers key j hj)
    · obtain ⟨j, -, hnull, rfl⟩ := hfound key v hv
      rw [isNull_decode, hnull]

theorem isRead_empty : (record Record.empty).IsRead := by
  refine .record (fun key v h => ?_) fun key v h => ?_ <;> cases h

/-- A record that is read from a text is a value that is read. -/
theorem isRead_of_parse {text : String} {r : Record} (h : Record.parse text = .ok r) : (record r).IsRead := by
  rw [Record.parse] at h
  split at h
  next => cases h
  next j hj =>
    have hread := isRead_decode (Json.isWord_of_parse hj)
    -- null is read as the record without fields
    cases j with
    | null =>
      cases h
      exact Value.isRead_empty
    | object members =>
      cases h
      exact hread
    | _ => cases h

namespace IsRead

variable {v : Value}

theorem isNullJson_toJson (h : v.IsRead) : isNullJson v.toJson = v.isNull := by
  cases h <;> rfl

/-- Its JSON stands for it. -/
theorem decode_toJson (h : v.IsRead) : decode v.toJson = v := by
  induction h with
  | null => rfl
  | bool b => rfl
  | int i =>
    -- a whole number is read as signed if it fits, else as unsigned
    have hsigned : i.toInt < 0x8000000000000000 := i.toInt_lt
    show ofNumber (.whole i.toInt) = _
    rw [ofNumber, if_pos hsigned, Int64.ofInt_toInt]
  | @uint n h =>
    show ofNumber (.whole n.toNat) = _
    rw [ofNumber, if_neg (by omega), Int.toNat_natCast, UInt64.ofNat_toNat]
  | float x => rfl
  | text s => rfl
  | @array items h ih =>
    have hitems : (items.map toJson).map decode = items := by
      rw [List.map_map]
      exact (List.map_congr_left ih).trans (List.map_id items)
    rw [toJson, decode, decodeItems_eq_map, toJsonItems_eq_map, hitems]
  | @record fields h hnull ih =>
    have hmembers : ∀ key j, (toJsonFields fields).find? key = some j → isNullJson j = false :=
      forall_find?_toJsonFields.2 fun key v hv => (h key v hv).isNullJson_toJson.trans (hnull key v hv)
    rw [toJson, decode, decodeMembers_eq_map hmembers, toJsonFields_eq_map, Fields.map_map_eq_self ih]

theorem hasNullMember_toJson (h : v.IsRead) : v.toJson.hasNullMember = false := by
  induction h with
  | array h ih => exact Json.anywhere_eq_false_iff.2 ⟨rfl, forall_mem_toJsonItems.2 ih⟩
  | @record fields h hnull ih =>
    have hmembers : ∀ key v, fields.find? key = some v →
        isNullJson v.toJson = false ∧ v.toJson.hasNullMember = false :=
      fun key v hv => ⟨(h key v hv).isNullJson_toJson.trans (hnull key v hv), ih key v hv⟩
    exact Json.hasNullMember_object_eq_false_iff.2
      ((forall_find?_toJsonFields (P := fun j => isNullJson j = false ∧ j.hasNullMember = false)).2 hmembers)
  | _ => rfl

/-- Its integers are words. -/
theorem isWord_toJson (h : v.IsRead) : ∀ n ∈ v.toJson.numbers, n.IsWord := by
  induction h with
  | int i => exact List.forall_mem_singleton.2 ⟨i.le_toInt, by have := i.toInt_lt; omega⟩
  | @uint n h => exact List.forall_mem_singleton.2 ⟨by omega, by have := n.toNat_lt; omega⟩
  | float x => exact List.forall_mem_singleton.2 trivial
  | array h ih =>
    refine Json.forall_mem_numbers_iff.2 ⟨?_, forall_mem_toJsonItems.2 ih⟩
    rintro n ⟨⟩
  | record h hnull ih =>
    refine Json.forall_mem_numbers_iff.2 ⟨?_, forall_mem_values_toJsonFields.2 ih⟩
    rintro n ⟨⟩
  | _ => exact List.forall_mem_nil Json.Number.IsWord

/-- Its numbers read back if its doubles do. -/
theorem readsBack_toJson (h : v.IsRead) (hreals : ∀ x, .real x ∈ v.toJson.numbers → Json.ReadsBack x) :
    ∀ n ∈ v.toJson.numbers, n.ReadsBack := by
  intro n hn
  have hword := h.isWord_toJson n hn
  cases n with
  | whole i => exact hword
  | real x => exact hreals x hn

/-! ## Encoding -/

/-- With as many levels as it takes a value without empty records is encoded as it stands. -/
theorem encodeWithin_eq (h : v.IsRead) (s : Suppliers σ) {room : Nat}
    (hnumbers : ∀ n ∈ v.toJson.numbers, n.ReadsBack) (hobject : v.toJson.isEmptyObject = false)
    (hholds : v.toJson.holdsEmptyObject = false) (hlevels : v.toJson.levels ≤ room) :
    v.encodeWithin s room = pure v.toJson := by
  have hwritten := (Json.written_levels hnumbers hobject hholds).mono hlevels
  have hencode := hwritten.encodeWithin_decode s h.hasNullMember_toJson
  rwa [h.decode_toJson] at hencode

end IsRead

/-! ## Equality -/

theorem beqItems_self {items : List Value} (h : ∀ v ∈ items, beq v v = true) : beqItems items items = true := by
  induction items with
  | nil => rfl
  | cons v items ih =>
    obtain ⟨hfirst, hothers⟩ := List.forall_mem_cons.1 h
    rw [beqItems, hfirst, ih hothers, Bool.true_and]

theorem beqFields_self : {b : Option String} → {fields : Fields Value b} →
    (∀ key v, fields.find? key = some v → beq v v = true) → beqFields fields fields = true
  | _, .nil, _ => rfl
  | _, .cons k v _ rest, h => by
    obtain ⟨hfirst, hothers⟩ := (Fields.forall_find?_cons (P := fun _ v => beq v v = true)).1 h
    rw [beqFields, beq_self_eq_true, hfirst, beqFields_self hothers, Bool.true_and, Bool.true_and]

/-- Without a double that is no number a value that is read equals itself. -/
theorem IsRead.beq_self {v : Value} (h : v.IsRead) (hnumbers : ∀ n ∈ v.toJson.numbers, n.ReadsBack) :
    beq v v = true := by
  induction h with
  | null => rfl
  | bool b => exact beq_self_eq_true b
  | int i => exact beq_self_eq_true i
  | uint h => exact beq_self_eq_true _
  | float x =>
    -- only a value that is no number differs from itself
    have hfinite : x.isFinite = true := Json.ReadsBack.isFinite (hnumbers (.real x) (List.mem_singleton.2 rfl))
    refine x.eq_self_iff.2 ?_
    rw [Binary64.isFinite, decide_eq_true_eq] at hfinite
    rw [Binary64.isNaN, decide_eq_false hfinite, Bool.false_and]
  | text s => exact beq_self_eq_true s
  | array h ih =>
    have hitems := forall_mem_toJsonItems.1 ((Json.forall_mem_numbers_iff.1 hnumbers).2)
    exact beqItems_self fun v hv => ih v hv (hitems v hv)
  | record h hnull ih =>
    have hfields := forall_mem_values_toJsonFields.1 ((Json.forall_mem_numbers_iff.1 hnumbers).2)
    exact beqFields_self fun key v hv => ih key v hv (hfields key v hv)

/-- If an array equals what was made of its items, its items equal what was made of them. -/
theorem exists_beq_of_beqItems {f : Binary64 → Binary64} {encode : Value → StateM σ Json} {items : List Value}
    {hidden : σ}
    (h : beqItems (decodeItems (Json.mapRealsOfItems f (items.mapM encode hidden).1)) items = true) :
    ∀ v ∈ items, ∃ hidden', beq (decode ((encode v hidden').1.mapReals f)) v = true := by
  induction items generalizing hidden with
  | nil => nofun
  | cons v items ih =>
    rw [List.mapM_cons] at h
    obtain ⟨hfirst, hothers⟩ := Bool.and_eq_true_iff.1 h
    exact List.forall_mem_cons.2 ⟨⟨hidden, hfirst⟩, ih hothers⟩

/-- Equal records have equal fields. -/
theorem exists_find?_of_beqFields {key : String} {w : Value} : {b c : Option String} → {as : Fields Value b} →
    {bs : Fields Value c} → beqFields as bs = true → bs.find? key = some w →
    ∃ v, as.find? key = some v ∧ beq v w = true
  | _, _, .nil, .nil, _, hw => by cases hw
  | _, _, .cons k v _ as, .cons l u _ bs, h, hw => by
    rw [beqFields, Bool.and_eq_true, Bool.and_eq_true, beq_iff_eq] at h
    obtain ⟨⟨rfl, hfirst⟩, hothers⟩ := h
    rw [Fields.find?_cons] at hw ⊢
    split at hw
    next hk =>
      cases hw
      rw [if_pos hk]
      exact ⟨v, rfl, hfirst⟩
    next hk =>
      rw [if_neg hk]
      exact exists_find?_of_beqFields hothers hw

/-- If a record equals what was made of its fields, its fields equal what was made of them. -/
theorem exists_beq_of_beqFields {f : Binary64 → Binary64} {encode : String → Value → StateM σ Json}
    {fields : Fields Value none} {hidden : σ}
    (h : beqFields (decodeMembers (Json.mapRealsOfMembers f (fields.mapM encode hidden).1)) fields = true)
    {key : String} {v : Value} (hv : fields.find? key = some v) :
    ∃ hidden', beq (decode ((encode key v hidden').1.mapReals f)) v = true := by
  obtain ⟨w, hw, hbeq⟩ := exists_find?_of_beqFields h hv
  obtain ⟨hidden', hfind⟩ := Fields.exists_find?_mapM (f := encode) key fields hidden
  rw [find?_decodeMembers, Json.find?_mapRealsOfMembers, hfind, hv, Option.map_some, Option.map_some,
    Option.bind_some] at hw
  -- a member that is null has been left out
  split at hw
  next => cases hw
  next =>
    cases hw
    exact ⟨hidden', hbeq⟩

end Value

/-- Nothing of the value is lost when it is written with so many levels and its doubles are read as `f` of them. -/
structure Json.Kept (f : Binary64 → Binary64) (room : Nat) (j : Json) : Prop where
  levels : j.levels ≤ room
  isEmptyObject : j.isEmptyObject = false
  holdsEmptyObject : j.holdsEmptyObject = false
  reals : ∀ n ∈ j.numbers, ∀ x, n = .real x → x.isFinite = true ∧ (f x).eq x = true

namespace Json.Kept

variable {f : Binary64 → Binary64} {room : Nat}

theorem array {items : List Json} (h : ∀ j ∈ items, Kept f room j) : Kept f (room + 1) (.array items) where
  levels := height_le_iff.2 fun j hj => (h j hj).levels
  isEmptyObject := rfl
  holdsEmptyObject := holdsEmptyObject_eq_false_iff.2 fun j hj => ⟨(h j hj).isEmptyObject, (h j hj).holdsEmptyObject⟩
  reals := forall_mem_numbers_iff.2 ⟨nofun, fun j hj => (h j hj).reals⟩

theorem object {members : Fields Json none} (hne : members.isEmpty = false) (h : ∀ j ∈ members.values, Kept f room j) :
    Kept f (room + 2) (.object members) where
  levels := height_le_iff.2 fun j hj => (h j hj).levels
  isEmptyObject := hne
  holdsEmptyObject := holdsEmptyObject_eq_false_iff.2 fun j hj => ⟨(h j hj).isEmptyObject, (h j hj).holdsEmptyObject⟩
  reals := forall_mem_numbers_iff.2 ⟨nofun, fun j hj => (h j hj).reals⟩

/-- If its doubles are kept as they are read, then they read back. -/
theorem readsBack {j : Json} (h : Kept reread room j) {x : Binary64} (hx : .real x ∈ j.numbers) : ReadsBack x :=
  .of_eq (h.reals _ hx x rfl).1 (h.reals _ hx x rfl).2

end Json.Kept

namespace Value

/-- What is encoded, read and decoded to an equal value has lost nothing. -/
theorem IsRead.kept_of_beq {v : Value} (h : v.IsRead) (s : Suppliers σ) (f : Binary64 → Binary64) {room : Nat}
    {hidden : σ} (hbeq : beq (decode ((v.encodeWithin s room hidden).1.mapReals f)) v = true) :
    v.toJson.Kept f room := by
  induction h generalizing room hidden with
  | text t =>
    cases room with
    | zero =>
      -- the text that stands for what is too deep takes no level
      have ht : "<value nested too deeply>" = t := eq_of_beq hbeq
      rw [← ht]
      exact ⟨Nat.le_refl 0, rfl, rfl, List.forall_mem_nil _⟩
    | succ room =>
      refine ⟨?_, rfl, rfl, List.forall_mem_nil _⟩
      rw [toJson, Json.levels_string]
      split <;> omega
  | float x =>
    cases room with
    | zero => cases hbeq
    | succ room =>
      -- a double that is not finite is written as a word
      cases hfinite : x.isFinite with
      | false =>
        have hword : (encodeWithin s (room + 1) (.float x) hidden).1 = .string (Decimal.nonFiniteWord x) := by
          show encodeFloat x = _
          rw [encodeFloat, hfinite, if_neg Bool.false_ne_true]
        rw [hword] at hbeq
        cases hbeq
      | true =>
        have hnumber : (encodeWithin s (room + 1) (.float x) hidden).1 = .number (.real x) := by
          show encodeFloat x = _
          rw [encodeFloat, hfinite, if_pos rfl]
        rw [hnumber] at hbeq
        refine ⟨Nat.le_add_left 1 room, rfl, rfl, List.forall_mem_singleton.2 ?_⟩
        rintro y ⟨⟩
        exact ⟨hfinite, hbeq⟩
  | @array items h ih =>
    cases room with
    | zero => cases hbeq
    | succ room =>
      refine .array (forall_mem_toJsonItems.2 fun v hv => ?_)
      obtain ⟨hidden', hv'⟩ := exists_beq_of_beqItems hbeq v hv
      exact ih v hv hv'
  | @record fields h hnull ih =>
    -- a record without fields is written as null, and with one level left as a text
    rcases room with _ | _ | room
    · cases hbeq
    · rw [encodeWithin] at hbeq
      split at hbeq <;> cases hbeq
    · rw [encodeWithin] at hbeq
      split at hbeq
      next => cases hbeq
      next hne =>
        refine .object ?_ (forall_mem_values_toJsonFields.2 fun key v hv => ?_)
        · rw [toJsonFields_eq_map, Fields.isEmpty_map]
          exact Bool.eq_false_iff.2 hne
        · obtain ⟨hidden', hv'⟩ := exists_beq_of_beqFields hbeq hv
          exact ih key v hv hv'
  | int | uint =>
    cases room with
    | zero => cases hbeq
    | succ room =>
      refine ⟨Nat.le_add_left 1 room, rfl, rfl, List.forall_mem_singleton.2 ?_⟩
      rintro x ⟨⟩
  | null | bool =>
    cases room with
    | zero => cases hbeq
    | succ room => exact ⟨Nat.le_add_left 1 room, rfl, rfl, List.forall_mem_nil _⟩

end Value

namespace Record

variable {σ : Type}

/-- Other doubles make neither an object nor null of anything else. -/
theorem exists_ofJson_mapReals (f : Binary64 → Binary64) {j : Json} {r : Record} (h : ofJson j = .ok r) :
    ∃ r', ofJson (j.mapReals f) = .ok r' := by
  match j with
  | .null => exact ⟨_, rfl⟩
  | .object members => exact ⟨_, rfl⟩

/-- The text of a record is read as what was written, but for its doubles. -/
theorem parse_render_encode (s : Suppliers σ) (r : Record) (hidden : σ) :
    Json.parse (r.encode s hidden).1.render = .ok ((r.encode s hidden).1.mapReals Json.reread) := by
  have hnumbers : ∀ n ∈ (r.encode s hidden).1.numbers, n.ReadsBy Json.reread :=
    (encode_written s r hidden).forall_numbers (fun i hlow hhigh => ⟨hlow, hhigh⟩) fun x hx => Json.readsAs_reread hx
  have hnesting : (r.encode s hidden).1.nesting < Json.depthLimit :=
    Nat.lt_of_le_of_lt (nesting_encode_le s r hidden) (by decide)
  exact Json.parse_render_eq_mapReals hnumbers hnesting

/-- The text of a record is read as a record. -/
theorem exists_parse_render (s : Suppliers σ) (r : Record) (hidden : σ) :
    ∃ r', parse (r.encode s hidden).1.render = .ok r' := by
  obtain ⟨r₀, hr₀, -⟩ := ofJson_encode s r hidden
  rw [parse, parse_render_encode]
  exact exists_ofJson_mapReals Json.reread hr₀

/-- If nothing of it is lost, a record that was read is read again as it was. -/
theorem parse_encodeText_of_kept (s : Suppliers σ) (hidden : σ) {r : Record} (hr : (Value.record r).IsRead)
    (hne : r.isEmpty = false) (hlevels : (Value.record r).toJson.levels ≤ Value.depthLimit + 2)
    (hholds : (Value.record r).toJson.holdsEmptyObject = false)
    (hreals : ∀ x, .real x ∈ (Value.record r).toJson.numbers → Json.ReadsBack x) :
    parse (r.encodeText s hidden).1 = .ok r := by
  have hnumbers := hr.readsBack_toJson hreals
  have hobject : (Value.record r).toJson.isEmptyObject = false := by
    show (Value.toJsonFields r).isEmpty = false
    rw [Value.toJsonFields_eq_map, Fields.isEmpty_map, hne]
  have hencode : r.encode s = pure (Value.record r).toJson := by
    rw [encode_eq_encodeWithin, hr.encodeWithin_eq s hnumbers hobject hholds hlevels]
  -- the text nests no deeper than JSON may
  have hback : Json.parse (Value.record r).toJson.render = .ok (Value.record r).toJson :=
    Json.parse_render_eq_ok hnumbers
      (Nat.lt_of_le_of_lt (Nat.le_trans (Json.nesting_le_levels _) hlevels) (by decide))
  -- what the JSON of a value stands for is the value
  have hdecode : Value.decodeMembers (Value.toJsonFields r) = r := Value.record.inj hr.decode_toJson
  calc parse (r.encodeText s hidden).1
      = parse (Value.record r).toJson.render := by rw [encodeText, hencode]; rfl
    _ = ofJson (.object (Value.toJsonFields r)) := by rw [parse, hback, Value.toJson]
    _ = .ok r := by rw [ofJson, hdecode]

/-- A record without fields is written as null, which is read as the record without fields. -/
theorem parse_encodeText_empty (s : Suppliers σ) (hidden : σ) : parse (empty.encodeText s hidden).1 = .ok empty := by
  have hback : Json.parse Json.null.render = .ok .null := by rfl
  show parse Json.null.render = _
  rw [parse, hback]
  rfl

/-- **Which records are read again from their own text.**  The text of a record that was read from a text is always
read.  It is read as an equal record exactly if the record takes no more levels than there are, holds no record
without fields, and its doubles are read back; and then it is the same. -/
theorem parse_encodeText (s : Suppliers σ) (hidden : σ) {text : String} {r : Record} (hread : parse text = .ok r) :
    ∃ r', parse (r.encodeText s hidden).1 = .ok r' ∧
      ((r' == r) = true ↔ (Value.record r).toJson.levels ≤ Value.depthLimit + 2 ∧
        (Value.record r).toJson.holdsEmptyObject = false ∧
        ∀ x, .real x ∈ (Value.record r).toJson.numbers → Json.ReadsBack x) ∧
      ((r' == r) = true → r' = r) := by
  have hr : (Value.record r).IsRead := Value.isRead_of_parse hread
  -- without fields the text is null
  cases hempty : r.isEmpty with
  | true =>
    obtain rfl : r = empty := Fields.eq_nil_of_isEmpty hempty
    have hkept : ∀ x, .real x ∈ (Value.record empty).toJson.numbers → Json.ReadsBack x := fun _ hx => by cases hx
    exact ⟨empty, parse_encodeText_empty s hidden, iff_of_true rfl ⟨by decide, rfl, hkept⟩, fun _ => rfl⟩
  | false =>
    obtain ⟨r', hparse⟩ : ∃ r', parse (r.encodeText s hidden).1 = .ok r' := exists_parse_render s r hidden
    refine ⟨r', hparse, ?_⟩
    -- an equal record shows that nothing was lost
    have hkept (hbeq : (r' == r) = true) : (Value.record r).toJson.Kept Json.reread (Value.depthLimit + 2) := by
      have hobject : (r.encode s hidden).1
          = .object (r.mapM (fun _ v => v.encodeWithin s Value.depthLimit) hidden).1 := by
        rw [encode, hempty]
        rfl
      have hresult : parse (r.encodeText s hidden).1 = ofJson ((r.encode s hidden).1.mapReals Json.reread) := by
        show parse (r.encode s hidden).1.render = _
        rw [parse, parse_render_encode]
      rw [hparse, hobject] at hresult
      cases hresult
      have hback : (Value.decode (((Value.record r).encodeWithin s (Value.depthLimit + 2) hidden).1.mapReals
          Json.reread)).beq (.record r) = true := by
        rw [← encode_eq_encodeWithin, hobject]
        exact hbeq
      exact hr.kept_of_beq s Json.reread hback
    have hsame (hlevels : (Value.record r).toJson.levels ≤ Value.depthLimit + 2)
        (hholds : (Value.record r).toJson.holdsEmptyObject = false)
        (hreals : ∀ x, .real x ∈ (Value.record r).toJson.numbers → Json.ReadsBack x) : r' = r :=
      Except.ok.inj (hparse.symm.trans (parse_encodeText_of_kept s hidden hr hempty hlevels hholds hreals))
    refine ⟨⟨fun hbeq => ?_, fun hlossless => ?_⟩, fun hbeq => ?_⟩
    · exact ⟨(hkept hbeq).levels, (hkept hbeq).holdsEmptyObject, fun x => (hkept hbeq).readsBack⟩
    · obtain ⟨hlevels, hholds, hreals⟩ := hlossless
      rw [hsame hlevels hholds hreals]
      exact hr.beq_self (hr.readsBack_toJson hreals)
    · exact hsame (hkept hbeq).levels (hkept hbeq).holdsEmptyObject fun x => (hkept hbeq).readsBack

theorem eq_ok_of_toOption {text : String} {r : Record} (h : (parse text).toOption = some r) : parse text = .ok r := by
  cases hparse : parse text with
  | error e =>
    rw [hparse] at h
    cases h
  | ok found =>
    rw [hparse] at h
    cases h
    rfl

/-- A text with blanks, a null member, a double and integers of both kinds, the record in it two levels down. -/
theorem parse_encodeText_mixed :
    let s : Suppliers Nat :=
      ⟨fun source => pure (.deferred source), fun source n => (.uint (.ofNat (source + n)), n + 1)⟩
    let text := "\x7b \"d\": 18446744073709551615, \"a\": [-1, null, \x7b\"b\": 5e-1\x7d], \"c\": null\x7d"
    ∃ r r', parse text = .ok r ∧ parse (r.encodeText s 0).1 = .ok r' ∧ (r' == r) = true := by
  intro s text
  -- the record that is read has few levels, no empty object and one double
  have htold : (parse text).toOption.map (fun r =>
      let j := (Value.record r).toJson
      (j.levels, j.holdsEmptyObject, j.numbers))
      = some (6, false, [.whole (-1), .real ⟨0x3FE0000000000000⟩, .whole 0xffffffffffffffff]) := by
    decide +kernel
  obtain ⟨r, hr, htold⟩ := Option.map_eq_some_iff.1 htold
  obtain ⟨hlevels, hholds, hnumbers⟩ : (Value.record r).toJson.levels = 6 ∧
      (Value.record r).toJson.holdsEmptyObject = false ∧ (Value.record r).toJson.numbers
        = [.whole (-1), .real ⟨0x3FE0000000000000⟩, .whole 0xffffffffffffffff] := by
    simpa using htold
  -- which is one half
  have hreals : ∀ x, .real x ∈ (Value.record r).toJson.numbers → Json.ReadsBack x := by
    intro x hx
    rw [hnumbers] at hx
    obtain rfl : x = ⟨0x3FE0000000000000⟩ := by simpa using hx
    exact Json.readsBack_half
  obtain ⟨r', hread', hiff, -⟩ := parse_encodeText s 0 (eq_ok_of_toOption hr)
  exact ⟨r, r', eq_ok_of_toOption hr, hread', hiff.2 ⟨by rw [hlevels]; decide, hholds, hreals⟩⟩

/-- What a record without fields, a double that is not read back and arrays that are too deep come back as is not what
was read. -/
theorem parse_encodeText_lossy :
    let s : Suppliers Unit := ⟨fun _ => pure .null, fun _ => pure .null⟩
    let deep := "\x7b\"a\":" ++ String.ofList (List.replicate 65 '[' ++ List.replicate 65 ']') ++ "\x7d"
    ∀ text ∈ ["\x7b\"a\":\x7b\x7d\x7d", "\x7b\"a\":5e32\x7d", deep],
      ∃ r r', parse text = .ok r ∧ parse (r.encodeText s ()).1 = .ok r' ∧ (r' == r) = false := by
  intro s deep
  have hlost : ∀ text ∈ ["\x7b\"a\":\x7b\x7d\x7d", "\x7b\"a\":5e32\x7d", deep],
      ((parse text).toOption.bind fun r => (parse (r.encodeText s ()).1).toOption.map fun r' => r' == r)
        = some false := by
    decide +kernel
  intro text htext
  obtain ⟨r, hr, hfound⟩ := Option.bind_eq_some_iff.1 (hlost text htext)
  obtain ⟨r', hr', hne⟩ := Option.map_eq_some_iff.1 hfound
  exact ⟨r, r', eq_ok_of_toOption hr, eq_ok_of_toOption hr', hne⟩

end Record

end Logbook
