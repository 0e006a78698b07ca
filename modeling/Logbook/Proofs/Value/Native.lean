import Logbook.Proofs.Value.Rereading

/-!
# Values that JSON has too

JSON has truth values, numbers, texts, arrays and objects of its own.  A value that is made of these, with integers of
the kind that they are read as (`Value.IsNative`), is read back from its text as it was, if nothing in it lies too deep.
How deep a value lies is counted from the fields of the record that is written (`Value.depths`): an item lies one level
below its array and a field two below its record.  Counted that way the limit for the depth is the limit for the levels
that encoding takes (`Json.levels_le_of_depths`).

## Key results

- `Json.levels_le_of_depths`: depth and levels
- `Value.IsNative.isRead`: values that JSON has are values that are read
- `Record.parse_encodeText_eq_ok`: records of such values come back
-/

namespace Logbook

/-! ## How deep values lie -/

namespace Json

/-- How much deeper than an array or an object its parts lie. -/
def step : Json → Nat
  | object _ => 2
  | _ => 1

/-- How deep the value lies, and everything in it. -/
def depths (depth : Nat) (j : Json) : List Nat :=
  j.fold (fun j below depth => depth :: below.flatMap fun part => part (depth + j.step)) depth

/-- The depths in a value are its own and those in its parts. -/
theorem forall_mem_depths_iff {P : Nat → Prop} {depth : Nat} {j : Json} :
    (∀ d ∈ j.depths depth, P d) ↔ P depth ∧ ∀ part ∈ j.parts, ∀ d ∈ part.depths (depth + j.step), P d := by
  rw [depths, fold_eq, List.forall_mem_cons, List.flatMap_map, List.forall_mem_flatMap]
  rfl

/-- If nothing in it lies below the limit, and no object in it is empty, a value takes no more levels than there are
from its own depth to the limit. -/
theorem levels_le_of_depths {j : Json} (hobject : j.isEmptyObject = false) (hholds : j.holdsEmptyObject = false)
    {depth limit : Nat} (hdepth : ∀ d ∈ j.depths depth, d ≤ limit) : j.levels + depth ≤ limit + 1 := by
  induction j using Json.induction_parts generalizing depth with
  | h j ih =>
    obtain ⟨hown, hbelow⟩ := forall_mem_depths_iff.1 hdepth
    have hkept := holdsEmptyObject_eq_false_iff.1 hholds
    have hparts : ∀ part ∈ j.parts, depth + j.step ≤ limit ∧ part.levels + (depth + j.step) ≤ limit + 1 := by
      intro part hpart
      have hpartDepth := hbelow part hpart
      exact ⟨(forall_mem_depths_iff.1 hpartDepth).1, ih part hpart (hkept part hpart).1 (hkept part hpart).2 hpartDepth⟩
    cases j with
    | array items =>
      -- one level is the array's own, and the items have the others
      have hlevels : (array items).levels ≤ limit - depth + 1 := height_le_iff.2 fun part hpart => by
        have hpart : part.levels + (depth + 1) ≤ limit + 1 := (hparts part hpart).2
        show part.levels ≤ limit - depth
        omega
      omega
    | object members =>
      -- two levels are the object's own, and it has a member to show that there are as many
      have hroom : depth + 2 ≤ limit := by
        cases members with
        | nil => cases hobject
        | cons key j above rest => exact (hparts j List.mem_cons_self).1
      have hlevels : (object members).levels ≤ limit - (depth + 1) + 2 := height_le_iff.2 fun part hpart => by
        have hpart : part.levels + (depth + 2) ≤ limit + 1 := (hparts part hpart).2
        show part.levels ≤ limit - (depth + 1)
        omega
      omega
    | string s =>
      rw [levels_string]
      split <;> omega
    | _ =>
      show 1 + depth ≤ limit + 1
      omega

end Json

/-! ## Values that JSON has -/

namespace Value

/-- The value is one that JSON has.  Null is one only as an item of an array. -/
inductive IsNative : Value → Prop where
  | bool (b : Bool) : IsNative (bool b)
  | int (i : Int64) : IsNative (int i)
  | uint {n : UInt64} (h : 0x8000000000000000 ≤ n.toNat) : IsNative (uint n)
  | float {x : Binary64} (h : x.isFinite = true) : IsNative (float x)
  | text (s : String) : IsNative (text s)
  | array {items : List Value} (h : ∀ v ∈ items, v.isNull = false → IsNative v) : IsNative (array items)
  | record {fields : Fields Value none} (hne : fields.isEmpty = false)
      (h : ∀ key v, fields.find? key = some v → IsNative v) : IsNative (record fields)

/-- How deep the value lies, and everything in it. -/
def depths (depth : Nat) (v : Value) : List Nat := v.toJson.depths depth

/-- Only null is null. -/
theorem eq_null_of_isNull {v : Value} (h : v.isNull = true) : v = null := by
  cases v with
  | null => rfl
  | _ => cases h

namespace IsNative

variable {v : Value}

/-- A native value is not null. -/
theorem isNull_eq_false (h : v.IsNative) : v.isNull = false := by
  cases h <;> rfl

/-- What holds of null and of the values that JSON has holds of the items of an array of them. -/
theorem forall_mem_items {P : Value → Prop} {items : List Value} (hnull : P null)
    (h : ∀ v ∈ items, v.isNull = false → P v) : ∀ v ∈ items, P v := by
  intro v hv
  cases hn : v.isNull with
  | true => exact eq_null_of_isNull hn ▸ hnull
  | false => exact h v hv hn

/-- A native value is one that can be read. -/
theorem isRead (h : v.IsNative) : v.IsRead := by
  induction h with
  | bool b => exact .bool b
  | int i => exact .int i
  | uint h => exact .uint h
  | float h => exact .float _
  | text s => exact .text s
  | array h ih => exact .array (forall_mem_items .null ih)
  | record hne h ih => exact .record ih fun key v hv => (h key v hv).isNull_eq_false

/-- No record in it is empty. -/
theorem isEmptyObject_toJson (h : v.IsNative) :
    v.toJson.isEmptyObject = false ∧ v.toJson.holdsEmptyObject = false := by
  -- by induction on the value; a record has fields, so it is no empty object
  induction h with
  | array h ih =>
    have hitems := forall_mem_items (P := fun v => v.toJson.isEmptyObject = false ∧ v.toJson.holdsEmptyObject = false)
      ⟨rfl, rfl⟩ ih
    exact ⟨rfl, Json.holdsEmptyObject_eq_false_iff.2 (forall_mem_toJsonItems.2 hitems)⟩
  | @record fields hne h ih =>
    refine ⟨?_, Json.holdsEmptyObject_eq_false_iff.2 (forall_mem_values_toJsonFields
      (P := fun j => j.isEmptyObject = false ∧ j.holdsEmptyObject = false) |>.2 ih)⟩
    show (toJsonFields fields).isEmpty = false
    rw [toJsonFields_eq_map, Fields.isEmpty_map, hne]
  | _ => exact ⟨rfl, rfl⟩

end IsNative

end Value

namespace Record

variable {σ : Type}

/-- What holds of all fields and of a value holds of all fields when the value is set. -/
theorem forall_find?_set {P : Value → Prop} {r : Record} {key : String} {v : Value}
    (h : ∀ k w, r.find? k = some w → P w) (hv : P v) : ∀ k w, (r.set key v).find? k = some w → P w := by
  intro k w hw
  rw [find?_set] at hw
  split at hw
  next => exact Option.some_inj.1 hw ▸ hv
  next => exact h k w hw

/-- **Records of values that JSON has come back.**  If nothing in a record lies deeper than the limit, counted from its
fields, then its text is read as the record itself, as far as the texts of its doubles are read as these doubles. -/
theorem parse_encodeText_eq_ok (s : Suppliers σ) (hidden : σ) {r : Record}
    (hnative : ∀ key v, r.find? key = some v → v.IsNative)
    (hdepth : ∀ key v, r.find? key = some v → ∀ d ∈ v.depths 1, d ≤ Value.depthLimit)
    (hreals : ∀ x, .real x ∈ (Value.record r).toJson.numbers → Json.ReadsBack x) :
    parse (r.encodeText s hidden).1 = .ok r ∧ (r == r) = true := by
  have hread : (Value.record r).IsRead :=
    .record (fun key v hv => (hnative key v hv).isRead) fun key v hv => (hnative key v hv).isNull_eq_false
  have hnumbers := hread.readsBack_toJson hreals
  refine ⟨?_, hread.beq_self hnumbers⟩
  cases hempty : r.isEmpty with
  | true =>
    obtain rfl : r = empty := Fields.eq_nil_of_isEmpty hempty
    exact parse_encodeText_empty s hidden
  | false =>
    have hmembers := (Value.IsNative.record hempty hnative).isEmptyObject_toJson
    -- the levels are those of the fields, each of which is one deeper
    have hlevels : (Value.record r).toJson.levels ≤ Value.depthLimit + 2 := by
      refine Json.height_le_iff.2 (Value.forall_mem_values_toJsonFields.2 fun key v hv => ?_)
      obtain ⟨hobject, hholds⟩ := (hnative key v hv).isEmptyObject_toJson
      exact Nat.le_of_succ_le_succ (Json.levels_le_of_depths hobject hholds (hdepth key v hv))
    exact parse_encodeText_of_kept s hidden hread hempty hlevels hmembers.2 hreals

/-- A text at the greatest depth that there may be, a null among items, and an integer too large for a signed one. -/
theorem parse_encodeText_deep :
    let s : Suppliers Nat := ⟨fun source => pure (.deferred source), fun _ => pure .null⟩
    let bottom : Value := .record (empty.set "bottom" (.text "\x22"))
    let deep := Nat.repeat (fun v => .array [v]) 61 bottom
    let items : Value := .array [.null, .bool true, .int (.ofInt (-5)), .uint 0xffffffffffffffff]
    let r := ((empty.set "deep" deep).set "half" (.float ⟨0x3FE0000000000000⟩)).set "items" items
    64 ∈ deep.depths 1 ∧ parse (r.encodeText s 0).1 = .ok r := by
  intro s bottom deep items r
  -- a property of all fields is one of these three
  have hfields {P : Value → Prop} (hdeep : P deep) (hhalf : P (.float ⟨0x3FE0000000000000⟩)) (hitems : P items) :
      ∀ key v, r.find? key = some v → P v :=
    forall_find?_set (forall_find?_set (forall_find?_set nofun hdeep) hhalf) hitems
  -- by induction on the arrays around the record
  have hdeep : deep.IsNative := by
    have hrepeat : ∀ n, (Nat.repeat (fun v => Value.array [v]) n bottom).IsNative := by
      intro n
      induction n with
      | zero => exact .record rfl (forall_find?_set nofun (.text "\x22"))
      | succ n ih => exact .array fun v hv _ => List.mem_singleton.1 hv ▸ ih
    exact hrepeat 61
  have hitems : items.IsNative := by
    refine .array ?_
    simp only [List.forall_mem_cons]
    exact ⟨nofun, fun _ => .bool _, fun _ => .int _, fun _ => .uint (by decide), nofun⟩
  -- the only double is one half
  have hreals : ∀ x, .real x ∈ (Value.record r).toJson.numbers → Json.ReadsBack x := by
    have hnumbers : (Value.record r).toJson.numbers
        = [.real ⟨0x3FE0000000000000⟩, .whole (-5), .whole 0xffffffffffffffff] := by
      decide +kernel
    intro x hx
    rw [hnumbers] at hx
    obtain rfl : x = ⟨0x3FE0000000000000⟩ := by simpa using hx
    exact Json.readsBack_half
  have hdepth : ∀ key v, r.find? key = some v → ∀ d ∈ v.depths 1, d ≤ Value.depthLimit :=
    hfields (by decide +kernel) (by decide) (by decide)
  exact ⟨by decide +kernel, (parse_encodeText_eq_ok s 0 (hfields hdeep (.float rfl) hitems) hdepth hreals).1⟩

end Record

end Logbook
