import Logbook.Decimal.Binary64
import Logbook.Fields

/-!
# JSON values

An object maps its keys to values in the order of the keys, so equal objects are written alike.
-/

namespace Logbook

/-- A number is an integer, or a double when it was written with a point or an exponent, or is too large. -/
inductive Json.Number where
  | whole (i : Int)
  | real (x : Binary64)
deriving DecidableEq

inductive Json where
  | null
  | bool (b : Bool)
  | number (n : Json.Number)
  | string (s : String)
  | array (items : List Json)
  | object (members : Fields Json none)

namespace Json

instance : Inhabited Json := ⟨null⟩

def whole (i : Int) : Json := number (.whole i)

/-! ## Parts -/

/-- What a value has if its items and members have it, all values have. -/
theorem induction {P : Json → Prop} (null : P null) (bool : ∀ b, P (bool b)) (number : ∀ n, P (number n))
    (string : ∀ s, P (string s)) (array : ∀ items, (∀ j ∈ items, P j) → P (array items))
    (object : ∀ members, (∀ key j, members.find? key = some j → P j) → P (object members)) (j : Json) : P j := by
  -- the items and the members are taken along, with what is to be shown of each of them
  refine @Json.rec P (fun items => ∀ j ∈ items, P j) (fun _ members => ∀ key j, members.find? key = some j → P j)
    null bool number string array object ?noItems ?items ?noMembers ?members j
  case noItems => simp
  case items => exact fun j rest hj hrest => List.forall_mem_cons.2 ⟨hj, hrest⟩
  case noMembers => simp
  case members =>
    exact fun key j above rest hj hrest => (Fields.forall_find?_cons (P := fun _ j => P j)).2 ⟨hj, hrest⟩

/-- The items of an array, and what the members of an object are. -/
def parts : Json → List Json
  | array items => items
  | object members => members.values
  | _ => []

/-- What a value has if its parts have it, all values have. -/
theorem induction_parts {P : Json → Prop} (h : ∀ j : Json, (∀ part ∈ j.parts, P part) → P j) (j : Json) : P j := by
  induction j using Json.induction with
  | array items ih => exact h (array items) ih
  | object members ih => exact h (object members) (Fields.forall_mem_values.2 ih)
  | _ => exact h _ (List.forall_mem_nil P)

mutual

/-- Make something of a value and of what was made of its parts. -/
def fold {α : Type} (f : Json → List α → α) : Json → α
  | null => f null []
  | bool b => f (bool b) []
  | number n => f (number n) []
  | string s => f (string s) []
  | array items => f (array items) (foldItems f items)
  | object members => f (object members) (foldMembers f members)

def foldItems {α : Type} (f : Json → List α → α) : List Json → List α
  | [] => []
  | j :: rest => j.fold f :: foldItems f rest

def foldMembers {α : Type} (f : Json → List α → α) : {b : Option String} → Fields Json b → List α
  | _, .nil => []
  | _, .cons _ j _ rest => j.fold f :: foldMembers f rest

end

/-- What is made of the items is made of each of them. -/
theorem foldItems_eq_map {α : Type} (f : Json → List α → α) (items : List Json) :
    foldItems f items = items.map (fold f) := by
  induction items with
  | nil => rfl
  | cons j items ih => rw [foldItems, ih, List.map_cons]

/-- What is made of the members is made of each value. -/
theorem foldMembers_eq_map {α : Type} (f : Json → List α → α) : {b : Option String} → (members : Fields Json b) →
    foldMembers f members = members.values.map (fold f)
  | _, .nil => rfl
  | _, .cons _ _ _ rest => by rw [foldMembers, foldMembers_eq_map f rest, Fields.values, List.map_cons]

/-- Each value is taken together with what was made of its parts. -/
theorem fold_eq {α : Type} (f : Json → List α → α) (j : Json) : j.fold f = f j (j.parts.map (fold f)) := by
  cases j with
  | array items => rw [fold, foldItems_eq_map, parts]
  | object members => rw [fold, foldMembers_eq_map, parts]
  | _ => rfl

/-- The largest of some numbers is bounded if each is. -/
theorem foldr_max_map_le_iff {α : Type} {f : α → Nat} {xs : List α} {n : Nat} :
    (xs.map f).foldr max 0 ≤ n ↔ ∀ x ∈ xs, f x ≤ n := by
  induction xs with
  | nil => simp
  | cons x xs ih => rw [List.map_cons, List.foldr_cons, Nat.max_le, ih, List.forall_mem_cons]

/-- The largest sum of weights on the way from a value to one in it. -/
def height (weight : Json → Nat) : Json → Nat := fold fun j below => below.foldr max 0 + weight j

/-- The height of a value is the largest of its parts, and its own weight. -/
theorem height_eq (weight : Json → Nat) (j : Json) :
    j.height weight = (j.parts.map (height weight)).foldr max 0 + weight j := fold_eq _ j

/-- A bound for a value is one for its parts. -/
theorem height_le_iff {weight : Json → Nat} {j : Json} {n : Nat} :
    j.height weight ≤ n + weight j ↔ ∀ part ∈ j.parts, part.height weight ≤ n := by
  rw [height_eq, Nat.add_le_add_iff_right, foldr_max_map_le_iff]

/-- A value is as high as its own weight at least. -/
theorem weight_le_height (weight : Json → Nat) (j : Json) : weight j ≤ j.height weight := by
  rw [height_eq]
  exact Nat.le_add_left _ _

/-- Larger weights make larger sums. -/
theorem height_mono {weight weight' : Json → Nat} (h : ∀ j, weight j ≤ weight' j) (j : Json) :
    j.height weight ≤ j.height weight' := by
  induction j using induction_parts with
  | h j ih =>
    have hparts : (j.parts.map (height weight)).foldr max 0 ≤ (j.parts.map (height weight')).foldr max 0 := by
      refine foldr_max_map_le_iff.2 fun part hpart => ?_
      exact Nat.le_trans (ih part hpart) (foldr_max_map_le_iff.1 (Nat.le_refl _) part hpart)
    rw [height_eq, height_eq]
    exact Nat.add_le_add hparts (h j)

/-- How deep arrays and objects nest. -/
def nesting : Json → Nat :=
  height fun
    | array _ => 1
    | object _ => 1
    | _ => 0

end Json

end Logbook
