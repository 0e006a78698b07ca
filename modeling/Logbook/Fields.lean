/-!
# Fields in key order

`Fields α b` is a finite map from strings to `α`.  Its keys increase strictly and all lie above the bound
`b`, which the type itself says, so two maps are equal exactly when they look up the same (`ext`), and
listing a map (`toList`) lists it in the order of its keys.  Maps without a bound are `Fields α none`.

The interface lemmas say what each operation does to look-up:

* `find?_insert`   an inserted key holds the new value, all others are as before
* `find?_erase`    an erased key is gone, all others are as before
* `find?_map`      mapping keeps the keys
* `exists_find?_mapM`   so does visiting, in some state on the way
* `forall_mem_values`   the values are what look-up finds
-/

namespace Logbook

/-- The key lies above the bound, if there is one. -/
def Above : Option String → String → Prop
  | none, _ => True
  | some b, key => b < key

instance : (b : Option String) → (key : String) → Decidable (Above b key)
  | none, _ => .isTrue trivial
  | some b, key => inferInstanceAs (Decidable (b < key))

/-- What lies above a key lies above its bound. -/
theorem Above.trans {b : Option String} {k l : String} (h : Above b k) (hkl : k < l) : Above b l := by
  cases b with
  | none => trivial
  | some b => exact String.lt_trans h hkl

theorem above_some {b key : String} : Above (some b) key ↔ b < key := Iff.rfl

/-- A key that neither lies below `k` nor equals it lies above it. -/
theorem above_of_not_lt {k key : String} (hlt : ¬ key < k) (hne : ¬ key = k) : Above (some k) key := by
  rcases Std.lt_trichotomy key k with h | h | h
  · exact absurd h hlt
  · exact absurd h hne
  · exact h

/-- A map from strings whose keys increase strictly from above the bound. -/
inductive Fields (α : Type) : Option String → Type where
  | nil {b : Option String} : Fields α b
  | cons {b : Option String} (key : String) (value : α) (above : Above b key)
      (rest : Fields α (some key)) : Fields α b

namespace Fields

variable {α β : Type}

instance {b : Option String} : Inhabited (Fields α b) := ⟨nil⟩

def find? : {b : Option String} → Fields α b → String → Option α
  | _, nil, _ => none
  | _, cons k v _ rest, key => if key = k then some v else rest.find? key

def contains {b : Option String} (f : Fields α b) (key : String) : Bool := (f.find? key).isSome

def isEmpty : {b : Option String} → Fields α b → Bool
  | _, nil => true
  | _, cons .. => false

def size : {b : Option String} → Fields α b → Nat
  | _, nil => 0
  | _, cons _ _ _ rest => rest.size + 1

/-- The entries in the order of their keys. -/
def toList : {b : Option String} → Fields α b → List (String × α)
  | _, nil => []
  | _, cons k v _ rest => (k, v) :: rest.toList

def keys {b : Option String} (f : Fields α b) : List String := f.toList.map (·.1)

/-- The values in the order of their keys. -/
def values : {b : Option String} → Fields α b → List α
  | _, nil => []
  | _, cons _ v _ rest => v :: rest.values

/-- The same entries under a lower bound. -/
def lower {b : Option String} {k : String} (h : Above b k) : Fields α (some k) → Fields α b
  | nil => nil
  | cons key v hk rest => cons key v (h.trans hk) rest

/-- Give a key a value, whatever it held before. -/
def insertAbove (key : String) (value : α) :
    {b : Option String} → Above b key → Fields α b → Fields α b
  | _, h, nil => cons key value h nil
  | _, h, cons k v hk rest =>
    if hlt : key < k then cons key value h (cons k v (above_some.2 hlt) rest)
    else if heq : key = k then cons k value hk rest
    else cons k v hk (insertAbove key value (above_of_not_lt hlt heq) rest)

/-- Give a key a value, whatever it held before. -/
def insert (f : Fields α none) (key : String) (value : α) : Fields α none :=
  insertAbove key value (b := none) trivial f

def erase (key : String) : {b : Option String} → Fields α b → Fields α b
  | _, nil => nil
  | _, cons k v h rest => if key = k then rest.lower h else cons k v h (rest.erase key)

def map (f : α → β) : {b : Option String} → Fields α b → Fields β b
  | _, nil => nil
  | _, cons k v h rest => cons k (f v) h (rest.map f)

/-- Visit the entries in order, giving each key a new value. -/
def mapM {m : Type → Type} [Monad m] (f : String → α → m β) :
    {b : Option String} → Fields α b → m (Fields β b)
  | _, nil => pure nil
  | _, cons k v h rest => do
    let v' ← f k v
    let rest' ← rest.mapM f
    pure (cons k v' h rest')

/-- Later entries win. -/
def ofList (entries : List (String × α)) : Fields α none :=
  entries.foldl (fun f e => f.insert e.1 e.2) nil

/-! ## Interface lemmas -/

@[simp] theorem find?_nil {b : Option String} (key : String) :
    (nil : Fields α b).find? key = none := rfl

theorem find?_cons {b : Option String} (k : String) (v : α) (h : Above b k)
    (rest : Fields α (some k)) (key : String) :
    (cons k v h rest).find? key = if key = k then some v else rest.find? key := rfl

/-- A key that is present lies above the bound. -/
theorem above_of_find? : {b : Option String} → {f : Fields α b} → {key : String} → {v : α} →
    f.find? key = some v → Above b key
  | _, cons k w h rest, key, v, hf => by
    rw [find?_cons] at hf
    split at hf
    next heq => exact heq ▸ h
    next =>
      have : Above (some k) key := above_of_find? hf
      exact h.trans this

/-- A key that is not above the bound is not found. -/
theorem find?_eq_none_of_not_above {b : Option String} {f : Fields α b} {key : String}
    (h : ¬ Above b key) : f.find? key = none := by
  cases hf : f.find? key with
  | none => rfl
  | some v => exact absurd (above_of_find? hf) h

/-- A lower bound changes nothing about look-up. -/
@[simp] theorem find?_lower {b : Option String} {k : String} (h : Above b k)
    (f : Fields α (some k)) (key : String) : (f.lower h).find? key = f.find? key := by
  cases f <;> rfl

/-- Inserting changes the key only; a new key comes before the first that is larger. -/
theorem find?_insertAbove (key : String) (value : α) : {b : Option String} → (h : Above b key) →
    (f : Fields α b) → (k : String) →
    (insertAbove key value h f).find? k = if k = key then some value else f.find? k
  | _, h, nil, k => by simp [insertAbove, find?_cons]
  | _, h, cons l v hl rest, k => by
    rw [insertAbove]
    split
    -- the new key comes first, and nothing behind it is lost
    next hlt => rw [find?_cons, find?_cons, find?_cons]
    next hlt =>
      split
      next heq =>
        -- the first key gets the new value
        subst heq
        rw [find?_cons, find?_cons]
        split <;> rfl
      next heq =>
        rw [find?_cons, find?_insertAbove key value _ rest k, find?_cons]
        by_cases hk : k = l
        · have : k ≠ key := fun e => heq (e ▸ hk)
          simp [hk, Ne.symm heq]
        · simp [hk]

/-- An inserted key holds the new value. -/
@[simp] theorem find?_insert (f : Fields α none) (key : String) (value : α) (k : String) :
    (f.insert key value).find? k = if k = key then some value else f.find? k :=
  find?_insertAbove key value (b := none) trivial f k

/-- An erased key is gone. -/
theorem find?_erase (key : String) : {b : Option String} → (f : Fields α b) → (k : String) →
    (f.erase key).find? k = if k = key then none else f.find? k
  | _, nil, k => by simp [erase]
  | b, cons l v hl rest, k => by
    rw [erase]
    split
    next heq =>
      -- the keys behind the erased one are larger, so it is not found again
      subst heq
      rw [find?_lower, find?_cons]
      split
      next hk =>
        subst hk
        exact find?_eq_none_of_not_above (b := some k) (String.lt_irrefl k)
      next => rfl
    next heq =>
      rw [find?_cons, find?_erase key rest k, find?_cons]
      by_cases hk : k = l
      · simp [hk, Ne.symm heq]
      · simp [hk]

/-- Each value is mapped under its key. -/
@[simp] theorem find?_map (g : α → β) : {b : Option String} → (f : Fields α b) → (k : String) →
    (f.map g).find? k = (f.find? k).map g
  | _, nil, k => rfl
  | _, cons l v hl rest, k => by
    rw [map, find?_cons, find?_cons, find?_map g rest k]
    split <;> rfl

/-- What is made of the values of a map one after another is made of the value under the same key. -/
theorem exists_find?_mapM {σ : Type} {f : String → α → StateM σ β} (key : String) : {b : Option String} →
    (fields : Fields α b) → (hidden : σ) →
    ∃ hidden', (fields.mapM f hidden).1.find? key = (fields.find? key).map fun v => (f key v hidden').1
  | _, nil, hidden => ⟨hidden, rfl⟩
  | _, cons k v h rest, hidden => by
    let first := f k v hidden
    show ∃ hidden', (cons k first.1 h (rest.mapM f first.2).1).find? key = _
    rw [find?_cons, find?_cons]
    by_cases hk : key = k
    · subst hk
      rw [if_pos rfl, if_pos rfl]
      exact ⟨hidden, rfl⟩
    · rw [if_neg hk, if_neg hk]
      exact exists_find?_mapM key rest first.2

/-- A key is there if it is the first or among the others. -/
theorem contains_cons {b : Option String} (k : String) (v : α) (h : Above b k) (rest : Fields α (some k))
    (key : String) : (cons k v h rest).contains key = (decide (key = k) || rest.contains key) := by
  rw [contains, find?_cons]
  by_cases hk : key = k <;> simp [hk, contains]

/-- A key that is not above the bound is not there. -/
theorem contains_eq_false_of_not_above {b : Option String} {f : Fields α b} {key : String}
    (h : ¬ Above b key) : f.contains key = false := by
  rw [contains, find?_eq_none_of_not_above h]
  rfl

/-- Maps with the same keys have the same first key. -/
theorem first_key_eq {b c : Option String} {k l : String} {v : α} {w : β} {hk : Above b k} {hl : Above c l}
    {rest : Fields α (some k)} {rest' : Fields β (some l)}
    (hkeys : ∀ key, (cons k v hk rest).contains key = (cons l w hl rest').contains key) : k = l := by
  rcases Std.lt_trichotomy k l with hlt | heq | hlt
  · -- the smaller first key is not in the other map, whose keys are all larger
    have := hkeys k
    rw [contains_cons, contains_cons,
      contains_eq_false_of_not_above (b := some l) (f := rest') (String.lt_asymm hlt)] at this
    simpa using this
  · exact heq
  · have := hkeys l
    rw [contains_cons, contains_cons,
      contains_eq_false_of_not_above (b := some k) (f := rest) (String.lt_asymm hlt)] at this
    simpa [eq_comm] using this

/-- Maps that look up the same are the same. -/
theorem ext : {b : Option String} → {f g : Fields α b} → (∀ k, f.find? k = g.find? k) → f = g
  | _, nil, nil, _ => rfl
  | _, nil, cons k v h rest, hfg => by simpa [find?_cons] using hfg k
  | _, cons k v h rest, nil, hfg => by simpa [find?_cons] using hfg k
  | b, cons k v h rest, cons l w hl rest', hfg => by
    -- they have the same keys, so the first ones are the same, and then the values and the others
    have hkeys : ∀ j, (cons k v h rest).contains j = (cons l w hl rest').contains j := fun j => by
      rw [contains, contains, hfg]
    obtain rfl := first_key_eq hkeys
    obtain rfl : v = w := by simpa [find?_cons] using hfg k
    have hrest : rest = rest' := ext fun j => by
      by_cases hj : j = k
      · subst hj
        rw [find?_eq_none_of_not_above (b := some j) (String.lt_irrefl j),
          find?_eq_none_of_not_above (b := some j) (String.lt_irrefl j)]
      · simpa [find?_cons, hj] using hfg j
    rw [hrest]

/-- The entries are what look-up finds. -/
theorem mem_toList : {b : Option String} → {f : Fields α b} → {key : String} → {v : α} →
    (key, v) ∈ f.toList ↔ f.find? key = some v
  | _, nil, key, v => by simp [toList]
  | _, cons k w h rest, key, v => by
    rw [toList, List.mem_cons, mem_toList, find?_cons]
    by_cases hk : key = k
    · -- the key stands first, so the rest, which lies above it, does not have it again
      subst hk
      have hrest : rest.find? key = none :=
        find?_eq_none_of_not_above (b := some key) (String.lt_irrefl key)
      simp [hrest, eq_comm]
    · simp [hk]

/-- What holds of all values of a map holds of the first and of the others. -/
theorem forall_find?_cons {b : Option String} {k : String} {v : α} {h : Above b k} {rest : Fields α (some k)}
    {P : String → α → Prop} :
    (∀ key w, (cons k v h rest).find? key = some w → P key w) ↔
      P k v ∧ ∀ key w, rest.find? key = some w → P key w := by
  constructor
  · intro hall
    refine ⟨hall k v (by rw [find?_cons, if_pos rfl]), fun key w hw => hall key w ?_⟩
    -- a key of the rest lies above the first one
    have hne : key ≠ k := by
      rintro rfl
      rw [find?_eq_none_of_not_above (b := some key) (String.lt_irrefl key)] at hw
      cases hw
    rw [find?_cons, if_neg hne, hw]
  · rintro ⟨hv, hrest⟩ key w hw
    rw [find?_cons] at hw
    split at hw
    next hk =>
      cases hw
      exact hk ▸ hv
    next => exact hrest key w hw

/-- The values of a map are what look-up finds. -/
theorem forall_mem_values {P : α → Prop} : {b : Option String} → {f : Fields α b} →
    ((∀ v ∈ f.values, P v) ↔ ∀ key v, f.find? key = some v → P v)
  | _, nil => by simp [values]
  | _, cons k v h rest => by
    rw [values, List.forall_mem_cons, forall_mem_values, forall_find?_cons (P := fun _ v => P v)]

theorem contains_iff {b : Option String} (f : Fields α b) (key : String) :
    f.contains key = true ↔ ∃ v, f.find? key = some v := by
  rw [contains, Option.isSome_iff_exists]

end Fields

end Logbook
