import Logbook.Value

/-!
# Records

A record is filled by its first writers: `Record.set` leaves a key alone that is there already and stores no
null, and `Record.merge` adds only the keys that are missing.  So what is set close to an entry wins over
what is merged in from further away.  `replace`, `remove` and `rename` reshape a record for output.

Interface lemmas: `find?_set`, `find?_merge`, `find?_replace`, `find?_rename`.
-/

namespace Logbook.Record

/-- The keys with a meaning. -/
def timeKey : String := "time"
def levelKey : String := "level"
def messageKey : String := "msg"
def nameKey : String := "name"
def hostKey : String := "hostname"
def processKey : String := "pid"
def threadKey : String := "tid"
def topicKey : String := "topic"
def scopeKey : String := "scope"
def errorKey : String := "err"

def empty : Record := .nil

/-- Set a key unless it is there already or the value is null. -/
def set (r : Record) (key : String) (value : Value) : Record :=
  if value.isNull || r.contains key then r else r.insert key value

/-- Set keys one after another. -/
def setAll (r : Record) (entries : List (String × Value)) : Record :=
  entries.foldl (fun r e => r.set e.1 e.2) r

/-- The record of some entries; the first of a key stays. -/
def ofEntries (entries : List (String × Value)) : Record := setAll empty entries

/-- Add a key that is missing, whatever its value. -/
def addMissing (r : Record) (key : String) (value : Value) : Record :=
  if r.contains key then r else r.insert key value

/-- Add the keys of `source` that are missing. -/
def merge (r source : Record) : Record :=
  source.toList.foldl (fun r e => r.addMissing e.1 e.2) r

/-- Give a key a value, whatever it held. -/
def replace (r : Record) (key : String) (value : Value) : Record := r.insert key value

def remove (r : Record) (key : String) : Record := r.erase key

/-- Move a field to another key, which keeps what it holds already. -/
def rename (r : Record) (source target : String) : Record :=
  match r.find? source with
  | none => r
  | some v => (r.remove source).addMissing target v

/-- The text a field holds, once it is computed. -/
def textOf {m : Type → Type} [Monad m] (s : Sources m) (r : Record) (key : String) : m (Option String) :=
  match r.find? key with
  | none => pure none
  | some v => do
    let v ← v.resolve s
    pure v.text?

instance : BEq Record := ⟨Value.beqFields⟩

/-- A key is set if it is missing and the value is not null; all others are as before. -/
theorem find?_set (r : Record) (key : String) (value : Value) (k : String) :
    (r.set key value).find? k
      = if k = key ∧ value.isNull = false ∧ r.find? key = none then some value else r.find? k := by
  unfold set Fields.contains
  cases hn : value.isNull <;> cases hf : r.find? key <;> by_cases hk : k = key <;> simp [hk, hf]

/-- A key is added if it is missing; all others are as before. -/
theorem find?_addMissing (r : Record) (key : String) (value : Value) (k : String) :
    (r.addMissing key value).find? k
      = if k = key ∧ r.find? key = none then some value else r.find? k := by
  unfold addMissing Fields.contains
  cases hf : r.find? key <;> by_cases hk : k = key <;> simp [hk, hf]

/-- Adding what is missing key by key looks first where it is added. -/
theorem find?_foldl_addMissing : {b : Option String} → (source : Fields Value b) → (r : Record) →
    (k : String) →
    (source.toList.foldl (fun r e => Record.addMissing r e.1 e.2) r).find? k
      = (r.find? k).or (source.find? k)
  | _, .nil, r, k => by simp [Fields.toList]
  | _, .cons key v h rest, r, k => by
    rw [Fields.toList, List.foldl_cons, find?_foldl_addMissing rest, find?_addMissing, Fields.find?_cons]
    by_cases hk : k = key
    · subst hk
      cases hr : r.find? k <;> simp
    · simp [hk]

/-- What a merged record holds: its own fields first. -/
@[simp] theorem find?_merge (r source : Record) (k : String) :
    (r.merge source).find? k = (r.find? k).or (source.find? k) :=
  find?_foldl_addMissing source r k

/-- A replaced key holds the new value. -/
@[simp] theorem find?_replace (r : Record) (key : String) (value : Value) (k : String) :
    (r.replace key value).find? k = if k = key then some value else r.find? k :=
  Fields.find?_insert r key value k

/-- A removed key is gone. -/
@[simp] theorem find?_remove (r : Record) (key k : String) :
    (r.remove key).find? k = if k = key then none else r.find? k :=
  Fields.find?_erase key r k

/-- A field that is renamed comes behind what its new key holds; the old key is gone. -/
theorem find?_rename (r : Record) (source target k : String) :
    (r.rename source target).find? k
      = if k = target then (if source = target then r.find? k else (r.find? target).or (r.find? source))
        else if k = source then none else r.find? k := by
  unfold rename
  cases hs : r.find? source with
  | none =>
    -- there is nothing to rename
    by_cases hk : k = target
    · by_cases he : source = target <;> simp [hk, he]
    · by_cases hks : k = source
      · subst hks; simp [hk, hs]
      · simp [hk, hks]
  | some v =>
    simp only [find?_addMissing, find?_remove]
    by_cases hk : k = target
    · -- the field is moved, unless it stays where it is
      subst hk
      by_cases he : source = k
      · subst he; simp [hs]
      · have he' : ¬ k = source := fun h => he h.symm
        cases ht : r.find? k <;> simp [he, he']
    · simp [hk]

end Logbook.Record
