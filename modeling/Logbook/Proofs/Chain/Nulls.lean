import Logbook.Proofs.Chain.Layers
import Logbook.Proofs.Layout
import Logbook.Proofs.Redaction.Places
import Logbook.Proofs.Value.Native

/-!
# Merging and setting

Setting a field skips a null, merging a record does not.  So merging is setting one field after another as long as no
null stands where the receiver has nothing; from there a null hides the values that come after it.

Nulls do not get into records by themselves.  Setting and reading skip them, and merging, moving, removing, arranging
and redacting fields make none (`Record.Made`).  There are two ways in: replacing a field with null, and a deferred or
guarded value for which the application gives null.

## Key results

- `Record.find?_setAll_flatten`: what is found after all fields of some records were set, in any order
- `Record.Made.find?_ne_null`: the operations that make no nulls
- `Record.merge_eq_setAll_iff`: when merging is setting, for two records and for chains
- `Chain.flatten_of_null`: a null of a near node hides the value of a farther one
-/

namespace Logbook

variable {σ : Type}

/-! ## Setting all fields of a record -/

namespace Value

/-- What of a field can be set. -/
def kept (v : Option Value) : Option Value := v.filter fun v => !v.isNull

/-- A value is kept unless it is null. -/
theorem kept_some (v : Value) : kept (some v) = if v.isNull then none else some v := by
  cases hn : v.isNull <;> simp [kept, hn]

/-- What is no null is kept. -/
theorem kept_eq_self {v : Option Value} (h : v ≠ some null) : kept v = v := by
  cases v with
  | none => rfl
  | some v =>
    cases hn : v.isNull with
    | true => exact absurd (congrArg some (eq_null_of_isNull hn)) h
    | false => simp [kept_some, hn]

/-- The first of two values is no null if neither is. -/
theorem or_ne_null {v w : Option Value} (hv : v ≠ some null) (hw : w ≠ some null) : v.or w ≠ some null := by
  cases v with
  | none => exact hw
  | some v => exact hv

/-- What is kept is no null. -/
theorem kept_ne_null (v : Option Value) : kept v ≠ some null := by
  intro h
  rw [kept, Option.filter_eq_some_iff] at h
  exact absurd h.2 (by decide)

end Value

namespace Record

/-- The first field of a key that can be set is that of the record itself, in whatever order its fields come. -/
theorem findSome?_of_perm {b : Record} {entries : List (String × Value)} (h : entries.Perm b.toList) (key : String) :
    (entries.findSome? fun e => if key = e.1 ∧ e.2.isNull = false then some e.2 else none)
      = Value.kept (b.find? key) := by
  have hmem : ∀ v, (key, v) ∈ entries ↔ b.find? key = some v := fun v => (h.mem_iff).trans Fields.mem_toList
  -- the entries of a key are those of the record, whatever their order
  cases hfound : entries.findSome? fun e => if key = e.1 ∧ e.2.isNull = false then some e.2 else none with
  | none =>
    rw [List.findSome?_eq_none_iff] at hfound
    cases hv : b.find? key with
    | none => rfl
    | some v =>
      have hnull : v.isNull = true := by simpa using hfound (key, v) ((hmem v).2 hv)
      rw [Value.kept_some, if_pos hnull]
  | some v =>
    obtain ⟨⟨k, w⟩, hentry, hset⟩ := List.exists_of_findSome?_eq_some hfound
    obtain ⟨⟨rfl, hnull⟩, rfl⟩ := by simpa using hset
    rw [(hmem w).1 hentry, Value.kept_some, hnull]
    rfl

/-- The fields of some records, listed record by record, those of each in any order. -/
def Listed : List (List (String × Value)) → List Record → Prop :=
  List.Forall₂ fun entries source => entries.Perm (Fields.toList source)

/-- What is found after all fields of some records were set. -/
theorem find?_setAll_flatten {orders : List (List (String × Value))} {sources : List Record}
    (h : Listed orders sources) (r : Record) (key : String) :
    (r.setAll orders.flatten).find? key
      = (r.find? key).or (sources.findSome? fun source => Value.kept (source.find? key)) := by
  induction h generalizing r with
  | nil => simp [setAll]
  | @cons entries source orders sources hperm _ ih =>
    rw [List.flatten_cons, setAll, List.foldl_append, ← setAll, ← setAll, ih, find?_setAll, findSome?_of_perm hperm,
      List.findSome?_cons, Option.or_assoc]
    cases Value.kept (source.find? key) <;> rfl

/-- What is found after some records were merged in. -/
theorem find?_foldl_merge (r : Record) (sources : List Record) (key : String) :
    (sources.foldl merge r).find? key = (r.find? key).or (sources.findSome? (·.find? key)) := by
  induction sources generalizing r with
  | nil => simp
  | cons source sources ih =>
    rw [List.foldl_cons, ih, find?_merge, List.findSome?_cons, Option.or_assoc]
    cases source.find? key <;> rfl

/-- Records have the same first value of a key and the same first value that can be set, unless the first is null. -/
theorem findSome?_kept {sources : List Record} {key : String}
    (h : sources.findSome? (·.find? key) ≠ some .null) :
    (sources.findSome? fun source => Value.kept (source.find? key)) = sources.findSome? (·.find? key) := by
  -- by induction on the records: the first that has the key decides, and has no null there
  induction sources with
  | nil => rfl
  | cons source sources ih =>
    rw [List.findSome?_cons] at h ⊢
    rw [List.findSome?_cons]
    cases hv : source.find? key with
    | none =>
      rw [hv] at h
      exact ih h
    | some v =>
      rw [hv] at h
      rw [Value.kept_eq_self h]

/-- Merging some records is setting all their fields, exactly if no null of theirs comes first. -/
theorem foldl_merge_eq_setAll_iff {orders : List (List (String × Value))} {sources : List Record}
    (h : Listed orders sources) (r : Record) :
    sources.foldl merge r = r.setAll orders.flatten ↔
      ∀ key, (sources.foldl merge r).find? key = some .null → r.contains key = true := by
  constructor
  · intro heq key hnull
    rw [heq, find?_setAll_flatten h] at hnull
    rw [Fields.contains_iff]
    cases hr : r.find? key with
    | some v => exact ⟨v, rfl⟩
    | none =>
      -- what was set is no null
      rw [hr, Option.none_or] at hnull
      obtain ⟨source, -, hkept⟩ := List.exists_of_findSome?_eq_some hnull
      exact absurd hkept (Value.kept_ne_null _)
  · intro hnulls
    refine Fields.ext fun key => ?_
    have hfound := find?_foldl_merge r sources key
    rw [hfound, find?_setAll_flatten h]
    cases hr : r.find? key with
    | some v => rfl
    | none =>
      rw [hr, Option.none_or] at hfound
      rw [Option.none_or, Option.none_or, findSome?_kept]
      intro hnull
      obtain ⟨v, hv⟩ := (Fields.contains_iff r key).1 (hnulls key (hfound.trans hnull))
      cases hr.symm.trans hv

end Record

/-! ## Operations that make no nulls -/

/-- The application gives null for none of its values. -/
structure Suppliers.GivesNoNull (s : Suppliers σ) : Prop where
  compute : ∀ source hidden, (s.compute source hidden).1 ≠ .null
  disclose : ∀ source hidden, (s.disclose source hidden).1 ≠ .null

namespace Value

variable {s : Suppliers σ}

/-- Computing leads to no null, for the application gives none. -/
theorem Computes.ne_null (hs : s.GivesNoNull) {n : Nat} {hidden after : σ} {v u : Value}
    (h : v.Computes s n hidden u after) (hv : v ≠ null) : u ≠ null := by
  induction h with
  | refl => exact hv
  | @step _ hidden _ _ source _ _ hstep _ ih =>
    have hgiven := hs.compute source hidden
    rw [hstep] at hgiven
    exact ih hgiven

/-- What is no null resolves to no null if the suppliers give none. -/
theorem Resolves.ne_null (hs : s.GivesNoNull) {v w : Value} {hidden after : σ} (h : v.Resolves s hidden w after)
    (hv : v ≠ null) : w ≠ null := by
  obtain ⟨n, u, hcomputes, hstops⟩ := h
  obtain ⟨-, -, rfl⟩ | ⟨-, rfl⟩ := hstops
  · exact hcomputes.ne_null hs hv
  · rintro ⟨⟩

/-- What becomes of a value that is not null is not null either. -/
theorem Redacted.ne_null (hs : s.GivesNoNull) {rules : List Redaction.Rule} {depth : Nat} {covered : Bool}
    {hidden after : σ} {v u : Value} (h : v.Redacted s (.ofRules s rules) depth covered hidden u after)
    (hv : v ≠ null) : u ≠ null := by
  cases h with
  | @given _ _ _ mid _ _ _ source hresolve hgives =>
    have hgiven := hs.disclose source mid
    rw [show s.disclose source mid = (u, after) from hgives] at hgiven
    exact hgiven
  | scalar hresolve => exact hresolve.ne_null hs hv
  | _ => rintro ⟨⟩

end Value

/-- Naming the level makes no null. -/
theorem Layout.nameLevel_ne_null {v : Value} (hv : v ≠ .null) : nameLevel v ≠ .null := by
  rw [nameLevel]
  cases v.level? with
  | none => exact hv
  | some l => rintro ⟨⟩

/-- Writing the time makes no null. -/
theorem Layout.renderTime_ne_null (format : TimeFormat) {v : Value} (hv : v ≠ .null) :
    renderTime format v ≠ .null := by
  cases v with
  | time t =>
    rw [renderTime, TimeFormat.render]
    split <;> rintro ⟨⟩
  | null => exact absurd rfl hv
  | _ => rintro ⟨⟩

namespace Record

/-- Redaction leaves no null where none was, if the application gives none. -/
theorem redact_ne_null {s : Suppliers σ} (hs : s.GivesNoNull) {r : Record}
    (hr : ∀ key, r.find? key ≠ some .null) (rules : List Redaction.Rule) (hidden : σ) (key : String) :
    (r.redact s rules hidden).1.find? key ≠ some .null := by
  intro hnull
  obtain ⟨states, -, -, hkeys, heach⟩ := redact_eq_iff.1 (rfl : r.redact s rules hidden = (_, _))
  -- the field stands at the same place before
  obtain ⟨i, hi⟩ := List.getElem?_of_mem (Fields.mem_toList.2 hnull)
  obtain ⟨x, hx⟩ := Fields.exists_of_keys_eq hkeys.symm hi
  have hbefore : x ≠ .null := by
    rintro rfl
    exact hr key (Fields.mem_toList.1 (List.mem_of_getElem? hx))
  have hplace := heach i key x .null hx hi
  split at hplace
  next => exact hplace.ne_null hs hbefore rfl
  next => exact hplace.ne_null hs hbefore rfl

/-- No layout makes a null of a field. -/
theorem arrange_ne_null {r : Record} (hr : ∀ key, r.find? key ≠ some .null) (l : Layout) (key : String) :
    (l.arrange r).find? key ≠ some .null := by
  cases l with
  -- in each layout a key holds a value it held, or a text
  | bunyan =>
    rw [Layout.arrange, Layout.find?_arrangeBunyan]
    split
    next => exact Value.or_ne_null (hr key) (by simp)
    next => exact hr key
  | stackdriver =>
    have hseverity : (((r.find? levelKey).bind Value.level?).map fun l => Value.text l.severity) ≠ some .null := by
      cases (r.find? levelKey).bind Value.level? <;> rintro ⟨⟩
    rw [Layout.arrange, Layout.find?_arrangeStackdriver]
    split_ifs
    · exact Value.or_ne_null (hr _) (hr _)
    · rintro ⟨⟩
    · exact Value.or_ne_null hseverity (hr key)
    · exact hr key
  | cloudwatch format =>
    rw [Layout.arrange, Layout.find?_arrangeCloudwatch]
    have hfield := hr key
    -- a field goes by another name or is written as a text
    cases hv : r.find? key with
    | none => split_ifs <;> rintro ⟨⟩
    | some v =>
      have hnull : v ≠ .null := fun h => hfield (hv.trans (congrArg some h))
      split_ifs
      · exact fun h => Layout.nameLevel_ne_null hnull (Option.some.inj h)
      · exact fun h => Layout.renderTime_ne_null format hnull (Option.some.inj h)
      · exact fun h => hnull (Option.some.inj h)

/-- Records made by operations that put in no null. -/
inductive Made : Record → Prop where
  | empty : Made empty
  /-- Set a field, or build a record with one. -/
  | set {r : Record} (hr : Made r) (key : String) (value : Value) : Made (r.set key value)
  | merge {r source : Record} (hr : Made r) (hsource : Made source) : Made (r.merge source)
  | replace {r : Record} (hr : Made r) (key : String) {value : Value} (hvalue : value ≠ .null) :
      Made (r.replace key value)
  | rename {r : Record} (hr : Made r) (source target : String) : Made (r.rename source target)
  | remove {r : Record} (hr : Made r) (key : String) : Made (r.remove key)
  | parse {r : Record} {text : String} (hr : Record.parse text = .ok r) : Made r
  | arrange {r : Record} (hr : Made r) (l : Layout) : Made (l.arrange r)
  | redact {r : Record} (hr : Made r) {σ : Type} {s : Suppliers σ} (hs : s.GivesNoNull)
      (rules : List Redaction.Rule) (hidden : σ) : Made (r.redact s rules hidden).1

/-- They hold no null. -/
theorem Made.find?_ne_null {r : Record} (h : r.Made) (key : String) : r.find? key ≠ some .null := by
  -- by induction on how the record was made
  induction h generalizing key with
  | empty => rintro ⟨⟩
  | @set r _ k v ih =>
    rw [find?_set]
    split
    -- a key holds what was set or what it held
    next hset =>
      -- a null is not set
      rintro ⟨⟩
      cases hset.2.1
    next => exact ih key
  | merge _ _ ih ih' =>
    -- a merge chooses between two fields that are no nulls
    rw [find?_merge]
    exact Value.or_ne_null (ih key) (ih' key)
  | replace _ k hvalue ih =>
    rw [find?_replace]
    split
    next => exact fun h => hvalue (Option.some.inj h)
    next => exact ih key
  | rename _ source target ih =>
    rw [find?_rename]
    split_ifs
    · exact ih key
    · exact Value.or_ne_null (ih target) (ih source)
    · rintro ⟨⟩
    · exact ih key
  | remove _ k ih =>
    rw [find?_remove]
    split
    next => rintro ⟨⟩
    next => exact ih key
  | parse hr =>
    -- what is read from JSON keeps no null
    intro hnull
    cases Value.isRead_of_parse hr with
    | record hfields hkept => cases hkept key .null hnull
  | arrange _ l ih => exact arrange_ne_null ih l key
  | redact _ hs rules hidden ih => exact redact_ne_null hs ih rules hidden key

end Record

/-! ## Merging is setting -/

/-- A chain merges the entry and its layers, from the leaf on, into its identity. -/
theorem Chain.flatten_eq_foldl_merge (c : Chain) (entry : Record) :
    c.flatten entry = (entry :: c.nodes.map (·.record)).foldl Record.merge c.identity := by
  rw [List.foldl_cons, List.foldl_map]
  rfl

namespace Record

/-- Merging records that were made without putting in nulls is setting all their fields. -/
theorem foldl_merge_eq_setAll_of_made {orders : List (List (String × Value))} {sources : List Record}
    (h : Listed orders sources) (hmade : ∀ source ∈ sources, source.Made) (r : Record) :
    sources.foldl merge r = r.setAll orders.flatten := by
  refine (foldl_merge_eq_setAll_iff h r).2 fun key hnull => ?_
  rw [find?_foldl_merge] at hnull
  rw [Fields.contains]
  cases hr : r.find? key with
  | some v => rfl
  | none =>
    -- none of the records has a null to come first
    rw [hr, Option.none_or] at hnull
    obtain ⟨source, hsource, hv⟩ := List.exists_of_findSome?_eq_some hnull
    exact absurd hv ((hmade source hsource).find?_ne_null key)

/-- **Merging is repeated setting, but for nulls.**  To merge `b` is to set its fields in any order, exactly if `a` has
all keys under which `b` holds null.  To flatten a chain under an entry is to set the fields of the entry and then those
of node after node, exactly if no null comes first under its key, unless it is one of the identity.  Both hold for
records that were made without putting in nulls. -/
theorem merge_eq_setAll_iff (a b : Record) {entries : List (String × Value)} (h : entries.Perm (Fields.toList b))
    (c : Chain) (entry : Record) {orders : List (List (String × Value))}
    (horders : Listed orders (entry :: c.nodes.map (·.record))) :
    (a.merge b = a.setAll entries ↔ ∀ key, b.find? key = some .null → a.contains key = true) ∧
    (b.Made → a.merge b = a.setAll entries) ∧
    (c.flatten entry = c.identity.setAll orders.flatten ↔
      ∀ key, (c.flatten entry).find? key = some .null → c.identity.contains key = true) ∧
    (entry.Made → (∀ n ∈ c.nodes, n.record.Made) → c.flatten entry = c.identity.setAll orders.flatten) := by
  -- a single record is a chain of one layer
  have hone : Listed [entries] [b] := .cons h .nil
  have hflat : [entries].flatten = entries := List.flatten_singleton
  refine ⟨?_, fun hb => ?_, ?_, fun hentry hnodes => ?_⟩
  · have hmerge := foldl_merge_eq_setAll_iff hone a
    rw [hflat, List.foldl_cons, List.foldl_nil] at hmerge
    rw [hmerge]
    refine forall_congr' fun key => ?_
    rw [find?_merge, Fields.contains]
    cases a.find? key <;> simp
  · have hmerge := foldl_merge_eq_setAll_of_made hone (List.forall_mem_singleton.2 hb) a
    rwa [hflat] at hmerge
  · rw [c.flatten_eq_foldl_merge]
    exact foldl_merge_eq_setAll_iff horders c.identity
  · rw [c.flatten_eq_foldl_merge]
    -- the entry is merged first, and it stands before the nodes
    have hmade : ∀ source ∈ entry :: c.nodes.map (·.record), source.Made :=
      List.forall_mem_cons.2 ⟨hentry, List.forall_mem_map.2 hnodes⟩
    exact foldl_merge_eq_setAll_of_made horders hmade c.identity

/-- Fields in the other order than that of their keys, and a chain of two nodes. -/
theorem merge_eq_setAll_reversed :
    let s : Suppliers Unit := ⟨fun _ => pure (.text "late"), fun _ => pure (.text "open")⟩
    let host : Host := ⟨"host", 1, 0⟩
    let a := Record.empty.set "k" (.int 1)
    let b := (Record.empty.set "k" (.int 2)).replace "user" (.deferred 0)
    let c := ((Chain.root s host "svc" b [] ()).1.withRecord s (Record.empty.set "k" (.int 3)) ()).1
    b.Made ∧ a.merge b = a.setAll [("user", .deferred 0), ("k", .int 2)] ∧
      c.flatten a = c.identity.setAll [("k", .int 1), ("k", .int 3), ("user", .deferred 0), ("k", .int 2)] := by
  intro s host a b c
  have hb : b.Made := (Made.empty.set _ _).replace "user" (by simp)
  have hentries : List.Perm [("user", Value.deferred 0), ("k", .int 2)] (Fields.toList b) := .swap _ _ _
  have horders : Listed [[("k", .int 1)], [("k", .int 3)], [("user", .deferred 0), ("k", .int 2)]]
      (a :: c.nodes.map (·.record)) := .cons (.refl _) (.cons (.refl _) (.cons hentries .nil))
  obtain ⟨-, hmerge, -, hflatten⟩ := merge_eq_setAll_iff a b hentries c a horders
  refine ⟨hb, hmerge hb, hflatten (Made.empty.set _ _) ?_⟩
  have hnodes : ∀ r ∈ c.nodes.map (·.record), r.Made := by
    show ∀ r ∈ [Record.empty.set "k" (.int 3), b], r.Made
    simpa using ⟨Made.empty.set _ _, hb⟩
  exact fun n hn => hnodes n.record (List.mem_map_of_mem hn)

end Record

/-- A deferred value that turns out as null leaves a null in the redacted record, as replacing it with null does.
Setting leaves that out and merging takes it over, and in a chain it hides what the older node has to say. -/
theorem Chain.flatten_of_null :
    let s : Suppliers Unit := ⟨fun _ => pure .null, fun _ => pure .null⟩
    let near := Record.empty.replace "user" .null
    let far := Record.empty.set "user" (.text "ann")
    let c := ((Chain.root s ⟨"host", 1, 0⟩ "svc" far [] ()).1.withRecord s near ()).1
    ((Record.empty.set "user" (.deferred 0)).redact s [] ()).1 = near ∧
      Record.empty.merge near ≠ Record.empty.setAll (Fields.toList near) ∧
      (c.flatten .empty).find? "user" = some .null ∧
      (c.identity.setAll (Fields.toList near ++ Fields.toList far)).find? "user" = some (.text "ann") := by
  intro s near far c
  refine ⟨rfl, ?_, rfl, rfl⟩
  have hmerge : (Record.empty.merge near).find? "user" = some .null := rfl
  have hset : (Record.empty.setAll (Fields.toList near)).find? "user" = none := rfl
  intro heq
  rw [heq, hset] at hmerge
  cases hmerge

end Logbook
