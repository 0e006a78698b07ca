import Logbook.Proofs.Redaction.Places
import Logbook.Proofs.Value.Asking

/-!
# Bounds for values without end

The application may answer with ever new deferred values, or with arrays and records that hold them, so nothing in a
record tells how much there is to compute.  What ends the recursions is that they count: `Value.resolve` the values that
it computed, redaction and encoding the levels below the record.

The definitions count down from a limit, which makes them end whatever they do.  `Value.Computes`, `Value.Redacted` and
`Value.Encoded` count up, and look at the limit only where something is decided by it.  Every value has a finite
derivation in them all the same, and the bounds are read off the derivations.

## Key results

- `Value.Computes.logged` / `Value.resolve_logged`: how many values are computed in a row
- `Value.encodeWithin_eq_iff` / `Record.encode_eq_iff`: encoding place by place
- `Value.Enters.le`, `Value.Encoded.nesting_le`: how deep redaction goes, and how deep JSON nests
- `Record.redact_encode_finish`: both come to an end
- `Record.enters_endless`: an application that reaches the bound
-/

namespace Logbook

variable {σ : Type} {s : Suppliers σ}

/-! ## Computing in a row -/

namespace Value

/-- As many computations, as often the application is asked. -/
theorem Computes.logged {n : Nat} {hidden after : σ} {v u : Value} (h : v.Computes s n hidden u after) :
    ∃ asked : List Event, asked.length = n ∧
      ∀ events, v.Computes s.logged n (hidden, events) u (after, events ++ asked) := by
  -- by induction on the computation, with the event that each step adds
  induction h with
  | refl => exact ⟨[], rfl, fun events => (List.append_nil events).symm ▸ .refl⟩
  | @step n hidden mid after source v u hstep _ ih =>
    obtain ⟨asked, hlen, hrest⟩ := ih
    refine ⟨.computed source v :: asked, congrArg (· + 1) hlen, fun events => ?_⟩
    have hlogged : s.logged.compute source (hidden, events) = (v, mid, events ++ [.computed source v]) := by
      show ((s.compute source hidden).1, (s.compute source hidden).2,
        events ++ [.computed source (s.compute source hidden).1]) = _
      rw [hstep]
    have happend : events ++ .computed source v :: asked = (events ++ [.computed source v]) ++ asked := by simp
    rw [happend]
    exact .step hlogged (hrest _)

/-- With a log beside the hidden state resolving gives the same, and there are not more questions than the limit. -/
theorem resolve_logged (s : Suppliers σ) (v : Value) (hidden : σ) :
    ∃ asked : List Event, asked.length ≤ depthLimit ∧
      v.resolve s.logged (hidden, []) = ((v.resolve s hidden).1, (v.resolve s hidden).2, asked) := by
  obtain ⟨n, u, hcomputes, hstops⟩ := exists_computes s depthLimit v hidden
  obtain ⟨asked, rfl, hlogged⟩ := hcomputes.logged
  refine ⟨asked, ?_, resolve_eq_iff.2 ⟨asked.length, u, hlogged [], hstops⟩⟩
  unfold Stops at hstops
  omega

end Value

/-! ## Encoding place by place -/

namespace Json

/-- Members nest as deep as what became of the fields one by one, in one object more. -/
theorem nesting_object_le {α : Type} {fields : Fields α none} {members : Fields Json none} {n : Nat}
    (hkeys : members.keys = fields.keys)
    (h : ∀ (i : Nat) key x (j : Json), fields.toList[i]? = some (key, x) → members.toList[i]? = some (key, j) →
      j.nesting ≤ n) :
    (object members).nesting ≤ n + 1 := by
  refine height_le_iff.2 (Fields.forall_mem_values.2 fun key j hj => ?_)
  obtain ⟨i, hi⟩ := List.getElem?_of_mem (Fields.mem_toList.2 hj)
  obtain ⟨x, hx⟩ := Fields.exists_of_keys_eq hkeys.symm hi
  exact h i key x j hx hi

end Json

namespace Value

/-- The JSON of a value without parts that needs no computing. -/
def scalarJson? : Value → Option Json
  | null => some .null
  | bool b => some (.bool b)
  | int i => some (.whole i.toInt)
  | uint n => some (.whole n.toNat)
  | float x => some (encodeFloat x)
  | text t => some (.string t)
  | time t => some (.string (TimeFormat.default.write t))
  | level l => some (.whole l.number)
  | array _ | record _ | deferred _ | guarded _ => none

/-- A scalar has no levels. -/
theorem nesting_scalarJson? {v : Value} {j : Json} (h : v.scalarJson? = some j) : j.nesting = 0 := by
  cases v with
  -- a double that is no number is a text
  | float x =>
    obtain rfl := Option.some.inj h
    rw [encodeFloat]
    split <;> rfl
  | array items => cases h
  | record fields => cases h
  | deferred source => cases h
  | guarded source => cases h
  | _ =>
    obtain rfl := Option.some.inj h
    rfl

/-- What became of a value below so many levels as JSON, between two hidden states. -/
inductive Encoded (s : Suppliers σ) :
    (depth : Nat) → (hidden : σ) → (v : Value) → (j : Json) → (after : σ) → Prop where
  /-- What lies too deep is not looked at. -/
  | deep {depth : Nat} {hidden : σ} {v : Value} (hdepth : depthLimit < depth) : Encoded s depth hidden v tooDeep hidden
  | scalar {depth : Nat} {hidden : σ} {v : Value} {j : Json} (hdepth : depth ≤ depthLimit)
      (hv : v.scalarJson? = some j) : Encoded s depth hidden v j hidden
  | array {depth : Nat} {xs : List Value} {js : List Json} {states : Nat → σ} (hdepth : depth ≤ depthLimit)
      (hlen : js.length = xs.length)
      (heach : ∀ i x j, xs[i]? = some x → js[i]? = some j → Encoded s (depth + 1) (states i) x j (states (i + 1))) :
      Encoded s depth (states 0) (array xs) (.array js) (states xs.length)
  | emptyRecord {depth : Nat} {hidden : σ} {fields : Record} (hdepth : depth ≤ depthLimit)
      (hempty : fields.isEmpty = true) : Encoded s depth hidden (record fields) .null hidden
  /-- A record is one level deeper than the value that it is. -/
  | deepRecord {depth : Nat} {hidden : σ} {fields : Record} (hdepth : depth ≤ depthLimit)
      (hfields : fields.isEmpty = false) (hdeep : depthLimit < depth + 1) :
      Encoded s depth hidden (record fields) recordTooDeep hidden
  | record {depth : Nat} {fields : Record} {members : Fields Json none} {states : Nat → σ}
      (hfields : fields.isEmpty = false) (hdepth : depth + 1 ≤ depthLimit) (hkeys : members.keys = fields.keys)
      (heach : ∀ i key x j, fields.toList[i]? = some (key, x) → members.toList[i]? = some (key, j) →
        Encoded s (depth + 2) (states i) x j (states (i + 1))) :
      Encoded s depth (states 0) (record fields) (.object members) (states fields.size)
  | deferred {depth : Nat} {hidden mid after : σ} {source : Nat} {v : Value} {j : Json}
      (hdepth : depth ≤ depthLimit) (hcompute : s.compute source hidden = (v, mid))
      (hrest : Encoded s (depth + 1) mid v j after) : Encoded s depth hidden (deferred source) j after
  | guarded {depth : Nat} {hidden mid after : σ} {source : Nat} {v : Value} {j : Json}
      (hdepth : depth ≤ depthLimit) (hdisclose : s.disclose source hidden = (v, mid))
      (hrest : Encoded s (depth + 1) mid v j after) : Encoded s depth hidden (guarded source) j after

/-- An array encodes its items with one level less. -/
theorem encodeWithin_array (s : Suppliers σ) (room : Nat) (items : List Value) (hidden : σ) :
    (array items).encodeWithin s (room + 1) hidden
      = let visited := items.mapM (encodeWithin s room) hidden
        (.array visited.1, visited.2) := rfl

/-- A record without fields is null. -/
theorem encodeWithin_emptyRecord (s : Suppliers σ) (room : Nat) {fields : Record} (h : fields.isEmpty = true)
    (hidden : σ) : (record fields).encodeWithin s (room + 1) hidden = (.null, hidden) := by
  rw [Fields.eq_nil_of_isEmpty h]
  cases room <;> rfl

/-- With one level left a record is too deep. -/
theorem encodeWithin_deepRecord (s : Suppliers σ) {fields : Record} (h : fields.isEmpty = false) (hidden : σ) :
    (record fields).encodeWithin s 1 hidden = (recordTooDeep, hidden) := by
  rw [encodeWithin, h]
  rfl

/-- A record encodes its fields with two levels less. -/
theorem encodeWithin_record (s : Suppliers σ) (room : Nat) {fields : Record} (h : fields.isEmpty = false)
    (hidden : σ) :
    (record fields).encodeWithin s (room + 2) hidden
      = let visited := fields.mapM (fun _ v => v.encodeWithin s room) hidden
        (.object visited.1, visited.2) := by
  rw [encodeWithin, h]
  rfl

/-- A scalar is encoded as it is. -/
theorem encodeWithin_scalar (s : Suppliers σ) (room : Nat) {v : Value} {j : Json} (h : v.scalarJson? = some j)
    (hidden : σ) : v.encodeWithin s (room + 1) hidden = (j, hidden) := by
  cases v with
  | array items => cases h
  | record fields => cases h
  | deferred source => cases h
  | guarded source => cases h
  | _ =>
    obtain rfl := Option.some.inj h
    rfl

/-- What encoding gave has a derivation, at the depth where so many levels are left. -/
theorem encoded_encodeWithin (s : Suppliers σ) {room depth : Nat} (hroom : room + depth = depthLimit + 1) (v : Value)
    (hidden : σ) :
    v.Encoded s depth hidden (v.encodeWithin s room hidden).1 (v.encodeWithin s room hidden).2 := by
  -- not on the value, for what the application gives is no part of it; a record hands on two levels less than it has
  induction room using Nat.strongRecOn generalizing depth v hidden with
  | ind room ih =>
    cases room with
    -- no room is left, so the value lies too deep
    | zero => exact .deep (by omega)
    | succ room =>
      have hdepth : depth ≤ depthLimit := by omega
      have hless : ∀ (v : Value) (hidden : σ), v.Encoded s (depth + 1) hidden _ _ :=
        ih room (Nat.lt_succ_self room) (by omega)
      cases v with
      | array xs =>
        obtain ⟨js, after, hvisit⟩ : ∃ js after, xs.mapM (encodeWithin s room) hidden = (js, after) := ⟨_, _, rfl⟩
        rw [encodeWithin_array, hvisit]
        obtain ⟨states, rfl, rfl, hlen, heach⟩ := mapM_eq_iff.1 hvisit
        refine .array hdepth hlen fun i x j hx hj => ?_
        have hplace := hless x (states i)
        rwa [heach i x j hx hj] at hplace
      | record fields =>
        cases hempty : fields.isEmpty with
        -- a record without fields needs no level
        | true =>
          rw [encodeWithin_emptyRecord s room hempty]
          exact .emptyRecord hdepth hempty
        | false =>
          cases room with
          -- a record needs two levels, for itself and its fields
          | zero =>
            rw [encodeWithin_deepRecord s hempty]
            exact .deepRecord hdepth hempty (by omega)
          | succ room =>
            obtain ⟨members, after, hvisit⟩ :
                ∃ members after, fields.mapM (fun _ v => v.encodeWithin s room) hidden = (members, after) :=
              ⟨_, _, rfl⟩
            rw [encodeWithin_record s room hempty, hvisit]
            obtain ⟨states, rfl, rfl, hkeys, heach⟩ := Fields.mapM_eq_iff.1 hvisit
            refine .record hempty (by omega) hkeys fun i key x j hx hj => ?_
            have hdeeper : room + (depth + 2) = depthLimit + 1 := by omega
            have hplace := ih room (by omega) hdeeper x (states i)
            rwa [heach i key x j hx hj] at hplace
      | deferred source => exact .deferred hdepth rfl (hless _ _)
      | guarded source => exact .guarded hdepth rfl (hless _ _)
      | _ => exact .scalar hdepth rfl

/-- What has a derivation is what encoding gives. -/
theorem Encoded.run {depth : Nat} {hidden after : σ} {v : Value} {j : Json} (h : v.Encoded s depth hidden j after)
    {room : Nat} (hroom : room + depth = depthLimit + 1) : v.encodeWithin s room hidden = (j, after) := by
  -- each rule says how much room its values have, and so which branch is taken
  induction h generalizing room with
  -- at the limit no room is left, so the value is cut off
  | deep hdepth =>
    obtain rfl : room = 0 := by omega
    rfl
  | scalar hdepth hv =>
    obtain ⟨room, rfl⟩ : ∃ n, room = n + 1 := ⟨room - 1, by omega⟩
    exact encodeWithin_scalar s room hv _
  | @array _ xs js states hdepth hlen _ ih =>
    obtain ⟨room, rfl⟩ : ∃ n, room = n + 1 := ⟨room - 1, by omega⟩
    have hvisit : xs.mapM (encodeWithin s room) (states 0) = (js, states xs.length) :=
      mapM_eq_iff.2 ⟨states, rfl, rfl, hlen, fun i x j hx hj => ih i x j hx hj (by omega)⟩
    rw [encodeWithin_array, hvisit]
  | emptyRecord hdepth hempty =>
    obtain ⟨room, rfl⟩ : ∃ n, room = n + 1 := ⟨room - 1, by omega⟩
    exact encodeWithin_emptyRecord s room hempty _
  -- with room for itself alone a record is cut off too
  | deepRecord hdepth hfields hdeep =>
    obtain rfl : room = 1 := by omega
    exact encodeWithin_deepRecord s hfields _
  -- and with more, its fields have two levels less
  | @record _ fields members states hfields hdepth hkeys _ ih =>
    obtain ⟨room, rfl⟩ : ∃ n, room = n + 2 := ⟨room - 2, by omega⟩
    have hvisit : fields.mapM (fun _ v => encodeWithin s room v) (states 0) = (members, states fields.size) :=
      Fields.mapM_eq_iff.2 ⟨states, rfl, rfl, hkeys, fun i key x j hx hj => ih i key x j hx hj (by omega)⟩
    rw [encodeWithin_record s room hfields, hvisit]
  -- what the application gives is encoded in place of the value
  | @deferred _ hidden _ _ source _ _ hdepth hcompute _ ih =>
    obtain ⟨room, rfl⟩ : ∃ n, room = n + 1 := ⟨room - 1, by omega⟩
    show encodeWithin s room (s.compute source hidden).1 (s.compute source hidden).2 = _
    rw [hcompute]
    exact ih (by omega)
  | @guarded _ hidden _ _ source _ _ hdepth hdisclose _ ih =>
    obtain ⟨room, rfl⟩ : ∃ n, room = n + 1 := ⟨room - 1, by omega⟩
    show encodeWithin s room (s.disclose source hidden).1 (s.disclose source hidden).2 = _
    rw [hdisclose]
    exact ih (by omega)

/-- Encoding with so many levels left is encoding at the depth below them. -/
theorem encodeWithin_eq_iff {room depth : Nat} (hroom : room + depth = depthLimit + 1) {hidden after : σ} {v : Value}
    {j : Json} : v.encodeWithin s room hidden = (j, after) ↔ v.Encoded s depth hidden j after := by
  constructor
  · intro h
    have hencoded := encoded_encodeWithin s hroom v hidden
    rwa [h] at hencoded
  · exact fun h => h.run hroom

/-- JSON nests as deep as values may below the place where it stands. -/
theorem Encoded.nesting_le {depth : Nat} {hidden after : σ} {v : Value} {j : Json}
    (h : v.Encoded s depth hidden j after) : j.nesting ≤ depthLimit + 1 - depth := by
  -- by induction on the encoding: each level takes one of those that are left
  induction h with
  | deep => exact Nat.zero_le _
  | scalar _ hv => exact nesting_scalarJson? hv ▸ Nat.zero_le _
  | @array depth xs js states hdepth hlen _ ih =>
    have hitems : (Json.array js).nesting ≤ depthLimit + 1 - (depth + 1) + 1 := by
      refine Json.height_le_iff.2 fun j hj => ?_
      obtain ⟨i, hi⟩ := List.getElem?_of_mem hj
      have hlt : i < xs.length := hlen ▸ (List.getElem?_eq_some_iff.1 hi).1
      exact ih i xs[i] j (List.getElem?_eq_getElem hlt) hi
    omega
  | emptyRecord => exact Nat.zero_le _
  | deepRecord => exact Nat.zero_le _
  | @record depth fields members states _ hdepth hkeys _ ih =>
    have hmembers : (Json.object members).nesting ≤ depthLimit + 1 - (depth + 2) + 1 :=
      Json.nesting_object_le hkeys ih
    omega
  | deferred _ _ _ ih => omega
  | guarded _ _ _ ih => omega

end Value

namespace Record

/-- What became of a record as JSON, between two hidden states. -/
inductive Encoded (s : Suppliers σ) : (hidden : σ) → (r : Record) → (j : Json) → (after : σ) → Prop where
  | empty {hidden : σ} {r : Record} (hempty : r.isEmpty = true) : Encoded s hidden r .null hidden
  | fields {r : Record} {members : Fields Json none} {states : Nat → σ} (hr : r.isEmpty = false)
      (hkeys : members.keys = r.keys)
      (heach : ∀ i key (x : Value) j, r.toList[i]? = some (key, x) → members.toList[i]? = some (key, j) →
        x.Encoded s 1 (states i) j (states (i + 1))) :
      Encoded s (states 0) r (.object members) (states r.size)

/-- A record with fields encodes them with the limit. -/
theorem encode_fields (s : Suppliers σ) {r : Record} (h : r.isEmpty = false) (hidden : σ) :
    r.encode s hidden
      = let visited := r.mapM (fun _ v => v.encodeWithin s Value.depthLimit) hidden
        (.object visited.1, visited.2) := by
  rw [encode, h]
  rfl

/-- Encoding a record is encoding its fields one level below. -/
theorem encode_eq_iff {r : Record} {hidden after : σ} {j : Json} :
    r.encode s hidden = (j, after) ↔ r.Encoded s hidden j after := by
  constructor
  · intro h
    -- a record without fields is written as null
    cases hempty : r.isEmpty with
    | true =>
      rw [encode, hempty] at h
      obtain ⟨rfl, rfl⟩ := Prod.mk.inj h
      exact .empty hempty
    | false =>
      obtain ⟨members, last, hvisit⟩ :
          ∃ members last, r.mapM (fun _ v => v.encodeWithin s Value.depthLimit) hidden = (members, last) :=
        ⟨_, _, rfl⟩
      rw [encode_fields s hempty, hvisit] at h
      obtain ⟨rfl, rfl⟩ := Prod.mk.inj h
      obtain ⟨states, rfl, rfl, hkeys, heach⟩ := Fields.mapM_eq_iff.1 hvisit
      exact .fields hempty hkeys fun i key x j hx hj => (Value.encodeWithin_eq_iff rfl).1 (heach i key x j hx hj)
  · intro h
    cases h with
    | empty hempty =>
      rw [encode, hempty]
      rfl
    | @fields _ members states hr hkeys heach =>
      have hvisit : r.mapM (fun _ v => v.encodeWithin s Value.depthLimit) (states 0) = (members, states r.size) :=
        Fields.mapM_eq_iff.2 ⟨states, rfl, rfl, hkeys,
          fun i key x j hx hj => (Value.encodeWithin_eq_iff rfl).2 (heach i key x j hx hj)⟩
      rw [encode_fields s hr, hvisit]

/-- The JSON of a record nests one level deeper than values may. -/
theorem Encoded.nesting_le {r : Record} {hidden after : σ} {j : Json} (h : r.Encoded s hidden j after) :
    j.nesting ≤ Value.depthLimit + 1 := by
  cases h with
  | empty => exact Nat.zero_le _
  | fields hr hkeys heach =>
    exact Json.nesting_object_le hkeys fun i key x j hx hj => (heach i key x j hx hj).nesting_le

end Record

/-! ## How deep redaction goes -/

namespace Value

def isContainer : Value → Bool
  | array _ | record _ => true
  | _ => false

/-- Redaction goes through the parts of a value: it is computed to an array or a record, and the result is one, too. -/
def Entered (s : Suppliers σ) (rules : List Redaction.Rule) (depth : Nat) (covered : Bool) (hidden : σ) (v : Value) :
    Prop :=
  (∃ w mid, v.Resolves s hidden w mid ∧ w.isContainer = true) ∧
    ∃ u after, v.Redacted s (.ofRules s rules) depth covered hidden u after ∧ u.isContainer = true

/-- Redaction enters so many arrays and records, one inside the other, from a value below so many levels. -/
inductive Enters (s : Suppliers σ) (rules : List Redaction.Rule) :
    (depth : Nat) → (covered : Bool) → (hidden : σ) → (v : Value) → (n : Nat) → Prop where
  | last {depth : Nat} {covered : Bool} {hidden : σ} {v : Value} (h : v.Entered s rules depth covered hidden) :
      Enters s rules depth covered hidden v 1
  | item {depth i n : Nat} {covered : Bool} {hidden : σ} {v x : Value} {xs ys : List Value} {states : Nat → σ}
      (h : v.Entered s rules depth covered hidden) (hv : v.Resolves s hidden (array xs) (states 0))
      (hlen : ys.length = xs.length)
      (heach : ∀ i (x : Value) y, xs[i]? = some x → ys[i]? = some y →
        x.Redacted s (.ofRules s rules) (depth + 1) false (states i) y (states (i + 1)))
      (hx : xs[i]? = some x) (hrest : Enters s rules (depth + 1) false (states i) x n) :
      Enters s rules depth covered hidden v (n + 1)
  | field {depth i n : Nat} {covered : Bool} {hidden : σ} {v x : Value} {key : String} {fields results : Record}
      {states : Nat → σ} (h : v.Entered s rules depth covered hidden)
      (hv : v.Resolves s hidden (record fields) (states 0)) (hkeys : results.keys = fields.keys)
      (heach : ∀ i key (x : Value) y, fields.toList[i]? = some (key, x) → results.toList[i]? = some (key, y) →
        x.Redacted s (.ofRules s rules) (depth + 1) (Redaction.masks rules key) (states i) y (states (i + 1)))
      (hx : fields.toList[i]? = some (key, x))
      (hrest : Enters s rules (depth + 1) (Redaction.masks rules key) (states i) x n) :
      Enters s rules depth covered hidden v (n + 1)

variable {rules : List Redaction.Rule} {depth n : Nat} {covered : Bool} {hidden : σ} {v : Value}

/-- What lies too deep is masked, so it is not entered. -/
theorem Entered.le (h : v.Entered s rules depth covered hidden) : depth ≤ depthLimit := by
  obtain ⟨⟨w, mid, hcomputed, hcontainer⟩, u, after, hredacted, hresult⟩ := h
  cases hredacted with
  | given hv =>
    obtain ⟨rfl, -⟩ := hcomputed.unique hv
    cases hcontainer
  | masked => cases hresult
  | deep =>
    -- a mask is no array and no record
    cases hresult
  | text => cases hresult
  | scalar _ hdepth => exact hdepth
  | array _ hdepth => exact hdepth
  | record _ hdepth => exact hdepth

/-- Redaction goes as deep as the limit lets it. -/
theorem Enters.le (h : v.Enters s rules depth covered hidden n) : n + depth ≤ depthLimit + 1 := by
  induction h with
  | last h => have := h.le; omega
  | item _ _ _ _ _ _ ih => omega
  | field _ _ _ _ _ _ ih => omega

end Value

/-- Redaction enters a record, and then what its fields are. -/
inductive Record.Enters (s : Suppliers σ) (rules : List Redaction.Rule) (hidden : σ) (r : Record) :
    (n : Nat) → Prop where
  | record : Enters s rules hidden r 1
  | field {i n : Nat} {key : String} {x : Value} {out : Record} {states : Nat → σ} (hstart : states 0 = hidden)
      (hkeys : out.keys = r.keys)
      (heach : ∀ i key (x : Value) y, r.toList[i]? = some (key, x) → out.toList[i]? = some (key, y) →
        if Redaction.isRouting key then x.Resolves s (states i) y (states (i + 1))
        else x.Redacted s (.ofRules s rules) 0 (Redaction.masks rules key) (states i) y (states (i + 1)))
      (hx : r.toList[i]? = some (key, x)) (hkey : Redaction.isRouting key = false)
      (hrest : x.Enters s rules 0 (Redaction.masks rules key) (states i) n) : Enters s rules hidden r (n + 1)

/-- A record can be entered no deeper than the limit. -/
theorem Record.Enters.le {rules : List Redaction.Rule} {hidden : σ} {r : Record} {n : Nat}
    (h : r.Enters s rules hidden n) : n ≤ Value.depthLimit + 2 := by
  cases h with
  | record => decide
  | field _ _ _ _ _ hrest => have := hrest.le; omega

/-- A value has a derivation at every depth up to the first that is too deep. -/
theorem Value.exists_redacted (s : Suppliers σ) (rules : List Redaction.Rule) {depth : Nat}
    (hdepth : depth ≤ depthLimit + 1) (covered : Bool) (hidden : σ) (v : Value) :
    ∃ u after, v.Redacted s (.ofRules s rules) depth covered hidden u after := by
  have hroom : depthLimit + 1 - depth + depth = depthLimit + 1 := by omega
  exact ⟨_, _, Redaction.redacted_of_disclosing id (Redaction.redacted_of_redactValue hroom) rfl⟩

/-- An application whose deferred values are arrays of themselves. -/
def Suppliers.endless : Suppliers Unit where
  compute source := pure (.array [.deferred source])
  disclose source := pure (.guarded source)

/-- There redaction goes on until the limit. -/
theorem Value.enters_endless (rules : List Redaction.Rule) (source : Nat) {n depth : Nat}
    (h : n + 1 + depth = depthLimit + 1) : (deferred source).Enters .endless rules depth false () (n + 1) := by
  -- the value resolves to an array that holds it again, so it can be entered once more
  have hresolve : (deferred source).Resolves .endless () (.array [.deferred source]) () := resolve_eq_iff.1 rfl
  have hdepth : depth ≤ depthLimit := by omega
  obtain ⟨u, _, hu⟩ := exists_redacted .endless rules (Nat.succ_le_succ hdepth) false () (deferred source)
  let states : Nat → Unit := fun _ => ()
  have hlen : [u].length = [deferred source].length := rfl
  have heach : ∀ (i : Nat) (x y : Value), [deferred source][i]? = some x → [u][i]? = some y →
      x.Redacted .endless (.ofRules .endless rules) (depth + 1) false (states i) y (states (i + 1)) := by
    rintro (_ | i) x y hx hy
    · obtain rfl := Option.some.inj hx
      obtain rfl := Option.some.inj hy
      exact hu
    · cases hx
  have hentered : (deferred source).Entered .endless rules depth false () :=
    ⟨⟨_, _, hresolve, rfl⟩, .array [u], states 1, .array hresolve hdepth hlen heach, rfl⟩
  have hfirst : [deferred source][0]? = some (deferred source) := rfl
  cases n with
  | zero => exact .last hentered
  | succ n =>
    have hrest : (deferred source).Enters .endless rules (depth + 1) false (states 0) (n + 1) :=
      enters_endless rules source (by omega)
    exact .item hentered hresolve hlen heach hfirst hrest

/-! ## Both come to an end -/

namespace Record

/-- **Redaction and encoding always finish.**  Whatever the application answers, and be it without end, for every record
there is a finite derivation of what redaction gives and one of what encoding gives.  Computing a value asks the
application at most 64 times in a row, redaction enters at most 66 arrays and records one inside the other, and the
JSON nests at most 65 levels. -/
theorem redact_encode_finish (s : Suppliers σ) (rules : List Redaction.Rule) (r : Record) (hidden : σ) :
    (∃ out after, r.redact s rules hidden = (out, after) ∧ r.Redacted s (.ofRules s rules) hidden out after) ∧
    (∀ n, r.Enters s rules hidden n → n ≤ 66) ∧
    (∃ j after, r.encode s hidden = (j, after) ∧ r.Encoded s hidden j after ∧ j.nesting ≤ 65) ∧
    ∀ (v : Value) (hidden : σ), ∃ asked : List Event, asked.length ≤ 64 ∧
      v.resolve s.logged (hidden, []) = ((v.resolve s hidden).1, (v.resolve s hidden).2, asked) := by
  refine ⟨⟨_, _, rfl, redact_eq_iff.1 rfl⟩, fun n h => h.le, ?_, fun v hidden => v.resolve_logged s hidden⟩
  have hencoded : r.Encoded s hidden (r.encode s hidden).1 (r.encode s hidden).2 := encode_eq_iff.1 rfl
  exact ⟨_, _, rfl, hencoded, hencoded.nesting_le⟩

/-- An endless array in a field takes redaction to the last of these levels. -/
theorem enters_endless (rules : List Redaction.Rule) (source : Nat) {key : String}
    (hkey : Redaction.isRouting key = false) (hrules : Redaction.masks rules key = false) :
    (empty.set key (.deferred source)).Enters .endless rules () 66 := by
  obtain ⟨out, after, hredact⟩ :
      ∃ out after, (empty.set key (.deferred source)).redact Suppliers.endless rules () = (out, after) := ⟨_, _, rfl⟩
  obtain ⟨states, hstart, -, hkeys, heach⟩ := redact_eq_iff.1 hredact
  have hfield : (Fields.toList (empty.set key (.deferred source)))[0]? = some (key, .deferred source) := rfl
  refine .field hstart hkeys heach hfield hkey ?_
  rw [hrules]
  exact Value.enters_endless rules source rfl

end Record

end Logbook
