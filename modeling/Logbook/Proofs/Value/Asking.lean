import Mathlib.Algebra.Order.Group.Multiset
import Logbook.Proofs.Value.RoundTrip

/-!
# Asking the application

The application is asked for a value when a deferred one is computed and when a guarded one gives something out.  Its
hidden state may hold a log of that (`Suppliers.KeepsLog`), and any application can be given one
(`Suppliers.logged`).  `Runs` says of a computation what it adds to the log.

Each occurrence of a deferred value in a value (`Value.pending`) is worth one question, and so is each occurrence in
what the application gives.  A list of events that spends no occurrence twice is *afforded* (`Affords`).

## Key results

- `Affords.append`: what two values afford one after the other
- `Runs.mapM` / `Runs.mapFields`: the log of a visit to all items or fields
- `Value.runs_resolve`: computing a value spends its own occurrence first
- `Value.runs_encodeWithin`: encoding asks for each occurrence at most once
-/

namespace Logbook

/-- What the application was asked for, and what it gave. -/
inductive Event where
  /-- A deferred value was computed. -/
  | computed (source : Nat) (given : Value)
  /-- A guarded value gave something out. -/
  | disclosed (source : Nat) (given : Value)

/-- The source of the deferred value that was computed, if one was. -/
def Event.source? : Event → Option Nat
  | computed source _ => some source
  | disclosed _ _ => none

namespace Suppliers

variable {σ : Type}

/-- The hidden state holds a log of all that the application was asked for, oldest first. -/
structure KeepsLog (s : Suppliers σ) (log : σ → List Event) : Prop where
  compute : ∀ source hidden,
    log (s.compute source hidden).2 = log hidden ++ [.computed source (s.compute source hidden).1]
  disclose : ∀ source hidden,
    log (s.disclose source hidden).2 = log hidden ++ [.disclosed source (s.disclose source hidden).1]

/-- The same application with a log beside its hidden state. -/
def logged (s : Suppliers σ) : Suppliers (σ × List Event) where
  compute source hidden :=
    let (given, after) := s.compute source hidden.1
    (given, after, hidden.2 ++ [.computed source given])
  disclose source hidden :=
    let (given, after) := s.disclose source hidden.1
    (given, after, hidden.2 ++ [.disclosed source given])

/-- The log that is kept is the list of events. -/
theorem keepsLog_logged (s : Suppliers σ) : s.logged.KeepsLog Prod.snd := ⟨fun _ _ => rfl, fun _ _ => rfl⟩

end Suppliers

/-! ## Occurrences of deferred values -/

namespace Value

mutual

/-- The sources of the deferred values in a value, at any depth, once for each occurrence.  What a guarded value would
give out is not in it. -/
def pending : Value → Multiset Nat
  | array items => pendingOfItems items
  | record fields => pendingOfFields fields
  | deferred source => {source}
  | _ => 0

def pendingOfItems : List Value → Multiset Nat
  | [] => 0
  | v :: rest => v.pending + pendingOfItems rest

def pendingOfFields : {b : Option String} → Fields Value b → Multiset Nat
  | _, .nil => 0
  | _, .cons _ v _ rest => v.pending + pendingOfFields rest

end

/-- What a record has left to compute is what its fields have. -/
theorem mem_pendingOfFields {source : Nat} : {b : Option String} → {fields : Fields Value b} →
    (source ∈ pendingOfFields fields ↔ ∃ key v, fields.find? key = some v ∧ source ∈ v.pending)
  | _, .nil => by simp [pendingOfFields]
  | _, .cons k v h rest => by
    have hall : (∀ key w, (Fields.cons k v h rest).find? key = some w → source ∉ pending w) ↔
        source ∉ pending v ∧ ∀ key w, rest.find? key = some w → source ∉ pending w :=
      Fields.forall_find?_cons (P := fun _ w => source ∉ pending w)
    rw [pendingOfFields, Multiset.mem_add, mem_pendingOfFields, ← not_iff_not]
    simp only [not_or, not_exists, not_and]
    exact hall.symm

end Value

/-- No occurrence is spent twice: each deferred value that was computed occurs in the pool or in what was given
before.  Whether what guarded values gave out belongs to that is told by `revealed`. -/
def Affords (revealed : Bool) : Multiset Nat → List Event → Prop
  | _, [] => True
  | pool, .computed source given :: rest =>
    source ∈ pool ∧ Affords revealed (pool.erase source + given.pending) rest
  | pool, .disclosed _ given :: rest => Affords revealed (if revealed then pool + given.pending else pool) rest

namespace Affords

variable {o : Bool} {pool pool' : Multiset Nat} {events events' : List Event}

/-- More that may be asked does no harm. -/
theorem mono (h : Affords o pool events) (hle : pool ≤ pool') : Affords o pool' events := by
  -- by induction on the events, each of which uses up its source
  induction events generalizing pool pool' with
  | nil => trivial
  | cons e events ih =>
    cases e with
    | computed source given =>
      exact ⟨Multiset.mem_of_le hle h.1, ih h.2 (add_le_add_left (Multiset.erase_le_erase source hle) _)⟩
    | disclosed source given =>
      refine ih h ?_
      split
      · exact add_le_add_left hle _
      · exact hle

/-- Two pools together afford what each of them affords. -/
theorem append (h : Affords o pool events) (h' : Affords o pool' events') :
    Affords o (pool + pool') (events ++ events') := by
  -- by induction on the first events, with what is given out on the way
  induction events generalizing pool with
  | nil => exact h'.mono (Multiset.le_add_left pool' pool)
  | cons e events ih =>
    cases e with
    | computed source given =>
      refine ⟨Multiset.mem_add.2 (.inl h.1), ?_⟩
      rw [Multiset.erase_add_left_pos _ h.1, add_right_comm]
      exact ih h.2
    | disclosed source given =>
      show Affords o (if o then pool + pool' + given.pending else pool + pool') (events ++ events')
      have hrest := ih h
      split at hrest
      next ho => rwa [if_pos ho, add_right_comm]
      next ho => rwa [if_neg ho]

/-- Computing a deferred value spends its occurrence, and what was given for it is there instead. -/
theorem deferred_iff {source : Nat} {given : Value} :
    Affords o (Value.deferred source).pending (.computed source given :: events) ↔ Affords o given.pending events := by
  show source ∈ ({source} : Multiset Nat) ∧
    Affords o (({source} : Multiset Nat).erase source + given.pending) events ↔ _
  rw [Multiset.erase_singleton, zero_add, and_iff_right (Multiset.mem_singleton_self source)]

/-- A guarded value has no occurrence in it but in what it gives out. -/
theorem guarded_iff {source : Nat} {given : Value} :
    Affords true (Value.guarded source).pending (.disclosed source given :: events) ↔
      Affords true given.pending events := by
  show Affords true (0 + given.pending) events ↔ _
  rw [zero_add]

end Affords

/-! ## What a computation adds to the log -/

section

variable {σ α β : Type} {log : σ → List Event}

/-- From any hidden state the computation adds events to the log that are as told of its result. -/
def Runs (log : σ → List Event) (m : StateM σ α) (post : α → List Event → Prop) : Prop :=
  ∀ hidden, ∃ events, log (m hidden).2 = log hidden ++ events ∧ post (m hidden).1 events

/-- One visit after another: what was made of each element, and the events of all. -/
inductive Visits (P : α → β → List Event → Prop) : List α → List β → List Event → Prop where
  | nil : Visits P [] [] []
  | cons {a : α} {b : β} {as : List α} {bs : List β} {events more : List Event} (head : P a b events)
      (tail : Visits P as bs more) : Visits P (a :: as) (b :: bs) (events ++ more)

/-- A visit to all fields: what was made of each, and the events of all in the order of the keys. -/
def VisitsFields (P : String → α → β → List Event → Prop) {b : Option String} (fields : Fields α b)
    (fields' : Fields β b) (events : List Event) : Prop :=
  ∃ asked : String → List Event, events = fields.keys.flatMap asked ∧ ∀ key,
    (fields.find? key).Rel (fun v w => P key v w (asked key)) (fields'.find? key)

/-- What was visited has a result. -/
theorem exists_of_rel_left {r : α → β → Prop} {a : Option α} {b : Option β} {v : α} (h : a.Rel r b)
    (ha : a = some v) : ∃ w, b = some w ∧ r v w := by
  subst ha
  cases h with
  | some h => exact ⟨_, rfl, h⟩

/-- What is a result was visited. -/
theorem exists_of_rel_right {r : α → β → Prop} {a : Option α} {b : Option β} {w : β} (h : a.Rel r b)
    (hb : b = some w) : ∃ v, a = some v ∧ r v w := by
  subst hb
  cases h with
  | some h => exact ⟨_, rfl, h⟩

/-- A key is one of the map if it is found. -/
theorem Fields.mem_keys {b : Option String} {fields : Fields α b} {key : String} :
    key ∈ fields.keys ↔ ∃ v, fields.find? key = some v := by
  rw [keys, List.mem_map]
  constructor
  · rintro ⟨⟨key, v⟩, hv, rfl⟩
    exact ⟨v, Fields.mem_toList.1 hv⟩
  · rintro ⟨v, hv⟩
    exact ⟨(key, v), Fields.mem_toList.2 hv, rfl⟩

/-- Each field of the result has its own visit. -/
theorem VisitsFields.exists_visit {P : String → α → β → List Event → Prop} {b : Option String}
    {fields : Fields α b} {fields' : Fields β b} {events : List Event} (h : VisitsFields P fields fields' events)
    {key : String} {w : β} (hw : fields'.find? key = some w) :
    ∃ v visit, fields.find? key = some v ∧ P key v w visit ∧ visit ⊆ events := by
  obtain ⟨asked, rfl, hvisits⟩ := h
  obtain ⟨v, hv, hvisit⟩ := exists_of_rel_right (hvisits key) hw
  refine ⟨v, asked key, hv, hvisit, fun e he => ?_⟩
  exact List.mem_flatMap.2 ⟨key, Fields.mem_keys.2 ⟨v, hv⟩, he⟩

namespace Runs

variable {P : α → List Event → Prop} {Q : β → List Event → Prop}

/-- What returns at once asks nothing. -/
theorem pure {a : α} (h : P a []) : Runs log (pure a : StateM σ α) P :=
  fun hidden => ⟨[], (List.append_nil (log hidden)).symm, h⟩

/-- What is shown of the events may be less. -/
theorem mono {m : StateM σ α} {P' : α → List Event → Prop} (h : Runs log m P)
    (hP : ∀ a events, P a events → P' a events) : Runs log m P' := by
  intro hidden
  obtain ⟨events, hlog, hpost⟩ := h hidden
  exact ⟨events, hlog, hP _ _ hpost⟩

/-- One step asks after the other. -/
theorem bind {m : StateM σ α} {f : α → StateM σ β} (h : Runs log m P)
    (hf : ∀ a events, P a events → Runs log (f a) fun b more => Q b (events ++ more)) : Runs log (m >>= f) Q := by
  intro hidden
  obtain ⟨events, hlog, hP⟩ := h hidden
  obtain ⟨more, hmore, hQ⟩ := hf _ events hP (m hidden).2
  refine ⟨events ++ more, ?_, hQ⟩
  show log (f (m hidden).1 (m hidden).2).2 = _
  rw [hmore, hlog, List.append_assoc]

/-- A result is changed without asking. -/
theorem bind_pure {m : StateM σ α} {post : List Event → Prop} (h : Runs log m fun _ events => post events)
    (f : α → β) : Runs log (m >>= fun a => Pure.pure (f a)) fun _ events => post events :=
  h.bind fun _ events hpost => .pure (by rwa [List.append_nil])

/-- Computing a source asks for it. -/
theorem compute {s : Suppliers σ} (h : s.KeepsLog log) (source : Nat) :
    Runs log (s.compute source) fun given events => events = [.computed source given] :=
  fun hidden => ⟨_, h.compute source hidden, rfl⟩

/-- Disclosing a source asks for it. -/
theorem disclose {s : Suppliers σ} (h : s.KeepsLog log) (source : Nat) :
    Runs log (s.disclose source) fun given events => events = [.disclosed source given] :=
  fun hidden => ⟨_, h.disclose source hidden, rfl⟩

/-- Visiting a list asks for its items in order. -/
theorem mapM {f : α → StateM σ β} {P : α → β → List Event → Prop} {as : List α}
    (h : ∀ a ∈ as, Runs log (f a) (P a)) : Runs log (as.mapM f) (Visits P as) := by
  induction as with
  | nil => exact .pure .nil
  | cons a as ih =>
    rw [List.mapM_cons]
    obtain ⟨hfirst, hothers⟩ := List.forall_mem_cons.1 h
    refine hfirst.bind fun b events hb => (ih hothers).bind fun bs more hbs => .pure ?_
    rw [List.append_nil]
    exact .cons hb hbs

/-- Visiting a record asks for its fields in order. -/
theorem mapFields {f : String → α → StateM σ β} {P : String → α → β → List Event → Prop} : {b : Option String} →
    {fields : Fields α b} → (∀ key v, fields.find? key = some v → Runs log (f key v) (P key v)) →
    Runs log (fields.mapM f) (VisitsFields P fields)
  | _, .nil, _ => .pure ⟨fun _ => [], rfl, fun _ => .none⟩
  | _, .cons k v above rest, h => by
    obtain ⟨hfirst, hothers⟩ := (Fields.forall_find?_cons (P := fun key v => Runs log (f key v) (P key v))).1 h
    rw [Fields.mapM]
    refine hfirst.bind fun w events hw => (mapFields hothers).bind ?_
    rintro rest' more ⟨asked, rfl, hrest⟩
    -- the first key does not come again
    have hnew : ∀ key ∈ rest.keys, key ≠ k := by
      rintro key hkey rfl
      obtain ⟨u, hu⟩ := Fields.mem_keys.1 hkey
      rw [Fields.find?_eq_none_of_not_above (b := some key) (String.lt_irrefl key)] at hu
      cases hu
    let asked' : String → List Event := fun key => if key = k then events else asked key
    have hself : asked' k = events := if_pos rfl
    have hothers : ∀ key, key ≠ k → asked' key = asked key := fun key hk => if_neg hk
    refine .pure ⟨asked', ?_, fun key => ?_⟩
    · show events ++ (rest.keys.flatMap asked ++ []) = asked' k ++ rest.keys.flatMap asked'
      rw [List.append_nil, hself, List.flatMap_congr fun key hkey => hothers key (hnew key hkey)]
    · rw [Fields.find?_cons, Fields.find?_cons]
      by_cases hk : key = k
      · subst hk
        rw [if_pos rfl, if_pos rfl, hself]
        exact .some hw
      · rw [if_neg hk, if_neg hk, hothers key hk]
        exact hrest key

end Runs

end

namespace Affords

variable {revealed : Bool}

/-- What each item affords the array affords. -/
theorem ofItems {β : Type} {items : List Value} {results : List β} {events : List Event}
    {P : Value → β → List Event → Prop} (h : Visits P items results events)
    (hP : ∀ v b events, P v b events → Affords revealed v.pending events) :
    Affords revealed (Value.pendingOfItems items) events := by
  induction h with
  | nil => trivial
  | cons head tail ih => exact (hP _ _ _ head).append ih

/-- What is asked for each field is asked for the record. -/
theorem ofAsked {asked : String → List Event} : {b : Option String} → {fields : Fields Value b} →
    (∀ key v, fields.find? key = some v → Affords revealed v.pending (asked key)) →
    Affords revealed (Value.pendingOfFields fields) (fields.keys.flatMap asked)
  | _, .nil, _ => trivial
  | _, .cons k v above rest, h => by
    obtain ⟨hfirst, hothers⟩ :=
      (Fields.forall_find?_cons (P := fun key v => Affords revealed (Value.pending v) (asked key))).1 h
    show Affords revealed (v.pending + Value.pendingOfFields rest) (asked k ++ rest.keys.flatMap asked)
    exact hfirst.append (ofAsked hothers)

/-- What each field affords the record affords. -/
theorem ofFields {β : Type} {b : Option String} {fields : Fields Value b} {results : Fields β b}
    {events : List Event} {P : String → Value → β → List Event → Prop} (h : VisitsFields P fields results events)
    (hP : ∀ key v w events, P key v w events → Affords revealed v.pending events) :
    Affords revealed (Value.pendingOfFields fields) events := by
  obtain ⟨asked, rfl, hvisits⟩ := h
  refine ofAsked fun key v hv => ?_
  obtain ⟨w, -, hvisit⟩ := exists_of_rel_left (hvisits key) hv
  exact hP key v w _ hvisit

end Affords

namespace Value

variable {σ : Type} {log : σ → List Event} {s : Suppliers σ}

/-! ## Computing -/

/-- The value was computed to another one: it is not deferred any more, it was asked for first, and what it holds is
afforded by what was asked. -/
structure Computed (v u : Value) (events : List Event) : Prop where
  plain : u.isDeferred = false
  affords : ∀ {revealed more}, Affords revealed u.pending more → Affords revealed v.pending (events ++ more)
  first : ∀ source, v = deferred source → ∃ given rest, events = .computed source given :: rest

/-- Resolving asks for what the value has left to compute. -/
theorem runs_resolveWithin (hlog : s.KeepsLog log) (n : Nat) (v : Value) :
    Runs log (resolveWithin s n v) fun u events => u.isDeferred = false ∧
      ∀ {revealed more}, Affords revealed u.pending more → Affords revealed v.pending (events ++ more) := by
  -- by induction on the steps, each of which asks for what the last one gave
  induction n generalizing v with
  | zero => exact .pure ⟨rfl, fun h => h.mono (Multiset.zero_le _)⟩
  | succ n ih =>
    cases v with
    | deferred source =>
      refine (Runs.compute hlog source).bind ?_
      rintro given _ rfl
      exact (ih given).mono fun u events hu => ⟨hu.1, fun hmore => Affords.deferred_iff.2 (hu.2 hmore)⟩
    | _ => exact .pure ⟨rfl, fun h => h⟩

/-- Resolving asks first for the value itself. -/
theorem runs_resolve (hlog : s.KeepsLog log) (v : Value) : Runs log (v.resolve s) (Computed v) := by
  cases v with
  | deferred source =>
    refine (Runs.compute hlog source).bind ?_
    rintro given _ rfl
    refine (runs_resolveWithin hlog _ given).mono fun u events hu =>
      ⟨hu.1, fun hmore => Affords.deferred_iff.2 (hu.2 hmore), ?_⟩
    rintro _ ⟨⟩
    exact ⟨given, events, rfl⟩
  | _ => exact .pure ⟨rfl, fun h => h, nofun⟩

/-! ## Encoding -/

/-- Encoding asks for each occurrence at most once, those that guarded values give out among them. -/
theorem runs_encodeWithin (hlog : s.KeepsLog log) (room : Nat) (v : Value) :
    Runs log (v.encodeWithin s room) fun _ events => Affords true v.pending events := by
  -- by induction on the levels; a record takes two of them, so the induction is strong
  induction room using Nat.strongRecOn generalizing v with
  | ind room ih =>
    cases room with
    | zero => exact .pure trivial
    | succ room =>
      have hless : room < room + 1 := Nat.lt_succ_self room
      cases v with
      | array items =>
        refine (Runs.mapM (P := fun v _ events => Affords true v.pending events)
          fun v _ => ih room hless v).bind fun js events hjs => .pure ?_
        rw [List.append_nil]
        exact .ofItems hjs fun _ _ _ h => h
      | record fields =>
        -- with one level left a record is too deep, and nothing in it is asked for
        cases room with
        | zero =>
          rw [encodeWithin]
          split <;> exact .pure trivial
        | succ room =>
          rw [encodeWithin]
          split
          next => exact .pure trivial
          next =>
            refine (Runs.mapFields (P := fun _ v _ events => Affords true v.pending events)
              fun key v _ => ih room (by omega) v).bind fun members events hmembers => .pure ?_
            rw [List.append_nil]
            exact .ofFields hmembers fun _ _ _ _ h => h
      -- what is given is asked for in turn
      | deferred source =>
        refine (Runs.compute hlog source).bind ?_
        rintro given _ rfl
        exact (ih room hless given).mono fun j events hgiven => Affords.deferred_iff.2 hgiven
      | guarded source =>
        refine (Runs.disclose hlog source).bind ?_
        rintro given _ rfl
        exact (ih room hless given).mono fun j events hgiven => Affords.guarded_iff.2 hgiven
      | _ => exact .pure trivial

end Value
end Logbook
