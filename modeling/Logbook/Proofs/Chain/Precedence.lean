import Logbook.Proofs.Chain.Layers

/-!
# Which field wins

A key of a finished entry may have a value in many places: in the identity of the program, in the entry, and in every
layer of the chain.  The first of these places that has the key gives it its value, the newest layer coming before the
older ones.  The identity holds four keys and the entry up to four others, so neither takes a field from the other, and
no layer replaces a field of either.

A chain finds its fields in two ways: by merging layer after layer (`Chain.fields`), and key by key (`Chain.field?`).
Both give the same.

## Key results

- `Host.find?_identity_own` / `Logger.find?_entry_own`: the keys of identities and entries
- `Chain.records_derived`: the layers of a chain, newest first
- `Chain.find?_flatten_derived`: what a finished entry holds
-/

namespace Logbook

variable {σ : Type}

/-! ## The keys of identities and entries -/

/-- The name, the host, the process and the thread are in the identity of a program. -/
theorem Host.find?_identity_own (h : Host) (name : String) :
    let r := h.identity name
    r.find? Record.nameKey = some (.text name) ∧ r.find? Record.hostKey = some (.text h.name) ∧
      r.find? Record.processKey = some (.uint h.process) ∧ r.find? Record.threadKey = some (.deferred h.thread) := by
  simp [find?_identity_eq, Record.nameKey, Record.hostKey, Record.processKey, Record.threadKey]

/-- None of the keys of an entry is in the identity. -/
theorem Host.find?_identity_of_entry (h : Host) (name : String) :
    ∀ key ∈ [Record.timeKey, Record.levelKey, Record.messageKey, Record.errorKey],
      (h.identity name).find? key = none := by
  simp [find?_identity_eq, Record.nameKey, Record.hostKey, Record.processKey, Record.threadKey, Record.timeKey,
    Record.levelKey, Record.messageKey, Record.errorKey]

/-- The time, the level, the message and the error are in an entry, the last if there is one. -/
theorem Logger.find?_entry_own (now : Instant) (level : Level) (message : String) (error : Option ErrorChain) :
    let r := entry now level message error
    r.find? Record.timeKey = some (.time now) ∧ r.find? Record.levelKey = some (.level level) ∧
      r.find? Record.messageKey = some (.text (error.elim message fun e => message ++ ": " ++ e.message)) ∧
      r.find? Record.errorKey = error.map ErrorChain.value := by
  simp [find?_entry_eq, Record.timeKey, Record.levelKey, Record.messageKey, Record.errorKey]

/-! ## Chains -/

namespace Chain

/-- What the identity has is not looked for any further. -/
theorem find?_flatten_of_identity (c : Chain) {key : String} {v : Value} (hv : c.identity.find? key = some v)
    (r : Record) : (c.flatten r).find? key = some v := by
  rw [flatten_eq_merge, Record.find?_merge, hv, Option.some_or]

/-- The layers of a derived chain come in front of those that it had, the newest first. -/
theorem records_derived (s : Suppliers σ) (c : Chain) (ds : List (Derivation σ)) :
    (c.derived s ds).nodes.map (·.record) = ds.reverse.map (·.layer.record) ++ c.nodes.map (·.record) := by
  induction ds generalizing c with
  | nil => rfl
  | cons d ds ih =>
    rw [derived, List.foldl_cons, ← derived, ih, List.reverse_cons, List.map_append, List.append_assoc]
    rfl

/-- The layers that a chain was begun with and derived by, the newest first. -/
theorem records_root_derived (s : Suppliers σ) (h : Host) (name : String) (oldest : Derivation σ)
    (ds : List (Derivation σ)) :
    ((root s h name oldest.layer.record oldest.layer.rules oldest.hidden).1.derived s ds).nodes.map (·.record)
      = (oldest :: ds).reverse.map (·.layer.record) := by
  rw [records_derived, List.reverse_cons, List.map_append]
  rfl

/-- Deriving keeps the identity. -/
theorem identity_derived (s : Suppliers σ) (c : Chain) (ds : List (Derivation σ)) :
    (c.derived s ds).identity = c.identity := by
  induction ds generalizing c with
  | nil => rfl
  | cons d ds ih => exact ih _

/-- The fields of a chain can be found one by one. -/
theorem field?_eq_find?_fields (c : Chain) (key : String) : c.field? key = c.fields.find? key := by
  rw [fields, flatten_eq_merge, Record.find?_merge, Record.find?_merge, field?_eq_merged]
  rfl

/-- **The first place that has a key gives it its value**: the identity, then the entry, then the layers of the chain
from the newest to the oldest.  So the name, the host, the process and the thread are always those of the program, and
nothing in the chain replaces the time, the level, the message and the error of an entry that is logged.  What the chain
says of its own fields one by one is what it gives to entries. -/
theorem find?_flatten_derived (s : Suppliers σ) (h : Host) (name : String) (oldest : Derivation σ)
    (ds : List (Derivation σ)) :
    let c := (root s h name oldest.layer.record oldest.layer.rules oldest.hidden).1.derived s ds
    let layers := (oldest :: ds).reverse.map (·.layer.record)
    (∀ entry key, (c.flatten entry).find? key
      = (h.identity name :: entry :: layers).findSome? (·.find? key)) ∧
    (∀ entry, let r := c.flatten entry
      r.find? Record.nameKey = some (.text name) ∧ r.find? Record.hostKey = some (.text h.name) ∧
        r.find? Record.processKey = some (.uint h.process) ∧
        r.find? Record.threadKey = some (.deferred h.thread)) ∧
    (∀ now level message error, let r := c.flatten (Logger.entry now level message error)
      r.find? Record.timeKey = some (.time now) ∧ r.find? Record.levelKey = some (.level level) ∧
        r.find? Record.messageKey
          = some (.text (error.elim message fun e => message ++ ": " ++ e.message)) ∧
        r.find? Record.errorKey
          = (error.map ErrorChain.value).or (layers.findSome? (·.find? Record.errorKey))) ∧
    ∀ key, c.field? key = c.fields.find? key := by
  intro c layers
  have hidentity : c.identity = h.identity name := identity_derived s _ ds
  have hrecords : c.nodes.map (·.record) = layers := records_root_derived s h name oldest ds
  have hfirst : ∀ entry key, (c.flatten entry).find? key
      = (h.identity name :: entry :: layers).findSome? (·.find? key) := by
    -- the walk down the layers finds what the merged record holds
    intro entry key
    rw [flatten_eq_overlay, Record.find?_overlay, hidentity, hrecords]
  refine ⟨hfirst, fun entry => ?_, fun now level message error => ?_, c.field?_eq_find?_fields⟩
  · obtain ⟨hname, hhost, hprocess, hthread⟩ := h.find?_identity_own name
    -- the four fields of the identity win, as it stands in front
    rw [← hidentity] at hname hhost hprocess hthread
    exact ⟨c.find?_flatten_of_identity hname entry, c.find?_flatten_of_identity hhost entry,
      c.find?_flatten_of_identity hprocess entry, c.find?_flatten_of_identity hthread entry⟩
  · obtain ⟨htime, hlevel, hmessage, herror⟩ := Logger.find?_entry_own now level message error
    -- the identity has none of the four keys, so the entry is the first that may have them
    have hentry : ∀ key ∈ [Record.timeKey, Record.levelKey, Record.messageKey, Record.errorKey],
        (c.flatten (Logger.entry now level message error)).find? key
          = ((Logger.entry now level message error).find? key).or (layers.findSome? (·.find? key)) := by
      intro key hkey
      rw [hfirst, List.findSome?_cons, h.find?_identity_of_entry name key hkey, List.findSome?_cons]
      cases (Logger.entry now level message error).find? key <;> rfl
    refine ⟨?_, ?_, ?_, ?_⟩
    · rw [hentry _ (by decide), htime, Option.some_or]
    · rw [hentry _ (by decide), hlevel, Option.some_or]
    · rw [hentry _ (by decide), hmessage, Option.some_or]
    · rw [hentry _ (by decide), herror]

end Chain

end Logbook
