import Logbook.Sink.Delivery
import Mathlib.Data.List.Forall2

/-!
# Masked fields keep their secrets

Two records that differ only in values that key rules mask are redacted to the same record.  `Value.Alike`
relates the values below a record that may differ in this way, `Record.Alike` the records themselves.

## Key results

- `Fields.mapM_congr` / `mapM_eq_of_forall₂`: visiting related containers does the same
- `Redaction.redactValue_alike`: alike values are redacted to the same, however deep they may nest
- `Record.redact_eq_of_alike`: so are alike records, and no sink can tell which of them it gets
-/

namespace Logbook

variable {σ : Type}

/-- Deferred values neither look at the hidden state nor change it. -/
def Suppliers.IsPure (s : Suppliers σ) : Prop := ∀ source, ∃ v, s.compute source = pure v

/-- The value does not compute to a guarded one. -/
def Value.IsUnguarded (s : Suppliers σ) (v : Value) : Prop :=
  ∀ source, v.resolve s ≠ pure (.guarded source)

/-- A field whose two values a key rule masks. -/
def Redaction.Masked (s : Suppliers σ) (rules : List Redaction.Rule) (key : String) (a b : Value) : Prop :=
  Redaction.masks rules key = true ∧ a.IsUnguarded s ∧ b.IsUnguarded s

/-- Values that differ in masked fields only, at any depth: they compute to the same, or to arrays of alike
items, or to records of the same keys whose fields are masked or alike. -/
inductive Value.Alike (s : Suppliers σ) (rules : List Redaction.Rule) : Value → Value → Prop where
  | same {v w : Value} (h : v.resolve s = w.resolve s) : Alike s rules v w
  | array {v w : Value} {xs ys : List Value} (hv : v.resolve s = pure (.array xs))
      (hw : w.resolve s = pure (.array ys)) (h : List.Forall₂ (Alike s rules) xs ys) : Alike s rules v w
  | record {v w : Value} {f g : Record} (hv : v.resolve s = pure (.record f))
      (hw : w.resolve s = pure (.record g)) (hkeys : ∀ key, f.contains key = g.contains key)
      (h : ∀ key a b, f.find? key = some a → g.find? key = some b →
        ¬ Redaction.Masked s rules key a b → Alike s rules a b) : Alike s rules v w

/-- Records of the same keys whose fields are masked or alike, the fields that route them being equal. -/
structure Record.Alike (s : Suppliers σ) (rules : List Redaction.Rule) (r r' : Record) : Prop where
  keys : ∀ key, r.contains key = r'.contains key
  routing : ∀ key, Redaction.isRouting key = true → r.find? key = r'.find? key
  fields : ∀ key a b, r.find? key = some a → r'.find? key = some b → Redaction.isRouting key = false →
    ¬ Redaction.Masked s rules key a b → Value.Alike s rules a b

/-! ## Visiting related containers -/

/-- Visits that agree on related items agree. -/
theorem mapM_eq_of_forall₂ {m : Type → Type} [Monad m] [LawfulMonad m] {α β : Type} {R : α → α → Prop}
    {f : α → m β} {xs ys : List α} (h : List.Forall₂ R xs ys) (hf : ∀ x y, R x y → f x = f y) :
    xs.mapM f = ys.mapM f := by
  induction h with
  | nil => rfl
  | cons hxy _ ih => rw [List.mapM_cons, List.mapM_cons, hf _ _ hxy, ih]

namespace Fields

variable {α β : Type}

/-- Visits that agree on the values of each key agree. -/
theorem mapM_congr {m : Type → Type} [Monad m] {f : String → α → m β} :
    {b : Option String} → {r r' : Fields α b} → (∀ key, r.contains key = r'.contains key) →
    (∀ key x y, r.find? key = some x → r'.find? key = some y → f key x = f key y) → r.mapM f = r'.mapM f
  | _, nil, nil, _, _ => rfl
  | _, nil, cons k v h rest, hkeys, _ => absurd (hkeys k) (by simp [contains, find?_cons])
  | _, cons k v h rest, nil, hkeys, _ => absurd (hkeys k) (by simp [contains, find?_cons])
  | b, cons k v h rest, cons l w hl rest', hkeys, hf => by
    -- both maps start with the same key, and behind it neither has it again
    obtain rfl := first_key_eq hkeys
    have hhead : f k v = f k w := hf k v w (by simp [find?_cons]) (by simp [find?_cons])
    have habove : ∀ {g : Fields α (some k)}, g.contains k = false :=
      contains_eq_false_of_not_above (b := some k) (String.lt_irrefl k)
    have hrest : rest.mapM f = rest'.mapM f := by
      refine mapM_congr (fun key => ?_) fun key x y hx hy => ?_
      · by_cases hkey : key = k
        · rw [hkey, habove, habove]
        · simpa [contains_cons, hkey] using hkeys key
      · have hkey : key ≠ k := by
          rintro rfl
          rw [find?_eq_none_of_not_above (b := some key) (String.lt_irrefl key)] at hx
          cases hx
        exact hf key x y (by simpa [find?_cons, hkey] using hx) (by simpa [find?_cons, hkey] using hy)
    rw [Fields.mapM, Fields.mapM, hhead, hrest]

end Fields

/-! ## Redaction of alike values -/

/-- Suppliers without effects resolve without effects. -/
theorem Suppliers.IsPure.resolve {s : Suppliers σ} (hs : s.IsPure) (v : Value) :
    ∃ u, v.resolve s = pure u := by
  -- on the number of deferred values that resolving goes through
  have within : ∀ (n : Nat) (v : Value), ∃ u, v.resolveWithin s n = pure u := by
    intro n
    induction n with
    | zero => intro v; exact ⟨_, rfl⟩
    | succ n ih =>
      intro v
      cases v with
      | deferred source =>
        obtain ⟨w, hw⟩ := hs source
        obtain ⟨u, hu⟩ := ih w
        exact ⟨u, by rw [Value.resolveWithin, hw, pure_bind, hu]⟩
      | _ => exact ⟨_, rfl⟩
  exact within _ v

namespace Redaction

variable {s : Suppliers σ} {rules : List Rule}

/-- A value that is not guarded goes on to the rest. -/
theorem disclosing_of_resolve (rest : Value → StateM σ Value) {v u : Value} (h : v.resolve s = pure u)
    (hu : ∀ source, u ≠ .guarded source) : disclosing s rest v = rest u := by
  rw [disclosing, h, pure_bind]
  cases u with
  | guarded source => exact absurd rfl (hu source)
  | _ => rfl

/-- Disclosing alike values is the same if what comes after treats alike containers the same. -/
theorem disclosing_alike {rest : Value → StateM σ Value} {v w : Value} (h : v.Alike s rules w)
    (hitems : ∀ xs ys, List.Forall₂ (Value.Alike s rules) xs ys → rest (.array xs) = rest (.array ys))
    (hfields : ∀ f g : Record, (∀ key, f.contains key = g.contains key) →
      (∀ key a b, f.find? key = some a → g.find? key = some b → ¬ Masked s rules key a b →
        Value.Alike s rules a b) → rest (.record f) = rest (.record g)) :
    disclosing s rest v = disclosing s rest w := by
  cases h with
  | same h => rw [disclosing, disclosing, h]
  | array hv hw h =>
    rw [disclosing_of_resolve rest hv (by simp), disclosing_of_resolve rest hw (by simp), hitems _ _ h]
  | record hv hw hkeys h =>
    rw [disclosing_of_resolve rest hv (by simp), disclosing_of_resolve rest hw (by simp), hfields _ _ hkeys h]

/-- What a masked field becomes. -/
theorem redactField_of_masks (hs : s.IsPure) (rest : Value → StateM σ Value) {key : String} {v : Value}
    (hkey : masks rules key = true) (hv : v.IsUnguarded s) :
    redactField s rules rest key v = pure (.text mask) := by
  obtain ⟨u, hu⟩ := hs.resolve v
  rw [redactField, disclosing_of_resolve _ hu fun source he => hv source (he ▸ hu), if_pos hkey]

/-- Fields that are masked or alike are redacted to the same if alike values are. -/
theorem redactField_alike (hs : s.IsPure) {rest : Value → StateM σ Value} {key : String} {v w : Value}
    (hrest : v.Alike s rules w → disclosing s rest v = disclosing s rest w)
    (h : ¬ Masked s rules key v w → v.Alike s rules w) :
    redactField s rules rest key v = redactField s rules rest key w := by
  by_cases hmasked : Masked s rules key v w
  · obtain ⟨hkey, hv, hw⟩ := hmasked
    rw [redactField_of_masks hs rest hkey hv, redactField_of_masks hs rest hkey hw]
  · have halike := h hmasked
    cases hkey : masks rules key with
    | true =>
      -- the key is named, and what is not guarded is masked on both sides
      exact disclosing_alike halike (fun _ _ _ => by simp [hkey]) fun _ _ _ _ => by simp [hkey]
    | false =>
      have heq : (fun v => if masks rules key = true then pure (.text mask) else rest v) = rest := by
        simp [hkey]
      rw [redactField, heq]
      exact hrest halike

/-- Alike values are redacted to the same, whatever room there is for containers. -/
theorem disclosing_redactValue_alike (hs : s.IsPure) (room : Nat) {v w : Value} (h : v.Alike s rules w) :
    disclosing s (redactValue s rules room) v = disclosing s (redactValue s rules room) w := by
  -- on the room: the containers inside have less of it
  induction room generalizing v w with
  | zero => exact disclosing_alike h (fun _ _ _ => rfl) fun _ _ _ _ => rfl
  | succ room ih =>
    refine disclosing_alike h (fun xs ys hitems => ?_) fun f g hkeys hfields => ?_
    · have hvisit := mapM_eq_of_forall₂ hitems fun a b hab => ih hab
      rw [redactValue, redactValue, hvisit]
    · have hvisit : f.mapM (redactField s rules (redactValue s rules room))
          = g.mapM (redactField s rules (redactValue s rules room)) :=
        Fields.mapM_congr hkeys fun key a b ha hb => redactField_alike hs ih (hfields key a b ha hb)
      rw [redactValue, redactValue, hvisit]

end Redaction

/-- Alike records are redacted to the same record. -/
theorem Record.redact_alike {s : Suppliers σ} {rules : List Redaction.Rule} (hs : s.IsPure) {r r' : Record}
    (h : r.Alike s rules r') : r.redact s rules = r'.redact s rules := by
  refine Fields.mapM_congr h.keys fun key a b ha hb => ?_
  -- fields that route are the same, and the others are alike
  cases hkey : Redaction.isRouting key with
  | true =>
    have hsame := h.routing key hkey
    rw [ha, hb, Option.some_inj] at hsame
    rw [hsame]
  | false =>
    simp only [Bool.false_eq_true, if_false]
    exact Redaction.redactField_alike hs (Redaction.disclosing_redactValue_alike hs _)
      (h.fields key a b ha hb hkey)

/-- **Masked fields keep their secrets.**  Records that differ in masked fields only are redacted to the same
record, and through a chain with these rules every sink does the same with them. -/
theorem Record.redact_eq_of_alike {s : Suppliers σ} (hs : s.IsPure) {rules : List Redaction.Rule}
    {r r' : Record} (h : r.Alike s rules r') :
    r.redact s rules = r'.redact s rules ∧
      ∀ (c : Chain) (next : Sink) (entry entry' : Record), c.rules = rules → c.flatten entry = r →
        c.flatten entry' = r' → Sink.write s entry (.through c next) = Sink.write s entry' (.through c next) := by
  have hredact := Record.redact_alike hs h
  refine ⟨hredact, fun c next entry entry' hrules hr hr' => ?_⟩
  have hfinish : c.finish s entry = c.finish s entry' := by
    rw [Chain.finish, Chain.finish, hr, hr', hrules, hredact]
  rw [Sink.write, Sink.write, hfinish]

/-- A password below a user is masked whether it is a text or an array that holds a deferred value. -/
theorem Record.redact_eq_of_alike_password :
    let s : Suppliers Unit := ⟨fun _ => pure (.text "computed"), fun _ => pure .null⟩
    let rules : List Redaction.Rule := [.keys (.ofList ["password"])]
    let user (secret : Value) : Record := .insert .nil "user" (.record (.insert .nil "Password" secret))
    let r := user (.text "hunter2")
    let r' := user (.array [.deferred 0, .null])
    s.IsPure ∧ r.Alike s rules r' ∧ r.redact s rules = r'.redact s rules := by
  intro s rules user r r'
  have hs : s.IsPure := fun _ => ⟨_, rfl⟩
  -- the key is covered, whatever its case
  have hmasks : Redaction.masks rules "Password" = true := by decide
  have hunguarded : ∀ v : Value, v.isDeferred = false → (∀ source, v ≠ .guarded source) →
      v.IsUnguarded s := by
    intro v hv hguard source h
    rw [Value.resolve_of_not_deferred s hv] at h
    exact hguard source (congrArg Prod.fst (congrFun h ()))
  have hinner : Value.Alike s rules (.record (.insert .nil "Password" (.text "hunter2")))
      (.record (.insert .nil "Password" (.array [.deferred 0, .null]))) := by
    -- the only field within is masked
    refine .record rfl rfl (fun key => ?_) fun key a b ha hb hopen => ?_
    · by_cases hkey : key = "Password" <;> simp [Fields.contains, hkey]
    · by_cases hkey : key = "Password"
      · subst hkey
        obtain rfl := Option.some_inj.1 (by simpa using ha)
        obtain rfl := Option.some_inj.1 (by simpa using hb)
        exact absurd ⟨hmasks, hunguarded _ rfl (by simp), hunguarded _ rfl (by simp)⟩ hopen
      · simp [hkey] at ha
  have halike : r.Alike s rules r' := by
    -- the only field of the record is open, and holds the two alike
    refine ⟨fun key => ?_, fun key hrouting => ?_, fun key a b ha hb _ _ => ?_⟩
    · by_cases hkey : key = "user" <;> simp [r, r', user, Fields.contains, hkey]
    · have hkey : key ≠ "user" := by rintro rfl; revert hrouting; decide
      simp [r, r', user, hkey]
    · by_cases hkey : key = "user"
      · subst hkey
        obtain rfl := Option.some_inj.1 (by simpa [r, user] using ha)
        obtain rfl := Option.some_inj.1 (by simpa [r', user] using hb)
        exact hinner
      · simp [r, user, hkey] at ha
  exact ⟨hs, halike, (Record.redact_eq_of_alike hs halike).1⟩

end Logbook
