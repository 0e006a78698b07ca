import Logbook.Proofs.Redaction.Disclosure
import Logbook.Proofs.Value.Computing

/-!
# Redaction place by place

`Record.redact` computes, discloses, masks and rewrites in one recursion.  `Value.Redacted` says of a value and its
result what became of each place in it, at any depth, and of the hidden state of the application between one place and
the next.  What may become of a text, which fields are masked and what a guarded value may give out are left to a
`Redaction.Policy`, so that the same relation describes a list of rules exactly (`Policy.ofRules`) and says of a result
only what matters.

## Key results

- `mapM_eq_iff` / `Fields.mapM_eq_iff`: a visit item by item, from one hidden state to the next
- `Record.redact_eq_iff`: redaction by rules, place by place
- `Record.Redacted.mono`: a result says of its places what follows from the rules
- `Record.Redacted.again`: what a second pass by the same rules makes of a result
- `Record.redactKeys_eq_iff`: key rules mask the fields they name and change nothing else
-/

namespace Logbook

variable {σ : Type}

/-! ## Visits -/

section Visits

variable {α β : Type}

/-- A list is visited from its first item on. -/
theorem mapM_cons_run (f : α → StateM σ β) (x : α) (xs : List α) (hidden : σ) :
    (x :: xs).mapM f hidden
      = let first := f x hidden
        let rest := xs.mapM f first.2
        (first.1 :: rest.1, rest.2) := by
  rw [List.mapM_cons]
  rfl

/-- The state at the start and those that come after it. -/
def statesFrom (start : σ) (later : Nat → σ) : Nat → σ
  | 0 => start
  | i + 1 => later i

/-- A visit to all items leads from one hidden state to the next, item by item. -/
theorem mapM_eq_iff {f : α → StateM σ β} {xs : List α} {ys : List β} {hidden after : σ} :
    xs.mapM f hidden = (ys, after) ↔
      ∃ states : Nat → σ, states 0 = hidden ∧ states xs.length = after ∧ ys.length = xs.length ∧
        ∀ i x y, xs[i]? = some x → ys[i]? = some y → f x (states i) = (y, states (i + 1)) := by
  -- by induction on the list; the state behind the first item is the one the others start in
  induction xs generalizing hidden ys with
  -- there is one state, before and after
  | nil =>
    constructor
    · intro h
      obtain ⟨rfl, rfl⟩ := Prod.mk.inj h
      exact ⟨fun _ => hidden, rfl, rfl, rfl, by simp⟩
    · rintro ⟨states, rfl, rfl, hlen, -⟩
      rw [List.length_eq_zero_iff.1 hlen]
      rfl
  | cons x xs ih =>
    rw [mapM_cons_run]
    constructor
    · intro h
      obtain ⟨rfl, rfl⟩ := Prod.mk.inj h
      -- the first item leads to the state in which the rest begins
      let rest := xs.mapM f (f x hidden).2
      obtain ⟨states, hstart, hend, hlen, heach⟩ := ih.1 (show rest = (rest.1, rest.2) from rfl)
      refine ⟨statesFrom hidden states, rfl, hend, congrArg (· + 1) hlen, ?_⟩
      rintro (_ | i) x' y hx hy
      · obtain rfl := Option.some.inj hx
        obtain rfl := Option.some.inj hy
        exact Prod.ext rfl hstart.symm
      · exact heach i x' y hx hy
    · rintro ⟨states, rfl, rfl, hlen, heach⟩
      obtain ⟨y, ys, rfl⟩ := List.exists_cons_of_length_eq_add_one hlen
      have hfirst : f x (states 0) = (y, states 1) := heach 0 x y rfl rfl
      have hrest : xs.mapM f (states 1) = (ys, states (xs.length + 1)) :=
        ih.2 ⟨fun i => states (i + 1), rfl, rfl, Nat.succ.inj hlen, fun i x' y' hx hy => heach (i + 1) x' y' hx hy⟩
      simp only [hfirst, hrest, List.length_cons]

namespace Fields

/-- A map is visited from its first field on. -/
theorem mapM_cons_run (g : String → α → StateM σ β) {b : Option String} {key : String} {v : α}
    {habove : Above b key} (rest : Fields α (some key)) (hidden : σ) :
    (cons key v habove rest).mapM g hidden
      = let first := g key v hidden
        let others := rest.mapM g first.2
        (cons key first.1 habove others.1, others.2) := rfl

/-- A visit to all fields leads from one hidden state to the next, field by field. -/
theorem mapM_eq_iff {g : String → α → StateM σ β} {b : Option String} {fields : Fields α b} {results : Fields β b}
    {hidden after : σ} :
    fields.mapM g hidden = (results, after) ↔
      ∃ states : Nat → σ, states 0 = hidden ∧ states fields.size = after ∧ results.keys = fields.keys ∧
        ∀ i key x y, fields.toList[i]? = some (key, x) → results.toList[i]? = some (key, y) →
          g key x (states i) = (y, states (i + 1)) := by
  -- by induction on the fields, as for lists
  induction fields generalizing hidden with
  -- without fields there is one state
  | nil =>
    constructor
    · intro h
      obtain ⟨rfl, rfl⟩ := Prod.mk.inj h
      exact ⟨fun _ => hidden, rfl, rfl, rfl, by simp [toList]⟩
    · rintro ⟨states, rfl, rfl, hkeys, -⟩
      cases results with
      | nil => rfl
      | cons => cases hkeys
  | cons key v habove rest ih =>
    rw [mapM_cons_run]
    constructor
    · intro h
      obtain ⟨rfl, rfl⟩ := Prod.mk.inj h
      -- the others start in the state behind the first
      let others := rest.mapM g (g key v hidden).2
      obtain ⟨states, hstart, hend, hkeys, heach⟩ := ih.1 (show others = (others.1, others.2) from rfl)
      refine ⟨statesFrom hidden states, rfl, hend, congrArg (key :: ·) hkeys, ?_⟩
      rintro (_ | i) key' x y hx hy
      · obtain ⟨rfl, rfl⟩ := Prod.mk.inj (Option.some.inj hx)
        obtain ⟨-, rfl⟩ := Prod.mk.inj (Option.some.inj hy)
        exact Prod.ext rfl hstart.symm
      · exact heach i key' x y hx hy
    · rintro ⟨states, rfl, rfl, hkeys, heach⟩
      cases results with
      | nil => cases hkeys
      | cons key' w habove' others =>
        obtain ⟨rfl, hkeys⟩ := List.cons.inj hkeys
        have hfirst : g key' v (states 0) = (w, states 1) := heach 0 key' v w rfl rfl
        have hrest : rest.mapM g (states 1) = (others, states (rest.size + 1)) :=
          ih.2 ⟨fun i => states (i + 1), rfl, rfl, hkeys, fun i k x y hx hy => heach (i + 1) k x y hx hy⟩
        simp only [hfirst, hrest, size]

end Fields

end Visits

/-! ## Rules that are patterns only -/

namespace Redaction

/-- All rules are patterns. -/
theorem patterns_map (ps : List Pattern) : patterns (ps.map .pattern) = ps := by
  induction ps with
  | nil => rfl
  | cons p ps ih => simp [patterns, ih]

/-- Patterns mask no key. -/
theorem masks_map (ps : List Pattern) : masks (ps.map .pattern) = fun _ => false := by
  funext key
  simp [masks, List.any_map]

end Redaction

/-! ## Policies -/

namespace Redaction

/-- What redaction may make of a record. -/
structure Policy (σ : Type) where
  /-- The fields that are masked. -/
  covers : String → Bool
  /-- What a text may become. -/
  rewrites : String → String → Prop
  /-- What a guarded value may give out, and the hidden states before and after. -/
  gives : Nat → σ → Value → σ → Prop

/-- What rules make of a record. -/
def Policy.ofRules (s : Suppliers σ) (rules : List Rule) : Policy σ where
  covers := masks rules
  rewrites t u := u = redactText rules t
  gives source hidden v after := s.disclose source hidden = (v, after)

end Redaction

/-- What became of a value below so many arrays and records, under a covered key or not, between two hidden states.
First of all the value is computed until it is not deferred (`Value.Resolves`). -/
inductive Value.Redacted (s : Suppliers σ) (policy : Redaction.Policy σ) :
    (depth : Nat) → (covered : Bool) → (hidden : σ) → (v u : Value) → (after : σ) → Prop where
  /-- A guarded value is left to itself. -/
  | given {depth : Nat} {covered : Bool} {hidden mid after : σ} {v u : Value} {source : Nat}
      (hv : v.Resolves s hidden (.guarded source) mid) (hgives : policy.gives source mid u after) :
      Redacted s policy depth covered hidden v u after
  /-- Any other value under a covered key is masked whole. -/
  | masked {depth : Nat} {hidden after : σ} {v w : Value} (hv : v.Resolves s hidden w after)
      (hw : ∀ source, w ≠ .guarded source) : Redacted s policy depth true hidden v (.text Redaction.mask) after
  /-- So is any other value that lies too deep. -/
  | deep {depth : Nat} {hidden after : σ} {v w : Value} (hv : v.Resolves s hidden w after)
      (hw : ∀ source, w ≠ .guarded source) (hdepth : depthLimit < depth) :
      Redacted s policy depth false hidden v (.text Redaction.mask) after
  | text {depth : Nat} {hidden after : σ} {v : Value} {t u : String} (hv : v.Resolves s hidden (.text t) after)
      (hdepth : depth ≤ depthLimit) (hrewrites : policy.rewrites t u) :
      Redacted s policy depth false hidden v (.text u) after
  /-- A scalar other than a text is only computed. -/
  | scalar {depth : Nat} {hidden after : σ} {v w : Value} (hv : v.Resolves s hidden w after)
      (hdepth : depth ≤ depthLimit) (hw : w.isScalar = true) (htext : w.text? = none) :
      Redacted s policy depth false hidden v w after
  /-- An array keeps its length. -/
  | array {depth : Nat} {hidden : σ} {v : Value} {xs ys : List Value} {states : Nat → σ}
      (hv : v.Resolves s hidden (.array xs) (states 0)) (hdepth : depth ≤ depthLimit) (hlen : ys.length = xs.length)
      (heach : ∀ i x y, xs[i]? = some x → ys[i]? = some y →
        Redacted s policy (depth + 1) false (states i) x y (states (i + 1))) :
      Redacted s policy depth false hidden v (.array ys) (states xs.length)
  /-- A record keeps its keys. -/
  | record {depth : Nat} {hidden : σ} {v : Value} {fields results : Record} {states : Nat → σ}
      (hv : v.Resolves s hidden (.record fields) (states 0)) (hdepth : depth ≤ depthLimit)
      (hkeys : results.keys = fields.keys)
      (heach : ∀ i key x y, fields.toList[i]? = some (key, x) → results.toList[i]? = some (key, y) →
        Redacted s policy (depth + 1) (policy.covers key) (states i) x y (states (i + 1))) :
      Redacted s policy depth false hidden v (.record results) (states fields.size)

/-- What became of a record between two hidden states: its keys are kept, the fields that route it are only computed,
and all others are redacted. -/
def Record.Redacted (s : Suppliers σ) (policy : Redaction.Policy σ) (hidden : σ) (r out : Record) (after : σ) : Prop :=
  ∃ states : Nat → σ, states 0 = hidden ∧ states r.size = after ∧ out.keys = r.keys ∧
    ∀ i key (x y : Value), r.toList[i]? = some (key, x) → out.toList[i]? = some (key, y) →
      if Redaction.isRouting key then x.Resolves s (states i) y (states (i + 1))
      else x.Redacted s policy 0 (policy.covers key) (states i) y (states (i + 1))

namespace Redaction.Policy

/-- Whatever the policy allows, the other one allows, too. -/
structure Within (policy policy' : Policy σ) : Prop where
  covers : policy.covers = policy'.covers
  rewrites : ∀ t u, policy.rewrites t u → policy'.rewrites t u
  gives : ∀ source hidden v after, policy.gives source hidden v after → policy'.gives source hidden v after

end Redaction.Policy

/-- What one policy allows a wider one does. -/
theorem Value.Redacted.mono {s : Suppliers σ} {policy policy' : Redaction.Policy σ} (hwithin : policy.Within policy')
    {depth : Nat} {covered : Bool} {hidden after : σ} {v u : Value}
    (h : v.Redacted s policy depth covered hidden u after) : v.Redacted s policy' depth covered hidden u after := by
  induction h with
  | given hv hgives => exact .given hv (hwithin.gives _ _ _ _ hgives)
  | masked hv hw => exact .masked hv hw
  | deep hv hw hdepth => exact .deep hv hw hdepth
  | text hv hdepth hrewrites => exact .text hv hdepth (hwithin.rewrites _ _ hrewrites)
  | scalar hv hdepth hw htext => exact .scalar hv hdepth hw htext
  | array hv hdepth hlen _ ih => exact .array hv hdepth hlen ih
  | record hv hdepth hkeys _ ih => exact .record hv hdepth hkeys (hwithin.covers ▸ ih)

/-- What one policy allows for a record a wider one does. -/
theorem Record.Redacted.mono {s : Suppliers σ} {policy policy' : Redaction.Policy σ} (hwithin : policy.Within policy')
    {hidden after : σ} {r out : Record} (h : r.Redacted s policy hidden out after) :
    r.Redacted s policy' hidden out after := by
  obtain ⟨states, hstart, hend, hkeys, heach⟩ := h
  refine ⟨states, hstart, hend, hkeys, fun i key x y hx hy => ?_⟩
  have hplace := heach i key x y hx hy
  split
  next hrouting => rwa [if_pos hrouting] at hplace
  next hrouting =>
    rw [if_neg hrouting] at hplace
    exact hwithin.covers ▸ hplace.mono hwithin

/-! ## Redaction by rules -/

namespace Redaction

variable {s : Suppliers σ} {rules : List Rule} {rest : Value → StateM σ Value} {v w u : Value} {hidden mid after : σ}

/-- A guarded value is disclosed. -/
theorem disclosing_of_guarded {source : Nat} (hv : v.Resolves s hidden (.guarded source) mid) :
    disclosing s rest v hidden = s.disclose source mid := by
  show ((disclosing s rest v).run hidden) = _
  rw [disclosing, StateT.run_bind,
    show (v.resolve s).run hidden = (.guarded source, mid) from Value.resolve_eq_iff.2 hv]
  rfl

/-- A value that is not guarded is redacted. -/
theorem disclosing_of_open (hv : v.Resolves s hidden w mid) (hw : ∀ source, w ≠ .guarded source) :
    disclosing s rest v hidden = rest w mid := by
  show ((disclosing s rest v).run hidden) = _
  rw [disclosing, StateT.run_bind, show (v.resolve s).run hidden = (w, mid) from Value.resolve_eq_iff.2 hv]
  cases w with
  | guarded source => exact absurd rfl (hw source)
  | _ => rfl

/-- An array is redacted item by item. -/
theorem redactValue_array (s : Suppliers σ) (rules : List Rule) (room : Nat) (items : List Value) (hidden : σ) :
    redactValue s rules (room + 1) (.array items) hidden
      = let visited := items.mapM (disclosing s (redactValue s rules room)) hidden
        (.array visited.1, visited.2) := rfl

/-- A record is redacted field by field. -/
theorem redactValue_record (s : Suppliers σ) (rules : List Rule) (room : Nat) (fields : Record) (hidden : σ) :
    redactValue s rules (room + 1) (.record fields) hidden
      = let visited := fields.mapM (redactField s rules (redactValue s rules room)) hidden
        (.record visited.1, visited.2) := rfl

/-- What is done with a value that is not guarded, under a covered key or not. -/
def redactOpen (s : Suppliers σ) (rules : List Rule) (room : Nat) (covered : Bool) (v : Value) : StateM σ Value :=
  if covered then pure (.text mask) else redactValue s rules room v

/-- Without a mask a value is redacted by its kind. -/
theorem redactOpen_false (s : Suppliers σ) (rules : List Rule) (room : Nat) :
    redactOpen s rules room false = redactValue s rules room := rfl

/-- It is enough to know what becomes of values that are neither guarded nor covered. -/
theorem redacted_of_disclosing {policy : Policy σ} {room depth : Nat} {covered : Bool}
    (hgives : ∀ {source hidden v after}, s.disclose source hidden = (v, after) → policy.gives source hidden v after)
    (hopen : ∀ {w mid}, v.Resolves s hidden w mid → (∀ source, w ≠ .guarded source) →
      redactValue s rules room w mid = (u, after) → v.Redacted s policy depth false hidden u after)
    (h : disclosing s (redactOpen s rules room covered) v hidden = (u, after)) :
    v.Redacted s policy depth covered hidden u after := by
  obtain ⟨w, mid, hv⟩ := v.exists_resolves s hidden
  by_cases hguarded : ∃ source, w = .guarded source
  · obtain ⟨source, rfl⟩ := hguarded
    rw [disclosing_of_guarded hv] at h
    exact .given hv (hgives h)
  · -- the value is left to the rules
    have hw : ∀ source, w ≠ .guarded source := fun source heq => hguarded ⟨source, heq⟩
    rw [disclosing_of_open hv hw] at h
    cases covered with
    | true =>
      obtain ⟨rfl, rfl⟩ := Prod.mk.inj h
      exact .masked hv hw
    | false => exact hopen hv hw h

/-- What redacting a value gives is what may stand at its place. -/
theorem redacted_of_redactValue {room depth : Nat} (hroom : room + depth = Value.depthLimit + 1)
    (hv : v.Resolves s hidden w mid) (hw : ∀ source, w ≠ .guarded source)
    (h : redactValue s rules room w mid = (u, after)) :
    v.Redacted s (.ofRules s rules) depth false hidden u after := by
  -- on the room: the values inside have less of it and lie deeper
  induction room generalizing depth v w u hidden mid after with
  | zero =>
    obtain ⟨rfl, rfl⟩ := Prod.mk.inj h
    exact .deep hv hw (by omega)
  | succ room ih =>
    -- what lies inside is disclosed first, and then it has one level less
    have hinside : ∀ {covered : Bool} {v u : Value} {hidden after : σ},
        disclosing s (redactOpen s rules room covered) v hidden = (u, after) →
          v.Redacted s (.ofRules s rules) (depth + 1) covered hidden u after := fun h =>
      redacted_of_disclosing id (fun hv hw h => ih (by omega) hv hw h) h
    cases w with
    | guarded source => exact absurd rfl (hw source)
    | deferred source => cases hv.isDeferred_eq_false
    | text t =>
      obtain ⟨rfl, rfl⟩ := Prod.mk.inj h
      exact .text hv (by omega) rfl
    | array xs =>
      obtain ⟨ys, last, hvisit⟩ : ∃ ys last, xs.mapM (disclosing s (redactValue s rules room)) mid = (ys, last) :=
        ⟨_, _, rfl⟩
      rw [redactValue_array, hvisit] at h
      obtain ⟨rfl, rfl⟩ := Prod.mk.inj h
      obtain ⟨states, rfl, rfl, hlen, heach⟩ := mapM_eq_iff.1 hvisit
      exact .array hv (by omega) hlen fun i x y hx hy => hinside (heach i x y hx hy)
    | record fields =>
      obtain ⟨results, last, hvisit⟩ :
          ∃ results last, fields.mapM (redactField s rules (redactValue s rules room)) mid = (results, last) :=
        ⟨_, _, rfl⟩
      rw [redactValue_record, hvisit] at h
      obtain ⟨rfl, rfl⟩ := Prod.mk.inj h
      obtain ⟨states, rfl, rfl, hkeys, heach⟩ := Fields.mapM_eq_iff.1 hvisit
      exact .record hv (by omega) hkeys fun i key x y hx hy => hinside (heach i key x y hx hy)
    | _ =>
      obtain ⟨rfl, rfl⟩ := Prod.mk.inj h
      exact .scalar hv (by omega) rfl rfl

/-- What became of a value is what redaction made of it. -/
theorem run_of_redacted {depth : Nat} {covered : Bool}
    (h : v.Redacted s (.ofRules s rules) depth covered hidden u after) {room : Nat}
    (hroom : room + depth = Value.depthLimit + 1) :
    disclosing s (redactOpen s rules room covered) v hidden = (u, after) := by
  -- by induction on the relation, each of whose cases is one of redacting
  induction h generalizing room with
  | given hv hgives => exact (disclosing_of_guarded hv).trans hgives
  | masked hv hw => exact disclosing_of_open hv hw
  | deep hv hw hdepth =>
    obtain rfl : room = 0 := by omega
    exact disclosing_of_open hv hw
  | text hv hdepth hrewrites =>
    obtain ⟨room, rfl⟩ : ∃ n, room = n + 1 := ⟨room - 1, by omega⟩
    rw [disclosing_of_open hv (by simp), hrewrites]
    rfl
  | @scalar _ _ _ _ w hv hdepth hw htext =>
    obtain ⟨room, rfl⟩ : ∃ n, room = n + 1 := ⟨room - 1, by omega⟩
    -- a text has a case of its own
    cases w with
    | text t => cases htext
    | array items => cases hw
    | record fields => cases hw
    | deferred source => cases hw
    | guarded source => cases hw
    | _ => rw [disclosing_of_open hv (by simp)]; rfl
  | @array _ _ _ xs ys states hv hdepth hlen _ ih =>
    obtain ⟨room, rfl⟩ : ∃ n, room = n + 1 := ⟨room - 1, by omega⟩
    have hvisit : xs.mapM (disclosing s (redactValue s rules room)) (states 0) = (ys, states xs.length) :=
      mapM_eq_iff.2 ⟨states, rfl, rfl, hlen, fun i x y hx hy => ih i x y hx hy (by omega)⟩
    rw [disclosing_of_open hv (by simp), redactOpen_false, redactValue_array, hvisit]
  | @record _ _ _ fields results states hv hdepth hkeys _ ih =>
    obtain ⟨room, rfl⟩ : ∃ n, room = n + 1 := ⟨room - 1, by omega⟩
    have hvisit : fields.mapM (redactField s rules (redactValue s rules room)) (states 0)
        = (results, states fields.size) :=
      Fields.mapM_eq_iff.2 ⟨states, rfl, rfl, hkeys, fun i key x y hx hy => ih i key x y hx hy (by omega)⟩
    rw [disclosing_of_open hv (by simp), redactOpen_false, redactValue_record, hvisit]

end Redaction

/-- Redaction by rules is what the policy of the rules says. -/
theorem Record.redact_eq_iff {s : Suppliers σ} {rules : List Redaction.Rule} {r out : Record} {hidden after : σ} :
    r.redact s rules hidden = (out, after) ↔ r.Redacted s (.ofRules s rules) hidden out after := by
  -- each field stands alone: the routing fields are resolved, all others redacted
  have hplace : ∀ {key : String} {x y : Value} {hidden after : σ},
      (if Redaction.isRouting key then x.resolve s
        else Redaction.redactField s rules (Redaction.redactValue s rules Redaction.roomAtTop) key x) hidden
          = (y, after) ↔
      if Redaction.isRouting key then x.Resolves s hidden y after
        else x.Redacted s (.ofRules s rules) 0 (Redaction.masks rules key) hidden y after := by
    intro key x y hidden after
    split
    next => exact Value.resolve_eq_iff
    next => exact ⟨fun h => Redaction.redacted_of_disclosing id (Redaction.redacted_of_redactValue rfl) h,
        fun h => Redaction.run_of_redacted h rfl⟩
  rw [redact, Fields.mapM_eq_iff]
  simp only [hplace]
  rfl

/-! ## A second pass -/

/-- The rules with other things that guarded values may give out. -/
def Redaction.Policy.ofRulesGiving (rules : List Redaction.Rule) (gives : Nat → σ → Value → σ → Prop) :
    Redaction.Policy σ where
  covers := Redaction.masks rules
  rewrites t u := u = Redaction.redactText rules t
  gives := gives

/-- Maps with the same keys have them at the same places. -/
theorem Fields.exists_of_keys_eq {α β : Type} {b : Option String} {fields : Fields α b} {results : Fields β b}
    (hkeys : results.keys = fields.keys) {i : Nat} {key : String} {x : α} (hx : fields.toList[i]? = some (key, x)) :
    ∃ y, results.toList[i]? = some (key, y) := by
  have hkey : results.keys[i]? = some key := by
    rw [hkeys, Fields.keys, List.getElem?_map, hx, Option.map_some]
  rw [Fields.keys, List.getElem?_map, Option.map_eq_some_iff] at hkey
  obtain ⟨⟨key', y⟩, hy, rfl⟩ := hkey
  exact ⟨y, hy⟩

section Again

variable {s : Suppliers σ} {rules : List Redaction.Rule} {gives : Nat → σ → Value → σ → Prop}

/-- If the rules leave redacted texts alone, a second pass leaves all alone but what guarded values gave out: its result
could have come from the first pass, had they given out something else. -/
theorem Value.Redacted.again
    (hagain : ∀ t, Redaction.redactText rules (Redaction.redactText rules t) = Redaction.redactText rules t)
    {depth : Nat} {covered : Bool} {hidden after hidden' after' : σ} {v u w : Value}
    (h : v.Redacted s (.ofRulesGiving rules gives) depth covered hidden u after) {room : Nat}
    (hroom : room + depth = depthLimit + 1)
    (hrun : Redaction.disclosing s (Redaction.redactOpen s rules room covered) u hidden' = (w, after')) :
    v.Redacted s (.ofRulesGiving rules fun source mid _ last => ∃ given, gives source mid given last) depth covered
      hidden w after := by
  -- what the first pass made of the value has been computed already, so it is taken as it is
  induction h generalizing room hidden' after' w with
  | given hv hgives => exact .given hv ⟨_, hgives⟩
  | masked hv hw =>
    rw [Redaction.disclosing_of_open (Value.Resolves.of_not_deferred rfl) (by simp)] at hrun
    obtain ⟨rfl, rfl⟩ := Prod.mk.inj hrun
    exact .masked hv hw
  -- the second pass has no room left here either
  | deep hv hw hdepth =>
    obtain rfl : room = 0 := by omega
    rw [Redaction.disclosing_of_open (Value.Resolves.of_not_deferred rfl) (by simp)] at hrun
    obtain ⟨rfl, rfl⟩ := Prod.mk.inj hrun
    exact .deep hv hw hdepth
  -- a text is rewritten twice
  | text hv hdepth hrewrites =>
    obtain ⟨room, rfl⟩ : ∃ n, room = n + 1 := ⟨room - 1, by omega⟩
    rw [Redaction.disclosing_of_open (Value.Resolves.of_not_deferred rfl) (by simp)] at hrun
    obtain ⟨rfl, rfl⟩ := Prod.mk.inj hrun
    apply Redacted.text hv hdepth
    show Redaction.redactText rules _ = Redaction.redactText rules _
    rw [hrewrites, hagain]
  | @scalar _ _ _ _ x hv hdepth hw htext =>
    obtain ⟨room, rfl⟩ : ∃ n, room = n + 1 := ⟨room - 1, by omega⟩
    have hopen : ∀ source, x ≠ .guarded source := by
      rintro source rfl
      cases hw
    rw [Redaction.disclosing_of_open (Value.Resolves.of_not_deferred (isDeferred_of_isScalar hw)) hopen] at hrun
    have hsame : Redaction.redactOpen s rules (room + 1) false x = pure x := by
      cases x with
      | text t => cases htext
      | array items => cases hw
      | record fields => cases hw
      | _ => rfl
    rw [hsame] at hrun
    obtain ⟨rfl, rfl⟩ := Prod.mk.inj hrun
    exact .scalar hv hdepth hw htext
  -- each item was redacted once, and is again with one level less
  | @array _ _ _ xs ys states hv hdepth hlen _ ih =>
    obtain ⟨room, rfl⟩ : ∃ n, room = n + 1 := ⟨room - 1, by omega⟩
    obtain ⟨zs, last, hvisit⟩ : ∃ zs last,
        ys.mapM (Redaction.disclosing s (Redaction.redactValue s rules room)) hidden' = (zs, last) := ⟨_, _, rfl⟩
    rw [Redaction.disclosing_of_open (Value.Resolves.of_not_deferred rfl) (by simp), Redaction.redactOpen_false,
      Redaction.redactValue_array, hvisit] at hrun
    obtain ⟨rfl, rfl⟩ := Prod.mk.inj hrun
    obtain ⟨states', rfl, rfl, hlen', heach⟩ := mapM_eq_iff.1 hvisit
    apply Redacted.array hv hdepth (hlen'.trans hlen)
    intro i x z hx hz
    obtain ⟨y, hy⟩ : ∃ y, ys[i]? = some y := by
      have hi := (List.getElem?_eq_some_iff.1 hz).1
      exact ⟨_, List.getElem?_eq_getElem (by omega)⟩
    exact ih i x y hx hy (by omega) (heach i y z hy hz)
  -- and so is each field
  | @record _ _ _ fields results states hv hdepth hkeys _ ih =>
    obtain ⟨room, rfl⟩ : ∃ n, room = n + 1 := ⟨room - 1, by omega⟩
    obtain ⟨seconds, last, hvisit⟩ : ∃ seconds last,
        results.mapM (Redaction.redactField s rules (Redaction.redactValue s rules room)) hidden' = (seconds, last) :=
      ⟨_, _, rfl⟩
    rw [Redaction.disclosing_of_open (Value.Resolves.of_not_deferred rfl) (by simp), Redaction.redactOpen_false,
      Redaction.redactValue_record, hvisit] at hrun
    obtain ⟨rfl, rfl⟩ := Prod.mk.inj hrun
    obtain ⟨states', rfl, rfl, hkeys', heach⟩ := Fields.mapM_eq_iff.1 hvisit
    apply Redacted.record hv hdepth (hkeys'.trans hkeys)
    intro i key x z hx hz
    obtain ⟨y, hy⟩ := Fields.exists_of_keys_eq hkeys hx
    exact ih i key x y hx hy (by omega) (heach i key y z hy hz)

/-- The same for a record; the fields that route it have been computed and stay as they are. -/
theorem Record.Redacted.again
    (hagain : ∀ t, Redaction.redactText rules (Redaction.redactText rules t) = Redaction.redactText rules t)
    {hidden after hidden' after' : σ} {r out second : Record}
    (h : r.Redacted s (.ofRulesGiving rules gives) hidden out after)
    (hrun : out.redact s rules hidden' = (second, after')) :
    r.Redacted s (.ofRulesGiving rules fun source mid _ last => ∃ given, gives source mid given last) hidden second
      after := by
  obtain ⟨states, hstart, hend, hkeys, heach⟩ := h
  obtain ⟨states', -, -, hkeys', heach'⟩ := Fields.mapM_eq_iff.1 hrun
  refine ⟨states, hstart, hend, hkeys'.trans hkeys, fun i key x z hx hz => ?_⟩
  obtain ⟨y, hy⟩ := Fields.exists_of_keys_eq hkeys hx
  have hfirst := heach i key x y hx hy
  have hsecond := heach' i key y z hy hz
  -- a field that routes is only resolved, and has been resolved already
  split
  next hrouting =>
    rw [if_pos hrouting] at hfirst hsecond
    rw [Value.resolve_of_not_deferred s hfirst.isDeferred_eq_false] at hsecond
    obtain ⟨rfl, -⟩ := Prod.mk.inj hsecond
    exact hfirst
  next hrouting =>
    rw [if_neg hrouting] at hfirst hsecond
    exact hfirst.again hagain rfl hsecond

end Again

/-- **Key redaction is exact.**  It gives what became of a record place by place, and nothing else: every record that is
reached keeps its keys, and every array its length.  The fields that route the record are only computed.  Everywhere
else a guarded value gives out what it wants, any other value under a named key is masked, names being compared in lower
case, and a text or scalar stays as it was computed.  What lies below more containers than `Value.depthLimit` is masked,
too. -/
theorem Record.redactKeys_eq_iff (s : Suppliers σ) (names : List String) (r out : Record) (hidden after : σ) :
    r.redactKeys s names hidden = (out, after) ↔
      r.Redacted s
        { covers := fun key => (names.map Text.lower).contains (Text.lower key)
          rewrites := fun t u => u = t
          gives := fun source mid v after => s.disclose source mid = (v, after) } hidden out after := by
  have hpolicy : Redaction.Policy.ofRules s [.keys (.ofList names)]
      = { covers := fun key => (names.map Text.lower).contains (Text.lower key)
          rewrites := fun t u => u = t
          gives := fun source mid v after => s.disclose source mid = (v, after) } := by
    -- one key rule covers the names it is made of
    have hcovers : Redaction.masks [.keys (.ofList names)]
        = fun key => (names.map Text.lower).contains (Text.lower key) := by
      funext key
      simp [Redaction.masks, Redaction.Keys.covers, Redaction.Keys.ofList]
    rw [Redaction.Policy.ofRules, hcovers]
    rfl
  rw [redactKeys, redact_eq_iff, hpolicy]

end Logbook
