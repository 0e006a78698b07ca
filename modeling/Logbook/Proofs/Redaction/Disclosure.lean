import Logbook.Proofs.Redaction.Secrecy
import Logbook.Proofs.Sink.Routing

/-!
# What guarded values give out

A guarded value gives out something in its own place, and the rules of the chain that finishes the record leave that
alone.  It is an ordinary value from then on.  So when the sink of a logger is another logger, the rules of the loggers
further on do see it: they may mask it by its key, and a text goes through their patterns.  What arrives at the end of
a row of loggers is what the value gave out, as the later loggers have it (`Redaction.redactScalar`).

## Key results

- `Record.find?_redact_disclosed`: the rules of a chain do not touch what a guarded value gives out
- `Record.find?_redact_scalar`: what they make of an ordinary text or scalar
- `Sink.find?_finished_disclosed`: what becomes of it in a row of loggers
- `Sink.find?_finished_masked`: a logger further on masks it
-/

namespace Logbook

variable {σ : Type}

namespace Value

/-- A text, or a value that has no parts and needs no computing. -/
def isScalar : Value → Bool
  | array _ => false
  | record _ => false
  | deferred _ => false
  | guarded _ => false
  | _ => true

/-- The value computes to a guarded one that gives out `v`, in any hidden state. -/
def Discloses (s : Suppliers σ) (w v : Value) : Prop :=
  ∀ hidden, ∃ source, (w.resolve s hidden).1 = guarded source ∧ ∀ hidden', (s.disclose source hidden').1 = v

/-- A scalar does not have to be computed. -/
theorem isDeferred_of_isScalar {v : Value} (h : v.isScalar = true) : v.isDeferred = false := by
  cases v with
  | deferred source => cases h
  | _ => rfl

end Value

namespace Redaction

variable {s : Suppliers σ}

/-- What rules make of a text or scalar under a key. -/
def redactScalar (rules : List Rule) (key : String) (v : Value) : Value :=
  if masks rules key then .text mask
  else
    match v with
    | .text t => .text (redactText rules t)
    | v => v

/-- What a scalar is redacted to is a scalar. -/
theorem isScalar_redactScalar (rules : List Rule) (key : String) {v : Value} (h : v.isScalar = true) :
    (redactScalar rules key v).isScalar = true := by
  unfold redactScalar
  split
  · rfl
  · split
    · rfl
    · exact h

/-- What a guarded value gives out takes its place, whatever would be done with other values. -/
theorem disclosing_of_discloses {w v : Value} (h : w.Discloses s v) (rest : Value → StateM σ Value) (hidden : σ) :
    (disclosing s rest w hidden).1 = v := by
  obtain ⟨source, hresolve, hdisclose⟩ := h hidden
  obtain ⟨hidden', hcomputed⟩ : ∃ hidden', (w.resolve s).run hidden = (.guarded source, hidden') :=
    ⟨(w.resolve s hidden).2, Prod.ext hresolve rfl⟩
  show ((disclosing s rest w).run hidden).1 = v
  rw [disclosing, StateT.run_bind, hcomputed]
  exact hdisclose hidden'

/-- A text or scalar goes through the rules. -/
theorem redactField_scalar (rules : List Rule) (room : Nat) (key : String) {v : Value} (h : v.isScalar = true) :
    redactField s rules (redactValue s rules (room + 1)) key v = pure (redactScalar rules key v) := by
  have hresolve : v.resolve s = pure v := Value.resolve_of_not_deferred s (Value.isDeferred_of_isScalar h)
  have hguarded : ∀ source, v ≠ .guarded source := by
    rintro source rfl
    cases h
  rw [redactField, disclosing_of_resolve _ hresolve hguarded]
  unfold redactScalar
  -- a covered key masks the value, and a text is changed by the patterns
  split
  · rfl
  · cases v with
    | array items => cases h
    | record fields => cases h
    | deferred source => cases h
    | guarded source => cases h
    | _ => rfl

end Redaction

namespace Record

variable {s : Suppliers σ} {r : Record} {key : String} {v : Value}

/-- The rules do not touch what a guarded value gives out. -/
theorem find?_redact_disclosed (rules : List Redaction.Rule) (hkey : Redaction.isRouting key = false) {w : Value}
    (hr : r.find? key = some w) (hw : w.Discloses s v) (hidden : σ) :
    (r.redact s rules hidden).1.find? key = some v := by
  have hvisit : (r.redact s rules hidden).1.find? key = (r.find? key).map fun _ => v := by
    refine Fields.find?_mapM (fun u hu hidden => ?_) hidden
    obtain rfl : w = u := Option.some_inj.1 (hr.symm.trans hu)
    rw [hkey, if_neg Bool.false_ne_true]
    exact Redaction.disclosing_of_discloses hw _ hidden
  rw [hvisit, hr, Option.map_some]

/-- What the rules make of a text or scalar. -/
theorem find?_redact_scalar (rules : List Redaction.Rule) (hkey : Redaction.isRouting key = false)
    (hr : r.find? key = some v) (hv : v.isScalar = true) (hidden : σ) :
    (r.redact s rules hidden).1.find? key = some (Redaction.redactScalar rules key v) := by
  have hvisit : (r.redact s rules hidden).1.find? key = (r.find? key).map (Redaction.redactScalar rules key) := by
    refine Fields.find?_mapM (fun u hu hidden => ?_) hidden
    obtain rfl : v = u := Option.some_inj.1 (hr.symm.trans hu)
    rw [hkey, if_neg Bool.false_ne_true, Redaction.roomAtTop, Redaction.redactField_scalar rules _ key hv]
    rfl
  rw [hvisit, hr, Option.map_some]

end Record

namespace Chain

variable {s : Suppliers σ} {key : String} {v : Value}

/-- The first chain finishes the record before the others. -/
theorem finishAll_cons (s : Suppliers σ) (c : Chain) (chains : List Chain) (r : Record) (hidden : σ) :
    finishAll s (c :: chains) r hidden
      = let finished := c.finish s r hidden
        finishAll s chains finished.1 finished.2 := rfl

/-- Finishing with one row of chains and then with another. -/
theorem finishAll_append (s : Suppliers σ) (before after : List Chain) (r : Record) (hidden : σ) :
    finishAll s (before ++ after) r hidden
      = let entered := finishAll s before r hidden
        finishAll s after entered.1 entered.2 := by
  induction before generalizing r hidden with
  | nil => rfl
  | cons c before ih =>
    rw [List.cons_append, finishAll_cons, finishAll_cons]
    exact ih _ _

/-- What a row of chains makes of a text or scalar that none of them replaces. -/
theorem find?_finishAll_scalar (hkey : Redaction.isRouting key = false) {chains : List Chain}
    (hidentity : ∀ c ∈ chains, c.identity.find? key = none) {r : Record} (hr : r.find? key = some v)
    (hv : v.isScalar = true) (hidden : σ) :
    (finishAll s chains r hidden).1.find? key
      = some (chains.foldl (fun v c => Redaction.redactScalar c.rules key v) v) := by
  induction chains generalizing r v hidden with
  | nil => exact hr
  | cons c chains ih =>
    -- the chain keeps the field, redacts it, and hands it on to the others
    have hflat : (c.flatten r).find? key = some v := by
      rw [find?_flatten c (hidentity c List.mem_cons_self), hr, Option.some_or]
    have hfirst : (c.finish s r hidden).1.find? key = some (Redaction.redactScalar c.rules key v) :=
      Record.find?_redact_scalar c.rules hkey hflat hv hidden
    rw [finishAll_cons]
    exact ih (fun d hd => hidentity d (List.mem_cons_of_mem c hd)) hfirst
      (Redaction.isScalar_redactScalar c.rules key hv) _

end Chain

namespace Sink

variable {s : Suppliers σ}

/-- **What a guarded value gives out in a row of loggers.**  Let a field that routes nothing be won by a guarded value:
it is the value of the key when the chain `c` has merged its fields into the record, and no identity further on replaces
it.  Then the terminal of the sink gets what the value gives out, untouched by the rules of `c` and of the loggers
before, but as the rules of the loggers behind `c` have it.  It arrives unaltered if these leave it alone. -/
theorem find?_finished_disclosed {key : String} (hkey : Redaction.isRouting key = false) {w v : Value}
    (hw : w.Discloses s v) (hv : v.isScalar = true) {sink : Sink} {before after : List Chain} {c : Chain}
    (hchains : sink.chains = before ++ c :: after) {r : Record} {world : World σ}
    (hwins : (c.flatten (Chain.finishAll s before r world.hidden).1).find? key = some w)
    (hlater : ∀ d ∈ after, d.identity.find? key = none) :
    let finished := Chain.finishAll s sink.chains r world.hidden
    write s r sink world = write s finished.1 sink.terminal ⟨finished.2, world.store⟩ ∧
      finished.1.find? key = some (after.foldl (fun v d => Redaction.redactScalar d.rules key v) v) ∧
      ((∀ d ∈ after, Redaction.redactScalar d.rules key v = v) → finished.1.find? key = some v) := by
  intro finished
  have harrives : finished.1.find? key
      = some (after.foldl (fun v d => Redaction.redactScalar d.rules key v) v) := by
    let entered := Chain.finishAll s before r world.hidden
    have hgiven : (c.finish s entered.1 entered.2).1.find? key = some v :=
      Record.find?_redact_disclosed c.rules hkey hwins hw entered.2
    show (Chain.finishAll s sink.chains r world.hidden).1.find? key = _
    rw [hchains, Chain.finishAll_append, Chain.finishAll_cons]
    exact Chain.find?_finishAll_scalar hkey hlater hgiven hv _
  -- the chains behind leave the value if each of them does
  refine ⟨write_terminal s sink r world, harrives, fun hleft => ?_⟩
  rw [harrives]
  have hfold : ∀ ds : List Chain, (∀ d ∈ ds, Redaction.redactScalar d.rules key v = v) →
      ds.foldl (fun v d => Redaction.redactScalar d.rules key v) v = v := by
    intro ds hds
    induction ds with
    | nil => rfl
    | cons d ds ih =>
      rw [List.foldl_cons, hds d List.mem_cons_self]
      exact ih fun e he => hds e (List.mem_cons_of_mem d he)
  rw [hfold after hleft]

/-- A deferred token that computes to a guarded one passes a logger before it and the rules of its own logger, which
name its key; the logger behind has a pattern and a key rule for other things. -/
theorem find?_finished_disclosed_token :
    let s : Suppliers Nat := ⟨fun _ n => (.guarded 1, n + 1), fun _ => pure (.text "***")⟩
    let node (record : Record) (rules : List Redaction.Rule) : Node := ⟨record, rules, Target.main, Target.main⟩
    let chain (record : Record) (rules : List Redaction.Rule) : Chain := ⟨"svc", .empty, node record rules, []⟩
    let first := chain .empty [.keys (.ofList ["token"])]
    let second := chain (Record.empty.set "token" (.deferred 0)) [.keys (.ofList ["token"])]
    let third := chain .empty [.keys (.ofList ["password"])]
    let sink : Sink := .through first (.through second (.through third (.output 0)))
    let finished := Chain.finishAll s sink.chains (Record.empty.set "msg" (.text "hi")) 0
    Value.Discloses s (.deferred 0) (.text "***") ∧ finished.1.find? "token" = some (.text "***") := by
  intro s node chain first second third sink finished
  have hdiscloses : Value.Discloses s (.deferred 0) (.text "***") := fun hidden => ⟨1, rfl, fun _ => rfl⟩
  have hchains : sink.chains = [first] ++ second :: [third] := rfl
  -- the logger before has no token of its own, whatever it does with the message
  have hmissing : (first.flatten (Record.empty.set "msg" (.text "hi"))).find? "token" = none := rfl
  have hnone : (Chain.finishAll s [first] (Record.empty.set "msg" (.text "hi")) 0).1.find? "token" = none := by
    refine (Fields.find?_mapM (u := id) (fun v hv => ?_) 0).trans (by rw [hmissing, Option.map_none])
    rw [hmissing] at hv
    cases hv
  let world : World Nat := ⟨0, .empty⟩
  have hwins : (second.flatten (Chain.finishAll s [first] (Record.empty.set "msg" (.text "hi"))
      world.hidden).1).find? "token" = some (.deferred 0) := by
    rw [Chain.find?_flatten second rfl, hnone]
    rfl
  have hlater : ∀ d ∈ [third], d.identity.find? "token" = none := by
    intro d hd
    rw [List.mem_singleton.1 hd]
    rfl
  obtain ⟨-, -, harrives⟩ := find?_finished_disclosed (by decide) hdiscloses rfl hchains hwins hlater
  refine ⟨hdiscloses, harrives fun d hd => ?_⟩
  have hopen : Redaction.masks third.rules "token" = false := by decide
  rw [List.mem_singleton.1 hd, Redaction.redactScalar, hopen, if_neg Bool.false_ne_true]
  rfl

/-- What a guarded value gave out is masked when the next logger has a key rule for it. -/
theorem find?_finished_masked :
    let s : Suppliers Unit := ⟨fun _ => pure .null, fun _ => pure (.text "tok-1")⟩
    let h : Host := ⟨"host", 1, 0⟩
    let inner := (Chain.root s h "inner" .empty [.keys (.ofList ["token"])] ()).1
    let outer := (Chain.root s h "outer" (Record.empty.set "token" (.guarded 1)) [] ()).1
    let sink : Sink := .through outer (.through inner (.output 0))
    let entry := Logger.entry ⟨0, 0⟩ .info "m" none
    (outer.flatten entry).find? "token" = some (.guarded 1) ∧
      Value.Discloses s (.guarded 1) (.text "tok-1") ∧
      (Chain.finishAll s sink.chains entry ()).1.find? "token" ≠ some (.text "tok-1") := by
  intro s h inner outer sink entry
  -- the key is not one of an identity
  have hidentity : ∀ c ∈ [outer, inner], c.identity.find? "token" = none := by
    have hnone : ∀ name, (h.identity name).find? "token" = none := fun name => by
      rw [Host.identity, Record.ofEntries, Record.find?_setAll_of_forall_ne]
      · rfl
      · simp [Record.nameKey, Record.hostKey, Record.processKey, Record.threadKey]
    intro c hc
    rcases List.mem_pair.1 hc with rfl | rfl
    · exact hnone "outer"
    · exact hnone "inner"
  -- the field is found behind the identity and the entry, which do not have it
  have hheld : (outer.flatten entry).find? "token" = some (.guarded 1) := by
    have hentry : entry.find? "token" = none := by
      simp [entry, Logger.entry, Record.find?_set, Record.empty, Record.timeKey, Record.levelKey, Record.messageKey]
    rw [Chain.find?_flatten outer (hidentity outer (by simp)), hentry, Chain.field?, hidentity outer (by simp)]
    rfl
  -- the outer chain discloses the value, and its rules leave it
  have hdiscloses : Value.Discloses s (.guarded 1) (.text "tok-1") := fun _ => ⟨1, rfl, fun _ => rfl⟩
  have hgiven : (outer.finish s entry ()).1.find? "token" = some (.text "tok-1") :=
    Record.find?_redact_disclosed outer.rules (by decide) hheld hdiscloses ()
  let given := outer.finish s entry ()
  -- the inner chain has a rule for the key, which masks what was given
  have harrives : (Chain.finishAll s [inner] given.1 given.2).1.find? "token"
      = some (Redaction.redactScalar inner.rules "token" (.text "tok-1")) :=
    Chain.find?_finishAll_scalar (by decide) (fun c hc => hidentity c (List.mem_cons_of_mem outer hc)) hgiven rfl _
  have hmasks : Redaction.masks inner.rules "token" = true := by decide
  refine ⟨hheld, hdiscloses, ?_⟩
  have hchains : sink.chains = [outer, inner] := rfl
  rw [hchains, Chain.finishAll_cons, harrives, Redaction.redactScalar, hmasks, if_pos rfl]
  simp [Redaction.mask]

end Sink

end Logbook
