import Logbook.Logger.Builder
import Logbook.Proofs.Chain.Layers
import Logbook.Proofs.Redaction.Places
import Logbook.Proofs.Sink.Frame

/-!
# The order of rules

A builder is asked for one thing after another (`Builder.Call`).  Patterns reach it in two ways: as rules that are
ready, and as sources that are read when the logger is built.  Each of the two keeps its order, and all of them come in
front of what is derived later.  Nothing is lost or doubled on the way, so every text that a built logger hands to its
sink went through all patterns, each once, in that order.

## Key results

- `Builder.rules_called` / `Builder.patterns_called`: what calls leave in a builder
- `Builder.patterns_perm`: the patterns of both ways together are those of the calls
- `Builder.patterns_of_inOrder`: where ready patterns come first, they come in the order of the calls
- `Builder.build_eq_ok`: what a builder that builds has read and made
- `Chain.rules_derived`: the rules of a derived chain, oldest first
- `Builder.write_built`: what a built logger makes of the texts of an entry
-/

namespace Logbook

variable {σ : Type}

/-- A step on the store leaves the hidden state as it is. -/
theorem World.update_bind {α β : Type} (f : Store → α × Store) (g : α → StateM (World σ) β) (w : World σ) :
    (update f >>= g) w = g (f w.store).1 ⟨w.hidden, (f w.store).2⟩ := rfl

namespace Builder

/-- A call on a builder. -/
inductive Call where
  | sink (s : Sink)
  | level (l : Level)
  | filter (f : Filter)
  | record (r : Record)
  | field (key : String) (v : Value)
  | rule (r : Redaction.Rule)
  | redactedKeys (keys : List String)
  /-- A pattern that is read in the end. -/
  | pattern (source : String)
  | layout (k : Layout.Kind)
  | settings (s : Settings)

namespace Call

def on (b : Builder) : Call → Builder
  | .sink s => b.withSink s
  | .level l => b.withLevel l
  | .filter f => b.withFilter f
  | .record r => b.withRecord r
  | .field key v => b.withField key v
  | .rule r => b.withRule r
  | .redactedKeys keys => b.withRedactedKeys keys
  | .pattern source => b.withPattern source
  | .layout k => b.withLayout k
  | .settings s => b.withSettings s

/-- The rule that a call adds. -/
def rule? : Call → Option Redaction.Rule
  | .rule r => some r
  | .redactedKeys keys => some (.keys (.ofList keys))
  | _ => none

/-- The pattern that a call adds ready made. -/
def ready? : Call → Option Redaction.Pattern
  | .rule (.pattern p) => some p
  | _ => none

/-- The source of the pattern that a call adds to be read. -/
def source? : Call → Option String
  | .pattern source => some source
  | _ => none

/-- The pattern that a source is read as. -/
def read? (source : String) : Option Redaction.Pattern := (Redaction.Pattern.parse source Redaction.mask).toOption

/-- The pattern that a call adds in either way. -/
def pattern? (call : Call) : Option Redaction.Pattern := call.ready?.or (call.source?.bind read?)

/-- Whether a call has a field masked. -/
def covers (key : String) (call : Call) : Bool := Redaction.masks call.rule?.toList key

/-- No call adds a pattern in both ways. -/
theorem toList_pattern? (call : Call) :
    call.pattern?.toList = call.ready?.toList ++ call.source?.toList.filterMap read? := by
  cases call with
  | pattern source => cases h : read? source <;> simp [pattern?, ready?, source?, h]
  | rule r => cases r <;> rfl
  | _ => rfl

/-- The patterns of a call that is ready are those of its rule. -/
theorem patterns_rule? (call : Call) : Redaction.patterns call.rule?.toList = call.ready?.toList := by
  cases call with
  | rule r => cases r <;> rfl
  | _ => rfl

end Call

/-- A builder after some calls, the first one first. -/
def called (name : String) (calls : List Call) : Builder := calls.foldl Call.on (named name)

/-- No pattern is added ready made behind one that is still to be read. -/
def InOrder (calls : List Call) : Prop := calls.Pairwise fun a b => a.source?.isSome → b.ready? = none

/-! ## What calls leave in a builder -/

/-- The first entry comes first, if it is kept. -/
theorem filterMap_cons_toList {α β : Type} (f : α → Option β) (a : α) (as : List α) :
    (a :: as).filterMap f = (f a).toList ++ as.filterMap f := by
  cases h : f a <;> simp [h]

/-- A call adds its rule. -/
theorem rules_on (b : Builder) (call : Call) : (call.on b).rules = b.rules ++ call.rule?.toList := by
  cases call with
  | rule r => rfl
  | redactedKeys keys => rfl
  | _ => exact (List.append_nil _).symm

/-- A call adds its source. -/
theorem patterns_on (b : Builder) (call : Call) : (call.on b).patterns = b.patterns ++ call.source?.toList := by
  cases call with
  | pattern source => rfl
  | _ => exact (List.append_nil _).symm

/-- The calls add their rules in order. -/
theorem rules_called (name : String) (calls : List Call) :
    (called name calls).rules = calls.filterMap Call.rule? := by
  have hfold : ∀ b : Builder, (calls.foldl Call.on b).rules = b.rules ++ calls.filterMap Call.rule? := by
    induction calls with
    | nil => exact fun b => (List.append_nil _).symm
    | cons call calls ih =>
      intro b
      rw [List.foldl_cons, ih, rules_on, filterMap_cons_toList, List.append_assoc]
  exact hfold (named name)

/-- The calls add their sources in order. -/
theorem patterns_called (name : String) (calls : List Call) :
    (called name calls).patterns = calls.filterMap Call.source? := by
  have hfold : ∀ b : Builder, (calls.foldl Call.on b).patterns = b.patterns ++ calls.filterMap Call.source? := by
    induction calls with
    | nil => exact fun b => (List.append_nil _).symm
    | cons call calls ih =>
      intro b
      rw [List.foldl_cons, ih, patterns_on, filterMap_cons_toList, List.append_assoc]
  exact hfold (named name)

/-! ## The patterns of calls -/

/-- The patterns of the rules are those that are ready. -/
theorem patterns_rules (calls : List Call) :
    Redaction.patterns (calls.filterMap Call.rule?) = calls.filterMap Call.ready? := by
  induction calls with
  | nil => rfl
  | cons call calls ih =>
    rw [filterMap_cons_toList, filterMap_cons_toList, Redaction.patterns_append, Call.patterns_rule?, ih]

/-- A key is masked if one of the calls covers it. -/
theorem masks_rules (calls : List Call) (key : String) :
    Redaction.masks (calls.filterMap Call.rule?) key = calls.any (Call.covers key) := by
  induction calls with
  | nil => rfl
  | cons call calls ih =>
    rw [filterMap_cons_toList, List.any_cons, ← ih, Redaction.masks, List.any_append]
    rfl

/-- The patterns of both kinds are those of the calls. -/
theorem patterns_perm (calls : List Call) :
    (calls.filterMap Call.ready? ++ (calls.filterMap Call.source?).filterMap Call.read?).Perm
      (calls.filterMap Call.pattern?) := by
  induction calls with
  | nil => rfl
  | cons call calls ih =>
    simp only [filterMap_cons_toList, Call.toList_pattern?, List.filterMap_append, List.append_assoc]
    exact ((List.perm_append_comm_assoc _ _ _).trans (ih.append_left _)).append_left _

/-- Where ready patterns come first, the order is that of the calls. -/
theorem patterns_of_inOrder {calls : List Call} (h : InOrder calls) :
    calls.filterMap Call.ready? ++ (calls.filterMap Call.source?).filterMap Call.read?
      = calls.filterMap Call.pattern? := by
  induction calls with
  | nil => rfl
  | cons call calls ih =>
    obtain ⟨hcall, hcalls⟩ := List.pairwise_cons.1 h
    rw [filterMap_cons_toList Call.pattern?, Call.toList_pattern?, ← ih hcalls]
    simp only [filterMap_cons_toList, List.filterMap_append, List.append_assoc]
    congr 1
    -- a source has no ready pattern behind it
    cases hsource : call.source? with
    | none => rfl
    | some source =>
      have hnone : calls.filterMap Call.ready? = [] :=
        List.filterMap_eq_nil_iff.2 fun later hlater => hcall later hlater (by simp [hsource])
      rw [hnone, List.nil_append, List.nil_append]

/-! ## What is built -/

/-- A builder that builds can read all its sources, and has their patterns behind its other rules. -/
theorem patternRules_eq_ok {b : Builder} {rules : List Redaction.Rule} (h : b.patternRules = .ok rules) :
    (∀ source ∈ b.patterns, (Call.read? source).isSome) ∧
      rules = (b.patterns.filterMap Call.read?).map .pattern := by
  rw [patternRules] at h
  generalize b.patterns = sources at h ⊢
  -- by induction on the sources: the first that is refused ends the build, so all are read
  induction sources generalizing rules with
  | nil =>
    cases h
    exact ⟨by simp, rfl⟩
  | cons source sources ih =>
    rw [List.mapM_cons] at h
    cases hparse : Redaction.Pattern.parse source Redaction.mask with
    | error e =>
      rw [hparse] at h
      cases h
    | ok p =>
      rw [hparse] at h
      have hread : Call.read? source = some p := by rw [Call.read?, hparse]; rfl
      cases hrest : sources.mapM fun p => (Redaction.Pattern.parse p Redaction.mask).map Redaction.Rule.pattern with
      | error e =>
        rw [hrest] at h
        cases h
      | ok others =>
        rw [hrest] at h
        cases h
        obtain ⟨hothers, rfl⟩ := ih hrest
        constructor
        · simpa [hread] using hothers
        · rw [filterMap_cons_toList, hread]
          rfl

/-- Where all sources can be read, a sink is prepared, and the logger is a root over it. -/
theorem build_of_patternRules {b : Builder} {rules : List Redaction.Rule} (h : b.patternRules = .ok rules)
    (s : Suppliers σ) (host : Host) (w : World σ) :
    b.build s host w
      = let prepared := b.prepareSink w.store
        match prepared.1 with
        | .error e => (.error e, ⟨w.hidden, prepared.2⟩)
        | .ok sink =>
          let root := Logger.root s host b.name sink b.record (b.rules ++ rules) ⟨w.hidden, prepared.2⟩
          (.ok root.1, root.2) := by
  rw [build, h]
  dsimp only
  rw [World.update_bind]
  cases (b.prepareSink w.store).1 <;> rfl

/-- A builder that builds can read all its sources, and its logger has their patterns behind the other rules. -/
theorem build_eq_ok {s : Suppliers σ} {host : Host} {b : Builder} {l : Logger} {w w' : World σ}
    (h : b.build s host w = (.ok l, w')) :
    (∀ source ∈ b.patterns, (Call.read? source).isSome) ∧
      l.chain.rules = b.rules ++ (b.patterns.filterMap Call.read?).map .pattern := by
  cases hpatterns : b.patternRules with
  | error e =>
    rw [build, hpatterns] at h
    cases h
  | ok rules =>
    rw [build_of_patternRules hpatterns] at h
    obtain ⟨hread, rfl⟩ := patternRules_eq_ok hpatterns
    refine ⟨hread, ?_⟩
    -- the store may refuse an output, and then nothing is built
    cases hsink : (b.prepareSink w.store).1 with
    | error e =>
      simp only [hsink] at h
      cases h
    | ok sink =>
      simp only [hsink] at h
      cases h
      exact List.append_nil _

end Builder

namespace Chain

/-- The rules of a derived chain are those of all layers, oldest first. -/
theorem rules_derived (s : Suppliers σ) (c : Chain) (ds : List (Derivation σ)) :
    (c.derived s ds).rules = c.rules ++ ds.flatMap (·.layer.rules) := by
  induction ds generalizing c with
  | nil => exact (List.append_nil _).symm
  | cons d ds ih =>
    have hfirst := rules_derive s c d.layer.record d.layer.rules d.hidden
    rw [derived, List.foldl_cons, ← derived, ih, hfirst, List.flatMap_cons, List.append_assoc]

end Chain

namespace Builder

/-- The pattern that the source of one letter is read as. -/
def letterB : Redaction.Pattern := ⟨"b", .char 'b', Redaction.mask⟩

/-- The letter alone is a pattern. -/
theorem read?_letterB : Call.read? "b" = some letterB := by
  have hparse : Redaction.Pattern.parse "b" Redaction.mask = .ok letterB := rfl
  rw [Call.read?, hparse]
  rfl

/-- A source that is read is built. -/
theorem patternRules_letterB {b : Builder} (h : b.patterns = ["b"]) : b.patternRules = .ok [.pattern letterB] := by
  have hparse : Redaction.Pattern.parse "b" Redaction.mask = .ok letterB := rfl
  rw [patternRules, h, List.mapM_cons, hparse]
  rfl

/-- **The order of rules.**  A builder that builds after some calls can read all the sources it was given.  Then its
patterns are settled, those added ready made and those read, each as often as it was added.  Each of the two kinds keeps
the order of the calls, and so do all of them where no pattern is added ready made behind one that is to be read.
Whatever is derived from the logger hands an entry to its sink with all fields of the chain, and there every text that
does not route the entry went through these patterns one after another, and then through those of the derivations from
the oldest on.  Only what a guarded value gives out, and the mask of a key or of what lies too deep, is no such text. -/
theorem write_built {s : Suppliers σ} {host : Host} {name : String} {calls : List Call} {l : Logger} {w w' : World σ}
    (h : (called name calls).build s host w = (.ok l, w')) :
    (∀ source ∈ calls.filterMap Call.source?, (Call.read? source).isSome) ∧
      ∃ ps : List Redaction.Pattern,
        ps.Perm (calls.filterMap Call.pattern?) ∧
        (calls.filterMap Call.ready?).Sublist ps ∧
        ((calls.filterMap Call.source?).filterMap Call.read?).Sublist ps ∧
        (InOrder calls → ps = calls.filterMap Call.pattern?) ∧
        ∀ (ds : List (Derivation σ)) (entry : Record) (world : World σ),
          let derived := l.withChain (l.chain.derived s ds)
          let later := ds.flatMap (·.layer.rules)
          ∃ emitted after,
            derived.asSink.write s entry world = l.sink.write s emitted ⟨after, world.store⟩ ∧
            (derived.chain.flatten entry).Redacted s
              { covers := fun key => calls.any (Call.covers key) || Redaction.masks later key
                rewrites := fun t u =>
                  u = (ps ++ Redaction.patterns later).foldl (fun text p => (p.redact text).1) t
                gives := fun source mid v last => s.disclose source mid = (v, last) }
              world.hidden emitted after := by
  -- a builder that builds has read its patterns, and these are its rules
  obtain ⟨hread, hrules⟩ := build_eq_ok h
  rw [patterns_called] at hread hrules
  rw [rules_called] at hrules
  refine ⟨hread, _, patterns_perm calls, List.sublist_append_left _ _, List.sublist_append_right _ _,
    patterns_of_inOrder, fun ds entry world => ?_⟩
  intro derived later
  let finished := derived.chain.finish s entry world.hidden
  refine ⟨finished.1, finished.2, Sink.write_through s entry derived.chain l.sink world, ?_⟩
  -- the rules of the calls, then the patterns that are compiled, then the rules of the layers
  have hchain : derived.chain.rules = calls.filterMap Call.rule?
      ++ ((calls.filterMap Call.source?).filterMap Call.read?).map .pattern ++ later := by
    rw [← hrules]
    exact Chain.rules_derived s l.chain ds
  have hfinished : (derived.chain.flatten entry).Redacted s (.ofRules s derived.chain.rules) world.hidden finished.1
      finished.2 := Record.redact_eq_iff.1 rfl
  rw [hchain] at hfinished
  -- the rules enter the result by the keys they mask and the texts they rewrite
  apply hfinished.mono
  constructor
  · funext key
    show Redaction.masks _ key = _
    rw [Redaction.masks, List.any_append, List.any_append, ← Redaction.masks, ← Redaction.masks, ← Redaction.masks,
      masks_rules, Redaction.masks_map, Bool.or_false]
  · intro t u htext
    rw [htext, Redaction.redactText, Redaction.patterns_append, Redaction.patterns_append, patterns_rules,
      Redaction.patterns_map]
  · exact fun _ _ _ _ => id

/-- A ready pattern, one that is read behind it, and one of a derived logger. -/
theorem write_built_three :
    let s : Suppliers Unit := ⟨fun _ => pure .null, fun _ => pure (.text "own")⟩
    let host : Host := ⟨"host", 1, 0⟩
    let first : Redaction.Pattern := ⟨"a", .char 'a', "b"⟩
    let calls : List Call := [.sink (.output 0), .rule (.pattern first), .redactedKeys ["token"], .pattern "b"]
    let entry := (Logger.entry ⟨0, 0⟩ .info "m" none).set "note" (.text "a")
    ∃ l w emitted after, (called "svc" calls).build s host ⟨(), .empty⟩ = (.ok l, w) ∧ InOrder calls ∧
      let derived := l.withChain (l.chain.derived s [⟨⟨.empty, [.pattern .email]⟩, ()⟩])
      derived.asSink.write s entry w = l.sink.write s emitted ⟨after, w.store⟩ ∧
        (derived.chain.flatten entry).Redacted s
          { covers := fun key => calls.any (Call.covers key) || Redaction.masks [.pattern .email] key
            rewrites := fun t u => u = [first, letterB, .email].foldl (fun text p => (p.redact text).1) t
            gives := fun source mid v last => s.disclose source mid = (v, last) }
          () emitted after := by
  intro s host first calls entry
  let b := called "svc" calls
  let root := Logger.root s host b.name (.output 0) b.record (b.rules ++ [.pattern letterB]) ⟨(), .empty⟩
  -- the pattern is read, so the build succeeds
  have hbuild : b.build s host ⟨(), .empty⟩ = (.ok root.1, root.2) := by
    rw [build_of_patternRules (patternRules_letterB rfl)]
    rfl
  have horder : InOrder calls := by
    rw [InOrder]
    decide
  obtain ⟨-, ps, -, -, -, hps, hwrite⟩ := write_built hbuild
  -- the calls are in order, so the pattern that is compiled stands between the other two
  have hthree : ps = [first, letterB] := by
    rw [hps horder]
    simp [calls, Call.pattern?, Call.ready?, Call.source?, read?_letterB]
  obtain ⟨emitted, after, hsame, hredacted⟩ := hwrite [⟨⟨.empty, [.pattern .email]⟩, ()⟩] entry root.2
  rw [hthree] at hredacted
  exact ⟨root.1, root.2, emitted, after, hbuild, horder, hsame, hredacted⟩

/-- A pattern that was read and behind it one that was ready: the ready one goes first, and neither gets at a masked
field or at what a guarded value gives out. -/
theorem write_built_ready_first :
    let s : Suppliers Unit := ⟨fun _ => pure .null, fun _ => pure (.text "a")⟩
    let host : Host := ⟨"host", 1, 0⟩
    let calls : List Call := [.sink (.output 0), .field "note" (.text "a"), .field "secret" (.text "a"),
      .field "token" (.guarded 1), .pattern "b", .rule (.pattern ⟨"a", .char 'a', "b"⟩), .redactedKeys ["secret"]]
    let entry := Logger.entry ⟨0, 0⟩ .info "m" none
    let inOrder := (calls.filterMap Call.pattern?).foldl (fun text p => (p.redact text).1) "a"
    ∃ l w emitted, (called "svc" calls).build s host ⟨(), .empty⟩ = (.ok l, w) ∧
      (∀ store, l.asSink.write s entry ⟨(), store⟩ = l.sink.write s emitted ⟨(), store⟩) ∧ inOrder = "b" ∧
      emitted.find? "note" = some (.text "REDACTED") ∧ emitted.find? "secret" = some (.text "REDACTED") ∧
      emitted.find? "token" = some (.text "a") := by
  intro s host calls entry inOrder
  let b := called "svc" calls
  let rules : List Redaction.Rule := b.rules ++ [.pattern letterB]
  let root := Logger.root s host b.name (.output 0) b.record rules ⟨(), .empty⟩
  let r := root.1.chain.flatten entry
  -- neither the identity nor the entry has one of the fields
  have hfield : ∀ key v, b.record.find? key = some v → key ∉ [Record.nameKey, Record.hostKey, Record.processKey,
      Record.threadKey] → key ∉ [Record.timeKey, Record.levelKey, Record.messageKey] → r.find? key = some v := by
    intro key v hv hidentity hentry
    have hnone : (host.identity b.name).find? key = none := by
      rw [Host.identity, Record.ofEntries, Record.find?_setAll_of_forall_ne]
      · rfl
      · simpa using hidentity
    have hmissing : entry.find? key = none := by
      simp at hentry
      simp [entry, Logger.entry, Record.find?_set, Record.empty, hentry]
    show (root.1.chain.flatten entry).find? key = _
    rw [Chain.find?_flatten root.1.chain hnone, hmissing, Option.none_or]
    show ((host.identity b.name).find? key).or ([b.record].findSome? fun r => r.find? key) = _
    rw [hnone, List.findSome?_cons, hv, Option.none_or]
  have hmasks : Redaction.masks rules "note" = false ∧ Redaction.masks rules "secret" = true := by decide
  have htext : Redaction.redactText rules "a" = "REDACTED" := by
    have hready : (⟨"a", .char 'a', "b"⟩ : Redaction.Pattern).redact "a" = ("b", true) := rfl
    have hread : letterB.redact "b" = ("REDACTED", true) := rfl
    have hrules : Redaction.patterns rules = [⟨"a", .char 'a', "b"⟩, letterB] := rfl
    rw [Redaction.redactText, hrules, List.foldl_cons, List.foldl_cons, List.foldl_nil, hready, hread]
  let finished := root.1.chain.finish s entry ()
  have hunit : ∀ (finished : Record × Unit) (store : Store),
      Sink.write s finished.1 (.output 0) ⟨finished.2, store⟩ = Sink.write s finished.1 (.output 0) ⟨(), store⟩ :=
    fun _ _ => rfl
  refine ⟨root.1, root.2, finished.1, ?_, fun store => ?_, ?_, ?_, ?_, ?_⟩
  · rw [build_of_patternRules (patternRules_letterB rfl)]
    rfl
  · exact (Sink.write_through s entry root.1.chain (.output 0) ⟨(), store⟩).trans (hunit finished store)
  · have hps : calls.filterMap Call.pattern? = [letterB, ⟨"a", .char 'a', "b"⟩] := by
      simp [calls, Call.pattern?, Call.ready?, Call.source?, read?_letterB]
    show (calls.filterMap Call.pattern?).foldl _ _ = _
    rw [hps]
    rfl
  · -- no rule masks it, so the patterns run over it
    have hr : r.find? "note" = some (.text "a") := hfield _ _ rfl (by decide) (by decide)
    refine (Record.find?_redact_scalar rules (by decide) hr rfl ()).trans ?_
    rw [Redaction.redactScalar, hmasks.1, if_neg Bool.false_ne_true]
    simp only [htext]
  · -- its key is masked
    have hr : r.find? "secret" = some (.text "a") := hfield _ _ rfl (by decide) (by decide)
    refine (Record.find?_redact_scalar rules (by decide) hr rfl ()).trans ?_
    rw [Redaction.redactScalar, hmasks.2, if_pos rfl]
    rfl
  · -- a value that redacts itself is disclosed and not redacted again
    have hr : r.find? "token" = some (.guarded 1) := hfield _ _ rfl (by decide) (by decide)
    exact Record.find?_redact_disclosed rules (by decide) hr (fun _ => ⟨1, rfl, fun _ => rfl⟩) ()

end Builder

end Logbook
