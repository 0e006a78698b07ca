import Logbook.Chain
import Logbook.Proofs.Value.Asking

/-!
# What finishing a record asks for

Redaction computes every deferred value that it comes across and leaves what guarded values give out as it is.  So a
field asks for each occurrence in it at most once, for its own first of all, and what is still deferred afterwards was
given out by a guarded value (`Finished`).  The fields that route the record are only computed, so what they hold
inside stays deferred.

## Key results

- `Redaction.runs_disclosing` / `Redaction.runs_redactValue`: a value at any depth
- `Record.runs_redact`: the fields of a record, one after another
-/

namespace Logbook

variable {σ : Type} {log : σ → List Event} {s : Suppliers σ}

/-- The source occurs in something that a guarded value gave out. -/
def GivenOut (events : List Event) (source : Nat) : Prop :=
  ∃ guard given, .disclosed guard given ∈ events ∧ source ∈ given.pending

/-- What is given out stays so with more events. -/
theorem GivenOut.mono {events events' : List Event} {source : Nat} (h : GivenOut events source)
    (hsub : events ⊆ events') : GivenOut events' source := by
  obtain ⟨guard, given, hgiven, hin⟩ := h
  exact ⟨guard, given, hsub hgiven, hin⟩

/-- A value was finished: each occurrence in it was asked for at most once, its own first of all, and what is deferred
in the result was given out by a guarded value. -/
structure Finished (v u : Value) (events : List Event) : Prop where
  affords : Affords false v.pending events
  first : ∀ source, v = .deferred source → ∃ given rest, events = .computed source given :: rest
  left : ∀ source ∈ u.pending, GivenOut events source

namespace Finished

/-- Nothing was asked for, and nothing is deferred. -/
theorem of_plain {v u : Value} (hv : v.isDeferred = false) (hu : u.pending = 0) : Finished v u [] := by
  refine ⟨trivial, ?_, ?_⟩
  · rintro source rfl
    cases hv
  · rw [hu]
    nofun

/-- An array is finished if its items are. -/
theorem array {items results : List Value} {events : List Event} (h : Visits Finished items results events) :
    Finished (.array items) (.array results) events := by
  refine ⟨.ofItems h fun _ _ _ hvisit => hvisit.affords, nofun, ?_⟩
  show ∀ source ∈ Value.pendingOfItems results, _
  -- by induction on the visit, item by item
  induction h with
  | nil => nofun
  | cons head tail ih =>
    intro source hsource
    rcases Multiset.mem_add.1 hsource with hsource | hsource
    · exact (head.left source hsource).mono (List.subset_append_left _ _)
    · exact (ih source hsource).mono (List.subset_append_right _ _)

/-- A record is finished if its fields are. -/
theorem record {fields results : Fields Value none} {events : List Event}
    (h : VisitsFields (fun _ => Finished) fields results events) :
    Finished (.record fields) (.record results) events := by
  refine ⟨.ofFields h fun _ _ _ _ hvisit => hvisit.affords, nofun, fun source hsource => ?_⟩
  obtain ⟨key, u, hu, hin⟩ := Value.mem_pendingOfFields.1 hsource
  obtain ⟨v, visit, -, hvisit, hsub⟩ := h.exists_visit hu
  exact (hvisit.left source hin).mono hsub

end Finished

namespace Redaction

/-- A value is computed, and then either gives out something or is finished by what follows. -/
theorem runs_disclosing (hlog : s.KeepsLog log) {rest : Value → StateM σ Value}
    (hrest : ∀ v, v.isDeferred = false → Runs log (rest v) (Finished v)) (v : Value) :
    Runs log (disclosing s rest v) (Finished v) := by
  refine (Value.runs_resolve hlog v).bind fun u events hu => ?_
  -- the source of a deferred value is the first that is asked
  have hfirst : ∀ more source, v = .deferred source →
      ∃ given after, events ++ more = .computed source given :: after := by
    intro more source hv
    obtain ⟨given, after, rfl⟩ := hu.first source hv
    exact ⟨given, after ++ more, rfl⟩
  split
  -- a guarded value is given out, and what comes is left alone
  next guard =>
    refine (Runs.disclose hlog guard).mono ?_
    rintro given _ rfl
    exact ⟨hu.affords trivial, hfirst _, fun source hin =>
      ⟨guard, given, List.mem_append_right _ (List.mem_singleton.2 rfl), hin⟩⟩
  next =>
    exact (hrest u hu.plain).mono fun w more hw => ⟨hu.affords hw.affords, hfirst _, fun source hin =>
      (hw.left source hin).mono (List.subset_append_right _ _)⟩

/-- Redacting a field asks once. -/
theorem runs_redactField (hlog : s.KeepsLog log) (rules : List Rule) {rest : Value → StateM σ Value}
    (hrest : ∀ v, v.isDeferred = false → Runs log (rest v) (Finished v)) (key : String) (v : Value) :
    Runs log (redactField s rules rest key v) (Finished v) := by
  refine runs_disclosing hlog (fun u hu => ?_) v
  split
  · exact .pure (.of_plain hu rfl)
  · exact hrest u hu

/-- Redacting a value that does not have to be computed asks once for all that is in it. -/
theorem runs_redactValue (hlog : s.KeepsLog log) (rules : List Rule) (room : Nat) :
    ∀ v : Value, v.isDeferred = false → Runs log (redactValue s rules room v) (Finished v) := by
  -- by induction on the levels left: what is nested is redacted with one level less
  induction room with
  | zero => exact fun v hv => .pure (.of_plain hv rfl)
  | succ room ih =>
    intro v hv
    cases v with
    | array items =>
      refine (Runs.mapM fun v _ => runs_disclosing hlog ih v).bind fun results events h => .pure ?_
      rw [List.append_nil]
      exact .array h
    | record fields =>
      refine (Runs.mapFields fun key v _ => runs_redactField hlog rules ih key v).bind fun results events h => .pure ?_
      rw [List.append_nil]
      exact .record h
    | deferred source => cases hv
    | _ => exact .pure (.of_plain hv rfl)

end Redaction

/-- A field was finished; one that routes the record was only computed. -/
def FinishedField (key : String) (v u : Value) (events : List Event) : Prop :=
  if Redaction.isRouting key then Value.Computed v u events else Finished v u events

/-- The fields of a record are finished one after another. -/
theorem Record.runs_redact (hlog : s.KeepsLog log) (rules : List Redaction.Rule) (r : Record) :
    Runs log (r.redact s rules) (VisitsFields FinishedField r) := by
  refine Runs.mapFields fun key v _ => ?_
  unfold FinishedField
  split
  · exact Value.runs_resolve hlog v
  · exact Redaction.runs_redactField hlog rules (Redaction.runs_redactValue hlog rules _) key v

end Logbook
