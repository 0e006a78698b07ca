import Logbook.Proofs.Level
import Logbook.Proofs.Sink.FanOut

/-!
# What a sink asks for

A sink can be asked in two ways what it does with entries: whether it accepts a level, and for the level of its
filter.  A fan answers the first by asking all of its outputs, and the second by the lowest of their levels.  For a
single output the two answers are the same.  For several they are the same unless the lowest level is not the one
that lets most entries through: next to a silent output the whole fan looks silent, and one that lets everything
through counts for nothing next to one that asks for more than `trace`.

## Key results

- `Sink.accepts_eq_any_asked`: a sink accepts what gets through one of its outputs' filters
- `Sink.isLowest_filterLevel`: its level is the lowest of theirs
- `Sink.accepts_eq_passes_filterLevel_iff`: when the level tells what the sink accepts
- `Sink.filterLevel_of_silent_branch`: a fan with a silent output, whose level does not tell
-/

namespace Logbook.Sink

/-! ## Sinks over outputs -/

mutual

/-- Every way through the sink ends in an output: no fan is without branches, and none of them leads nowhere. -/
def Grounded (st : Store) : Sink → Prop
  | output id => (st.output? id).isSome
  | nowhere => False
  | fan branches => branches ≠ [] ∧ AllGrounded st branches
  | through _ next => Grounded st next

def AllGrounded (st : Store) : List Sink → Prop
  | [] => True
  | b :: rest => Grounded st b ∧ AllGrounded st rest

end

/-- The levels that the outputs ask of a topic and a scope, from left to right. -/
def asked (st : Store) (topic scope : String) (sink : Sink) : List Level :=
  sink.outputs.map fun id => (output id).filterLevel st topic scope

/-- A fan asks the levels of its branches in order. -/
theorem asked_fan_cons (st : Store) (topic scope : String) (b : Sink) (rest : List Sink) :
    (fan (b :: rest)).asked st topic scope = b.asked st topic scope ++ (fan rest).asked st topic scope := by
  rw [asked, outputs, outputsOf, List.map_append]
  rfl

variable {st : Store}

mutual

/-- A grounded sink has outputs in the store. -/
theorem Grounded.isSome_of_mem {id : Nat} : {sink : Sink} → sink.Grounded st → id ∈ sink.outputs →
    (st.output? id).isSome
  | output _, h, hid => by
    rw [outputs, List.mem_singleton] at hid
    rw [hid]
    exact h
  | nowhere, h, _ => h.elim
  | fan _, h, hid => AllGrounded.isSome_of_mem h.2 hid
  | through _ next, h, hid => @Grounded.isSome_of_mem id next h hid

/-- Grounded branches have outputs in the store. -/
theorem AllGrounded.isSome_of_mem {id : Nat} : {branches : List Sink} → AllGrounded st branches →
    id ∈ outputsOf branches → (st.output? id).isSome
  | [], _, hid => by cases hid
  | _ :: _, h, hid => by
    rw [outputsOf, List.mem_append] at hid
    exact hid.elim (Grounded.isSome_of_mem h.1) (AllGrounded.isSome_of_mem h.2)

end

/-! ## The two answers -/

/-- An output accepts what gets through its filter. -/
theorem accepts_output {id : Nat} (h : (st.output? id).isSome) (entry : Level) (topic scope : String) :
    (output id).accepts st entry topic scope = entry.passes ((output id).filterLevel st topic scope) := by
  obtain ⟨o, ho⟩ := Option.isSome_iff_exists.1 h
  rw [accepts, filterLevel, ho]
  rfl

/-- A sink accepts what gets through the filter of one of its outputs. -/
theorem accepts_eq_any_asked {sink : Sink} (h : sink.Grounded st) (entry : Level) (topic scope : String) :
    sink.accepts st entry topic scope = (sink.asked st topic scope).any (entry.passes ·) := by
  rw [accepts_eq_any st ⟨entry, topic, scope⟩, asked, List.any_map, Bool.eq_iff_iff, List.any_eq_true,
    List.any_eq_true]
  refine exists_congr fun id => and_congr_right fun hid => ?_
  rw [Function.comp_apply, ← accepts_output (h.isSome_of_mem hid)]
  rfl

/-- The level is one of some levels, and none of them is below it. -/
structure IsLowest (level : Level) (levels : List Level) : Prop where
  mem : level ∈ levels
  le : ∀ l ∈ levels, level ≤ l

/-- The lowest of some levels is one of them, and none is lower. -/
theorem isLowest_lowest {levels : List Level} (h : levels ≠ []) : IsLowest (lowest levels) levels := by
  cases levels with
  | nil => exact absurd rfl h
  | cons l rest =>
    have hmin : (l :: rest).min? = some (lowest (l :: rest)) := rfl
    rw [List.min?_eq_some_iff] at hmin
    exact ⟨hmin.1, hmin.2⟩

mutual

/-- The level of a sink is the lowest that one of its outputs asks. -/
theorem isLowest_filterLevel (topic scope : String) : {sink : Sink} → sink.Grounded st →
    IsLowest (sink.filterLevel st topic scope) (sink.asked st topic scope)
  | output _, _ => ⟨List.mem_singleton_self _, fun l hl => (List.mem_singleton.1 hl).ge⟩
  | nowhere, h => h.elim
  | through _ next, h => @isLowest_filterLevel topic scope next h
  | fan [], h => absurd rfl h.1
  | fan (b :: rest), h => by
    -- the lowest of the branches' levels, each of which is the lowest of some outputs'
    have hne : filterLevels st topic scope (b :: rest) ≠ [] := by simp [filterLevels]
    have hlowest := isLowest_lowest hne
    obtain ⟨hmem, hle⟩ := filterLevels_asked topic scope h.2
    refine ⟨hmem _ hlowest.mem, fun l hl => ?_⟩
    obtain ⟨m, hm, hml⟩ := hle l hl
    exact le_trans (hlowest.le m hm) hml

/-- The levels of branches are levels of their outputs, and below each of these is one of them. -/
theorem filterLevels_asked (topic scope : String) : {branches : List Sink} → AllGrounded st branches →
    (∀ m ∈ filterLevels st topic scope branches, m ∈ (fan branches).asked st topic scope) ∧
      ∀ l ∈ (fan branches).asked st topic scope, ∃ m ∈ filterLevels st topic scope branches, m ≤ l
  | [], _ => ⟨nofun, nofun⟩
  | b :: rest, h => by
    have hfirst := isLowest_filterLevel topic scope h.1
    obtain ⟨hmem, hle⟩ := filterLevels_asked topic scope h.2
    rw [filterLevels, asked_fan_cons]
    -- the level of the first branch is the lowest it asks, and those of the others are by induction
    refine ⟨fun m hm => ?_, fun l hl => ?_⟩
    · rcases List.mem_cons.1 hm with rfl | hm
      · exact List.mem_append_left _ hfirst.mem
      · exact List.mem_append_right _ (hmem m hm)
    · rcases List.mem_append.1 hl with hl | hl
      · exact ⟨_, List.mem_cons_self, hfirst.le l hl⟩
      · obtain ⟨m, hm, hml⟩ := hle l hl
        exact ⟨m, List.mem_cons_of_mem _ hm, hml⟩

end

/-- **What a sink asks for.**  A sink accepts the entries that get through the filter of one of its outputs, and its
level is the lowest of their levels.  The level tells for entries of every level whether they are accepted exactly
if no output is silent next to one that is not, and if an output lets everything through, then the lowest level
does so too. -/
theorem accepts_eq_passes_filterLevel_iff {sink : Sink} (h : sink.Grounded st) (topic scope : String) :
    let asked := sink.asked st topic scope
    let level := sink.filterLevel st topic scope
    (∀ entry, sink.accepts st entry topic scope = asked.any (entry.passes ·)) ∧
      (level ∈ asked ∧ ∀ l ∈ asked, level ≤ l) ∧
      ((∀ entry, sink.accepts st entry topic scope = entry.passes level) ↔
        (.never ∈ asked → ∀ l ∈ asked, l = .never) ∧
          (.always ∈ asked → level ≤ .trace ∨ ∀ l ∈ asked, l = .always)) := by
  intro asked level
  -- which entries are accepted is said by the levels that are asked
  have haccepts : ∀ entry, sink.accepts st entry topic scope = asked.any (entry.passes ·) :=
    fun entry => accepts_eq_any_asked h entry topic scope
  have hlowest := isLowest_filterLevel topic scope h
  refine ⟨haccepts, ⟨hlowest.mem, hlowest.le⟩, ?_⟩
  simp only [haccepts]
  exact Level.any_passes_eq_iff hlowest.mem hlowest.le

/-- A tree behind a logger whose outputs let everything through, all but the lowest entries, and all but the
highest. -/
theorem accepts_eq_passes_filterLevel_nested :
    let st : Store := { Store.empty with outputs :=
      [.memory (.uniform .always) .bunyan, .memory (.uniform .trace) .bunyan,
        .console .output ((Filter.uniform .info).set .fatal "auth" "*") .bunyan] }
    let s : Suppliers Unit := ⟨fun _ => pure .null, fun _ => pure .null⟩
    let chain := (Chain.root s ⟨"host", 1, 0⟩ "svc" .empty [] ()).1
    let sink : Sink := .fan [.fan [.output 2, .output 0], .through chain (.output 1)]
    sink.Grounded st ∧ sink.asked st "auth" "main" = [.fatal, .always, .trace] ∧
      ∀ entry, sink.accepts st entry "auth" "main" = entry.passes (sink.filterLevel st "auth" "main") := by
  intro st s chain sink
  have hgrounded : sink.Grounded st := ⟨by simp, ⟨by simp, rfl, rfl, trivial⟩, rfl, trivial⟩
  have hasked : sink.asked st "auth" "main" = [.fatal, .always, .trace] := by decide
  -- no output is silent, and the lowest level lets everything through, too
  refine ⟨hgrounded, hasked, (accepts_eq_passes_filterLevel_iff hgrounded "auth" "main").2.2.2 ⟨?_, fun _ => ?_⟩⟩
  · rw [hasked]
    decide
  · exact .inl (by decide)

/-- Next to a silent output a fan looks silent, although it accepts what the other output does. -/
theorem filterLevel_of_silent_branch :
    let st : Store := { Store.empty with outputs :=
      [.memory (.uniform .never) .bunyan, .memory (.uniform .info) .bunyan] }
    let sink : Sink := .fan [.output 0, .output 1]
    sink.Grounded st ∧ sink.accepts st .error "main" "main" = true ∧
      sink.filterLevel st "main" "main" = .never ∧
      Level.error.passes (sink.filterLevel st "main" "main") = false := by
  intro st sink
  exact ⟨⟨by simp, rfl, rfl, trivial⟩, by decide, by decide, by decide⟩

end Logbook.Sink
