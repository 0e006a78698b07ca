import Logbook.Layout

/-!
# What layouts keep

A layout touches its own fields only (`Layout.ownKeys`), and a record that it has arranged it leaves as it is: a name
that stands for a level stands for the same level again, and a time that is rendered is no instant any more.

For StackDriver the own fields are the level, which becomes the severity, and the message, which moves to another key.
The severity overwrites a field of its name.  The message does not: a record that has a field of that name already
keeps it, and then the message itself is lost.

## Key results

- `Layout.find?_arrangeBunyan`, `Layout.find?_arrangeStackdriver`, `Layout.find?_arrangeCloudwatch`: what an arranged
  record holds, key by key
- `Layout.arrange_arrange`: arranging twice is arranging once, and other fields are kept
- `Layout.arrange_stackdriver_keeps`: when the message survives, and what else does
-/

namespace Logbook.Layout

/-! ## Arranged records, key by key -/

/-- What a Bunyan record holds under a key. -/
theorem find?_arrangeBunyan (r : Record) (key : String) :
    (arrangeBunyan r).find? key = if key = "v" then (r.find? key).or (some (.int 0)) else r.find? key := by
  rw [arrangeBunyan, Record.find?_set]
  by_cases hkey : key = "v"
  · subst hkey
    cases r.find? "v" <;> simp [Value.isNull]
  · simp [hkey]

/-- The name of the level that a value stands for, or else the value itself. -/
def nameLevel (v : Value) : Value :=
  match v.level? with
  | some l => .text l.name
  | none => v

/-- A rendered instant, or else the value itself. -/
def renderTime (format : TimeFormat) : Value → Value
  | .time t => format.render t
  | v => v

/-- The first step of the layout for CloudWatch. -/
def nameLevelField (r : Record) : Record :=
  match (r.find? Record.levelKey).bind Value.level? with
  | some l => r.replace Record.levelKey (.text l.name)
  | none => r

/-- The second step of the layout for CloudWatch. -/
def renderTimeField (format : TimeFormat) (r : Record) : Record :=
  match r.find? Record.timeKey with
  | some (.time t) => r.replace Record.timeKey (format.render t)
  | _ => r

/-- The level is named first, and then the time is written. -/
theorem arrangeCloudwatch_eq (format : TimeFormat) (r : Record) :
    arrangeCloudwatch format r = renderTimeField format (nameLevelField r) := rfl

/-- Naming the level changes the level only. -/
theorem find?_nameLevelField (r : Record) (key : String) :
    (nameLevelField r).find? key = if key = Record.levelKey then (r.find? key).map nameLevel else r.find? key := by
  rw [nameLevelField]
  by_cases hkey : key = Record.levelKey
  · subst hkey
    cases hlevel : r.find? Record.levelKey with
    | none => simp [hlevel]
    | some v => cases hv : v.level? <;> simp [nameLevel, hlevel, hv]
  · split <;> simp [hkey]

/-- Writing the time changes the time only. -/
theorem find?_renderTimeField (format : TimeFormat) (r : Record) (key : String) :
    (renderTimeField format r).find? key
      = if key = Record.timeKey then (r.find? key).map (renderTime format) else r.find? key := by
  rw [renderTimeField]
  by_cases hkey : key = Record.timeKey
  · subst hkey
    -- only an instant is replaced, and only an instant is rendered
    split
    next t ht => simp [ht, renderTime]
    next hnone =>
      cases hv : r.find? Record.timeKey with
      | none => simp
      | some v => cases v with
        | time t => exact absurd hv (hnone t)
        | _ => rfl
  · split <;> simp [hkey]

/-- What a CloudWatch record holds under a key. -/
theorem find?_arrangeCloudwatch (format : TimeFormat) (r : Record) (key : String) :
    (arrangeCloudwatch format r).find? key
      = if key = Record.levelKey then (r.find? key).map nameLevel
        else if key = Record.timeKey then (r.find? key).map (renderTime format)
        else r.find? key := by
  have hkeys : Record.timeKey ≠ Record.levelKey := by decide
  rw [arrangeCloudwatch_eq, find?_renderTimeField, find?_nameLevelField]
  by_cases hkey : key = Record.timeKey
  · subst hkey
    rw [if_pos rfl, if_neg hkeys, if_neg hkeys, if_pos rfl]
  · simp only [if_neg hkey]

/-- What a StackDriver record holds under a key. -/
theorem find?_arrangeStackdriver (r : Record) (key : String) :
    (arrangeStackdriver r).find? key
      = if key = "message" then (r.find? "message").or (r.find? Record.messageKey)
        else if key = Record.messageKey ∨ key = Record.levelKey then none
        else if key = "severity" then
          (((r.find? Record.levelKey).bind Value.level?).map fun l => Value.text l.severity).or (r.find? key)
        else r.find? key := by
  -- the keys that the layout knows are four different ones
  have hmessage : Record.messageKey ≠ "message" ∧ Record.messageKey ≠ "severity" ∧
      Record.messageKey ≠ Record.levelKey := by decide
  have htarget : "message" ≠ "severity" ∧ "message" ≠ Record.levelKey := by decide
  have hlevel : Record.levelKey ≠ "severity" ∧ Record.levelKey ≠ "message" := by decide
  -- what is left when the level has been taken out, and the severity put in if there is one
  obtain ⟨shown, harrange, hshown⟩ : ∃ shown : Record,
      arrangeStackdriver r = shown.rename Record.messageKey "message" ∧
        ∀ key, shown.find? key = if key = Record.levelKey then none else if key = "severity" then
          (((r.find? Record.levelKey).bind Value.level?).map fun l => Value.text l.severity).or (r.find? key)
          else r.find? key := by
    rw [arrangeStackdriver]
    cases (r.find? Record.levelKey).bind Value.level? with
    | none => exact ⟨r.remove Record.levelKey, rfl, fun key => by simp⟩
    | some l =>
      refine ⟨(r.remove Record.levelKey).replace "severity" (.text l.severity), rfl, fun key => ?_⟩
      by_cases hkey : key = Record.levelKey
      · simp [hkey, hlevel]
      · simp [hkey]
  rw [harrange, Record.find?_rename]
  simp only [hshown]
  by_cases hkey : key = "message"
  · simp [hkey, hmessage, htarget]
  by_cases hmsg : key = Record.messageKey
  · simp [hmsg, hmessage]
  by_cases hlvl : key = Record.levelKey
  · simp [hlvl, hlevel, hmessage.2.2.symm]
  · simp [hkey, hmsg, hlvl]

/-! ## Arranging again -/

/-- The fields that a layout may change. -/
def ownKeys : Layout → List String
  | bunyan => ["v"]
  | stackdriver => [Record.levelKey, "severity", Record.messageKey, "message"]
  | cloudwatch _ => [Record.levelKey, Record.timeKey]

/-- All other fields stay as they are, and none is added. -/
theorem find?_arrange_of_notMem {l : Layout} (r : Record) {key : String} (hkey : key ∉ l.ownKeys) :
    (l.arrange r).find? key = r.find? key := by
  -- each layout changes its own keys only
  cases l with
  | bunyan =>
    simp only [ownKeys, List.mem_singleton] at hkey
    rw [arrange, find?_arrangeBunyan, if_neg hkey]
  | stackdriver =>
    simp only [ownKeys, List.mem_cons, List.not_mem_nil, or_false, not_or] at hkey
    obtain ⟨hlevel, hseverity, hmsg, htarget⟩ := hkey
    rw [arrange, find?_arrangeStackdriver, if_neg htarget, if_neg (by simp [hlevel, hmsg]), if_neg hseverity]
  | cloudwatch format =>
    simp only [ownKeys, List.mem_cons, List.not_mem_nil, or_false, not_or] at hkey
    rw [arrange, find?_arrangeCloudwatch, if_neg hkey.1, if_neg hkey.2]

/-- Without a level and a message there is nothing to do for StackDriver. -/
theorem arrangeStackdriver_eq_self {r : Record} (hlevel : r.find? Record.levelKey = none)
    (hmsg : r.find? Record.messageKey = none) : arrangeStackdriver r = r := by
  refine Fields.ext fun key => ?_
  rw [find?_arrangeStackdriver, hlevel, hmsg]
  -- the level and the message are gone, and no other key has changed
  by_cases hgone : key = Record.messageKey ∨ key = Record.levelKey
  · have hne : key ≠ "message" := by rcases hgone with rfl | rfl <;> decide
    rw [if_neg hne, if_pos hgone]
    rcases hgone with rfl | rfl
    · exact hmsg.symm
    · exact hlevel.symm
  · rw [if_neg hgone]
    by_cases htarget : key = "message"
    · rw [if_pos htarget, Option.or_none, htarget]
    · simp [htarget]

/-- The name of a level stands for the same level. -/
theorem level?_nameLevel (v : Value) : (nameLevel v).level? = v.level? := by
  rw [nameLevel]
  cases hv : v.level? with
  | none => exact hv
  | some l => rw [Value.level?, Level.ofName_name]

/-- A level that is named stays as it is. -/
theorem nameLevel_nameLevel (v : Value) : nameLevel (nameLevel v) = nameLevel v := by
  rw [nameLevel, level?_nameLevel]
  cases hv : v.level? <;> simp [nameLevel, hv]

/-- A rendered time is a number or a text. -/
theorem renderTime_renderTime (format : TimeFormat) (v : Value) :
    renderTime format (renderTime format v) = renderTime format v := by
  cases v with
  | time t =>
    show renderTime format (format.render t) = format.render t
    rw [TimeFormat.render]
    split <;> rfl
  | _ => rfl

/-- **Arranging is settled at once, and keeps to the layout's own fields.**  A layout changes nothing more of a record
that it has arranged.  All fields but its own are in the arranged record exactly if they are in the record, with the
same values. -/
theorem arrange_arrange (l : Layout) (r : Record) :
    l.arrange (l.arrange r) = l.arrange r ∧ ∀ key ∉ l.ownKeys, (l.arrange r).find? key = r.find? key := by
  refine ⟨?_, fun key hkey => find?_arrange_of_notMem r hkey⟩
  cases l with
  | bunyan =>
    refine Fields.ext fun key => ?_
    rw [arrange, find?_arrangeBunyan, find?_arrangeBunyan]
    split
    · rw [Option.or_assoc, Option.or_some]
      rfl
    · rfl
  | stackdriver =>
    -- both fields that the layout looks for are gone
    apply arrangeStackdriver_eq_self
    · rw [arrange, find?_arrangeStackdriver, if_neg (by decide), if_pos (.inr rfl)]
    · rw [arrange, find?_arrangeStackdriver, if_neg (by decide), if_pos (.inl rfl)]
  | cloudwatch format =>
    refine Fields.ext fun key => ?_
    rw [arrange, find?_arrangeCloudwatch, find?_arrangeCloudwatch]
    -- each of the two fields is changed on its own
    split
    · rw [Option.map_map]
      exact congrArg (Option.map · _) (funext nameLevel_nameLevel)
    · split
      · rw [Option.map_map]
        exact congrArg (Option.map · _) (funext (renderTime_renderTime format))
      · rfl

/-- A record with a level between two others, a time, and fields under all names that layouts use. -/
theorem arrange_arrange_taken :
    let r : Record := .ofEntries [(Record.levelKey, .uint 35), (Record.timeKey, .time ⟨0, 0⟩),
      (Record.messageKey, .text "m"), ("message", .int 7), ("severity", .bool true), ("v", .text "one"),
      ("user", .deferred 3)]
    ∀ l ∈ [bunyan, stackdriver, cloudwatch .unix], "user" ∉ l.ownKeys ∧ l.arrange (l.arrange r) = l.arrange r ∧
      (l.arrange r).find? "user" = some (.deferred 3) := by
  intro r l hl
  have huser : "user" ∉ l.ownKeys := by
    revert l
    decide
  obtain ⟨hagain, hothers⟩ := arrange_arrange l r
  exact ⟨huser, hagain, hothers "user" huser⟩

/-! ## The message -/

/-- **What StackDriver keeps of a record with a message.**  The message survives exactly if the record has no other
value under the name that it moves to; one that is there stays.  Of all other fields only the severity may change: it
is overwritten if the record has a level that can be read. -/
theorem arrange_stackdriver_keeps (r : Record) {v : Value} (hmsg : r.find? Record.messageKey = some v) :
    let out := stackdriver.arrange r
    (out.find? "message" = some v ↔ ∀ w, r.find? "message" = some w → w = v) ∧
      (∀ w, r.find? "message" = some w → out.find? "message" = some w) ∧
      (∀ key, key ∉ [Record.levelKey, Record.messageKey, "message", "severity"] → out.find? key = r.find? key) ∧
      out.find? "severity"
        = (((r.find? Record.levelKey).bind Value.level?).map fun l => Value.text l.severity).or
            (r.find? "severity") := by
  intro out
  have hfind : ∀ key, out.find? key = _ := find?_arrangeStackdriver r
  have hmessage : out.find? "message" = (r.find? "message").or (some v) := by
    rw [hfind, if_pos rfl, hmsg]
  -- the four parts follow from the look-up, each at its own key
  refine ⟨?_, fun w hw => ?_, fun key hkey => ?_, ?_⟩
  · rw [hmessage]
    cases r.find? "message" with
    | none => simp
    | some w => simp
  · rw [hmessage, hw, Option.some_or]
  · simp only [List.mem_cons, List.not_mem_nil, or_false, not_or] at hkey
    obtain ⟨hlevel, hmsg, htarget, hseverity⟩ := hkey
    rw [hfind, if_neg htarget, if_neg (by simp [hlevel, hmsg]), if_neg hseverity]
  · rw [hfind, if_neg (by decide), if_neg (by decide), if_pos rfl]

/-- A record that already has a message under the name of StackDriver, and a severity, but no level. -/
theorem arrange_stackdriver_keeps_own :
    let r := (((Record.empty.set "user" (.text "bob")).set "severity" (.text "HIGH")).set "message" (.text "mine")).set
      Record.messageKey (.text "mine")
    r.find? Record.messageKey = some (.text "mine") ∧
      (stackdriver.arrange r).find? "message" = some (.text "mine") ∧
      (stackdriver.arrange r).find? "user" = some (.text "bob") ∧
      (stackdriver.arrange r).find? "severity" = some (.text "HIGH") := by
  intro r
  have hmsg : r.find? Record.messageKey = some (.text "mine") := rfl
  obtain ⟨hmessage, -, hothers, hseverity⟩ := arrange_stackdriver_keeps r hmsg
  refine ⟨hmsg, hmessage.2 ?_, hothers "user" (by decide), hseverity⟩
  rintro w ⟨⟩
  rfl

/-- A field under the name that the message moves to is kept instead of the message, and one under the name of the
severity is overwritten. -/
theorem arrange_stackdriver_loses :
    let r := (((Record.empty.set Record.levelKey (.level .info)).set Record.messageKey (.text "lost")).set "message"
      (.text "mine")).set "severity" (.text "HIGH")
    let out := stackdriver.arrange r
    out.find? "message" ≠ r.find? Record.messageKey ∧ (∀ key, out.find? key ≠ r.find? Record.messageKey) ∧
      out.find? "severity" ≠ r.find? "severity" := by
  intro r out
  have hmsg : r.find? Record.messageKey = some (.text "lost") := rfl
  have hout : out = .insert (.insert .nil "message" (.text "mine")) "severity" (.text "INFO") := rfl
  -- no key has the text that was lost
  have hnowhere : ∀ key, out.find? key ≠ r.find? Record.messageKey := by
    intro key
    rw [hout, hmsg, Fields.find?_insert, Fields.find?_insert]
    split
    · simp
    · split <;> simp
  refine ⟨hnowhere "message", hnowhere, ?_⟩
  show some (Value.text "INFO") ≠ some (.text "HIGH")
  simp

end Logbook.Layout
