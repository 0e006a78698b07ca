import Logbook.Proofs.Chain.Layers
import Logbook.Proofs.Layout
import Logbook.Proofs.Output.Lines
import Logbook.Proofs.Value.Rereading

/-!
# Routing keys, read from lines

A record goes to the outputs by its routing key: its level, its topic and its scope.  The line of a record says the same
where the level is one of the values that a level can be read from, and topic and scope, if there are any, are texts.
JSON has no levels, so what comes back is a number, or the name that CloudWatch has for it; both stand for the same
level (`Value.level?_decode_toJson`, `Layout.level?_nameLevel`).  The other fields may be anything: none of them hides a
field or keeps the line from being read.

## Key results

- `Record.SameRoute`: records that go the same way
- `Record.parse_render_find?`: the fields of a record that is read from its text
- `Layout.routingKey_encodeLine`: the routing key of a record that is read from its line
-/

namespace Logbook

variable {σ : Type}

namespace Record

/-! ## Records that go the same way -/

/-- The level, where the record has one, is a value that a level can be read from. -/
def hasReadableLevel (r : Record) : Bool := (r.find? levelKey).all fun v => v.level?.isSome

/-- The fields for the routing key stand for the same level and for the same texts, and none is missing in one record
only. -/
structure SameRoute (r r' : Record) : Prop where
  level : (r'.find? levelKey).map Value.level? = (r.find? levelKey).map Value.level?
  target : ∀ key ∈ targetKeys, (r'.find? key).map Value.text? = (r.find? key).map Value.text?

namespace SameRoute

variable {r r' r'' : Record}

/-- What three records have pairwise in common the first and the last have. -/
theorem trans (h : SameRoute r r') (h' : SameRoute r' r'') : SameRoute r r'' where
  level := h'.level.trans h.level
  target key hkey := (h'.target key hkey).trans (h.target key hkey)

/-- A level that can be read is the same. -/
theorem hasReadableLevel_eq (h : SameRoute r r') : r'.hasReadableLevel = r.hasReadableLevel := by
  have hall : ∀ o : Option Value, o.all (fun v => v.level?.isSome) = (o.map Value.level?).all Option.isSome :=
    fun o => Option.all_map.symm
  rw [hasReadableLevel, hasReadableLevel, hall, hall, h.level]

/-- A topic and a scope that are texts are the same. -/
theorem hasTextTarget_eq (h : SameRoute r r') : r'.hasTextTarget = r.hasTextTarget := by
  have hall : ∀ o : Option Value, o.all (fun v => v.text?.isSome) = (o.map Value.text?).all Option.isSome :=
    fun o => Option.all_map.symm
  rw [hasTextTarget, hasTextTarget, Bool.eq_iff_iff, List.all_eq_true, List.all_eq_true]
  refine forall₂_congr fun key hkey => ?_
  rw [hall, hall, h.target key hkey]

/-- Where topic and scope are texts, they have the same routing key. -/
theorem routingKey_eq (h : SameRoute r r') (s : Suppliers σ) (htarget : r.hasTextTarget) (hidden : σ) :
    r'.routingKey s hidden = r.routingKey s hidden := by
  -- what the key is made of are the two maps that agree
  have hbind {β : Type} (f : Value → Option β) (o : Option Value) : o.bind f = (o.map f).join := by
    cases o <;> rfl
  have hroute : r'.route = r.route := by
    simp only [route, hbind, h.level, h.target topicKey (by decide), h.target scopeKey (by decide)]
  have htarget' : r'.hasTextTarget := h.hasTextTarget_eq.trans htarget
  rw [Record.routingKey_eq s (hasPlainTarget_of_text htarget'), hroute,
    Record.routingKey_eq s (hasPlainTarget_of_text htarget)]

end SameRoute

end Record

/-! ## Values that a level can be read from -/

namespace Value

variable {v : Value}

/-- They are written wherever there is a level left, and being no doubles they are read as what was written. -/
theorem mapReals_encodeWithin_of_level? (s : Suppliers σ) (h : v.level?.isSome) (room : Nat) (hidden : σ)
    (f : Binary64 → Binary64) : (v.encodeWithin s (room + 1) hidden).1.mapReals f = v.toJson := by
  cases v with
  | level | int | uint | text => rfl
  | _ => cases h

/-- A level that can be read is not written as null. -/
theorem isNullJson_toJson_of_level? (h : v.level?.isSome) : isNullJson v.toJson = false := by
  cases v with
  | level | int | uint | text => rfl
  | _ => cases h

/-- A level is read as its number and an integer as the same one, of whatever kind, so the level is the same. -/
theorem level?_decode_toJson (h : v.level?.isSome) : (decode v.toJson).level? = v.level? := by
  cases v with
  | level l => cases l <;> rfl
  | int i => rw [(IsRead.int i).decode_toJson]
  | uint n =>
    show (ofNumber (.whole n.toNat)).level? = some (.ofNumber n.toNat)
    -- an unsigned integer that fits is read as a signed one
    rw [ofNumber]
    split
    next hsigned =>
      show some (Level.ofNumber (Int64.ofInt n.toNat).toInt) = _
      rw [Int64.toInt_ofInt_of_le (by omega) (by omega)]
    next => rw [Int.toNat_natCast, UInt64.ofNat_toNat, level?]
  | text t => rfl
  | _ => cases h

/-- A text is read back as it was. -/
theorem text?_decode_toJson (h : v.text?.isSome) : (decode v.toJson).text? = v.text? := by
  cases v with
  | text t => rfl
  | _ => cases h

/-- A text may be the name of a level. -/
theorem level?_isSome_of_text? (h : v.text?.isSome) : v.level?.isSome := by
  cases v with
  | text t => rfl
  | _ => cases h

end Value

/-! ## Fields that are read -/

namespace Record

/-- The record that is read from the text of a record has under each key what was written there, but for its doubles,
unless that is null. -/
theorem parse_render_find? (s : Suppliers σ) (r : Record) (hidden : σ) :
    ∃ r', parse (r.encode s hidden).1.render = .ok r' ∧
      ∀ key, ∃ hidden', r'.find? key = (r.find? key).bind fun v =>
        let j := (v.encodeWithin s Value.depthLimit hidden').1.mapReals Json.reread
        if Value.isNullJson j then none else some (Value.decode j) := by
  rw [parse, parse_render_encode]
  -- a record without fields is written as null
  cases hempty : r.isEmpty with
  | true =>
    obtain rfl : r = empty := Fields.eq_nil_of_isEmpty hempty
    exact ⟨empty, rfl, fun key => ⟨hidden, rfl⟩⟩
  | false =>
    let members := (r.mapM (fun _ v => v.encodeWithin s Value.depthLimit) hidden).1
    have hobject : (r.encode s hidden).1 = .object members := by
      rw [encode, hempty]
      rfl
    refine ⟨Value.decodeMembers (Json.mapRealsOfMembers Json.reread members), ?_, fun key => ?_⟩
    · rw [hobject]
      rfl
    · obtain ⟨hidden', hfind⟩ := Fields.exists_find?_mapM
        (f := fun _ (v : Value) => v.encodeWithin s Value.depthLimit) key r hidden
      refine ⟨hidden', ?_⟩
      rw [Value.find?_decodeMembers, Json.find?_mapRealsOfMembers, hfind]
      cases r.find? key <;> rfl

/-- Where a level can be read from a field of a record, and where there is none, the record that is read from the text
has what JSON has for it. -/
theorem exists_parse_render_level? (s : Suppliers σ) (r : Record) (hidden : σ) :
    ∃ r', parse (r.encode s hidden).1.render = .ok r' ∧
      ∀ key, (∀ v, r.find? key = some v → v.level?.isSome) →
        r'.find? key = (r.find? key).map fun v => Value.decode v.toJson := by
  obtain ⟨r', hparse, hfind⟩ := parse_render_find? s r hidden
  refine ⟨r', hparse, fun key hkey => ?_⟩
  -- asked for in whatever hidden state, such a field is written in the same way
  obtain ⟨hidden', hfound⟩ := hfind key
  rw [hfound]
  cases hv : r.find? key with
  | none => rfl
  | some v =>
    have hlevel := hkey v hv
    have hread : (v.encodeWithin s Value.depthLimit hidden').1.mapReals Json.reread = v.toJson :=
      Value.mapReals_encodeWithin_of_level? s hlevel _ hidden' Json.reread
    simp [hread, Value.isNullJson_toJson_of_level? hlevel]

/-- The record that is read from the text of a record goes the same way. -/
theorem exists_parse_render_sameRoute (s : Suppliers σ) (hidden : σ) {r : Record} (hlevel : r.hasReadableLevel)
    (htarget : r.hasTextTarget) : ∃ r', parse (r.encode s hidden).1.render = .ok r' ∧ SameRoute r r' := by
  rw [hasReadableLevel, Option.all_eq_true] at hlevel
  rw [hasTextTarget_iff] at htarget
  obtain ⟨r', hparse, hread⟩ := exists_parse_render_level? s r hidden
  refine ⟨r', hparse, ?_, fun key hkey => ?_⟩
  · rw [hread levelKey hlevel, Option.map_map]
    exact Option.map_congr fun v hv => Value.level?_decode_toJson (hlevel v hv)
  · rw [hread key fun v hv => Value.level?_isSome_of_text? (htarget key hkey v hv), Option.map_map]
    exact Option.map_congr fun v hv => Value.text?_decode_toJson (htarget key hkey v hv)

end Record

/-! ## Arranged records -/

namespace Layout

variable {l : Layout}

/-- An arranged record goes the same way, unless it is arranged for StackDriver. -/
theorem sameRoute_arrange (hl : l ≠ .stackdriver) (r : Record) : r.SameRoute (l.arrange r) := by
  refine ⟨?_, fun key hkey => ?_⟩
  · cases l with
    | bunyan => rw [arrange, find?_arrangeBunyan, if_neg (by decide)]
    | stackdriver => exact absurd rfl hl
    | cloudwatch format =>
      rw [arrange, find?_arrangeCloudwatch, if_pos rfl, Option.map_map]
      exact congrArg (Option.map · _) (funext level?_nameLevel)
  · -- topic and scope are not among the fields of a layout
    have hown : ∀ key ∈ Record.targetKeys, key ∉ l.ownKeys := by
      cases l <;> simp only [ownKeys] <;> decide
    rw [find?_arrange_of_notMem r (hown key hkey)]

/-- **The routing key survives the output.**  Let the level of a record be a level, an integer or a text, or missing,
and topic and scope be texts or missing.  Then the line of the record, unless it is one for StackDriver, is read as a
record with the same routing key.  The other fields do not matter, and neither does the format of the time. -/
theorem routingKey_encodeLine (s : Suppliers σ) (hidden : σ) (hl : l ≠ .stackdriver) {r : Record}
    (hlevel : r.hasReadableLevel) (htarget : r.hasTextTarget) :
    ∃ text r', (l.encodeLine s r hidden).1 = text ++ "\n" ∧ Record.parse text = .ok r' ∧
      ∀ hidden', r'.routingKey s hidden' = r.routingKey s hidden' := by
  have harrange : r.SameRoute (l.arrange r) := sameRoute_arrange hl r
  obtain ⟨r', hparse, hread⟩ := Record.exists_parse_render_sameRoute s hidden
    (harrange.hasReadableLevel_eq.trans hlevel) (harrange.hasTextTarget_eq.trans htarget)
  exact ⟨_, r', rfl, hparse, fun hidden' => (harrange.trans hread).routingKey_eq s htarget hidden'⟩

/-- The largest of the unsigned integers as a level, a topic without a scope, a time and a value that is deferred
without end. -/
theorem routingKey_encodeLine_supplied :
    let s : Suppliers Nat := ⟨fun source n => (.deferred source, n + 1), fun _ => pure .null⟩
    let r : Record := .ofEntries [(Record.levelKey, .uint 0xffffffffffffffff), (Record.timeKey, .time ⟨0, 0⟩),
      (Record.topicKey, .text "auth"), ("user", .deferred 3)]
    ∃ text r', ((cloudwatch .unix).encodeLine s r 0).1 = text ++ "\n" ∧ Record.parse text = .ok r' ∧
      r'.routingKey s 5 = (⟨.always, "auth", Target.main⟩, 5) := by
  intro s r
  have hlevel : r.hasReadableLevel := by decide
  have htarget : r.hasTextTarget := by decide
  obtain ⟨text, r', hline, hparse, hkey⟩ := routingKey_encodeLine s 0 (l := cloudwatch .unix) nofun hlevel htarget
  have hown : r.routingKey s 5 = (⟨.always, "auth", Target.main⟩, 5) := by rfl
  exact ⟨text, r', hline, hparse, (hkey 5).trans hown⟩

end Layout

end Logbook
