import Logbook.Proofs.Duration
import Logbook.Proofs.Filter.Grammar
import Logbook.Proofs.Json.Typed
import Logbook.Settings.Json

/-!
# Settings read back

Settings are written as an object of texts and read back by the fields of its members.  Destinations, layout and
interval come back as they are, and the filter comes back as what its pattern describes.  A filter without rules has a
blank pattern, which describes the default; such a filter comes from a text of semicolons and blanks alone.

## Key results

- `Filter.isEmpty_parse_iff`: which texts describe a filter without rules
- `Settings.readAll_encode`: what becomes of any settings
- `Settings.readAll_encode_ofLookup`: settings from named texts come back, unless they have a filter without rules
-/

namespace Logbook

open Json (Reader)

/-! ## Filters without rules -/

/-- A character other than the separator stands in one of the parts. -/
theorem Text.exists_mem_split {sep c : Char} {cs : List Char} (hc : c ∈ cs) (hne : c ≠ sep) :
    ∃ part ∈ split sep cs, c ∈ part := by
  -- by induction on the text: each character but the separators goes to one of the parts
  induction cs with
  | nil => cases hc
  | cons d ds ih =>
    rw [split]
    by_cases hd : d = sep
    · -- the separator goes, so the character comes later
      have hlater : c ∈ ds := by
        rcases List.mem_cons.1 hc with rfl | hc
        · exact absurd hd hne
        · exact hc
      obtain ⟨part, hpart, hmem⟩ := ih hlater
      rw [if_pos hd]
      exact ⟨part, List.mem_cons_of_mem _ hpart, hmem⟩
    · rw [if_neg hd]
      obtain ⟨first, parts, hsplit⟩ := List.exists_cons_of_ne_nil (split_ne_nil sep ds)
      simp only [hsplit] at ih ⊢
      rcases List.mem_cons.1 hc with rfl | hc
      · exact ⟨_, List.mem_cons_self, List.mem_cons_self⟩
      · obtain ⟨part, hpart, hmem⟩ := ih hc
        rcases List.mem_cons.1 hpart with rfl | hpart
        · exact ⟨_, List.mem_cons_self, List.mem_cons_of_mem d hmem⟩
        · exact ⟨part, List.mem_cons_of_mem _ hpart, hmem⟩

namespace Filter

/-- A clause names at least one target. -/
theorem targets_ne_nil (text : List Char) : targets text ≠ [] := by
  rw [targets]
  split
  · simp
  · split
    · simp
    · simpa using Text.split_ne_nil ',' _

/-- A clause assigns at least one level. -/
theorem clause_ne_nil (text : List Char) : clause text ≠ [] := by
  rw [clause]
  split
  · simp
  · simpa using targets_ne_nil _

/-- Rules make a filter without rules only if there are none. -/
theorem isEmpty_setAll_iff {rules : List (Target × Level)} : (empty.setAll rules).isEmpty = true ↔ rules = [] := by
  constructor
  · intro hempty
    rcases List.eq_nil_or_concat rules with rfl | ⟨front, last, rfl⟩
    · rfl
    · -- the last rule is one of the filter
      have hset : empty.setAll (front.concat last) = (empty.setAll front).setTarget last.2 last.1 := by
        rw [List.concat_eq_append, setAll, List.foldl_append]
        rfl
      have hnormal : (empty.setAll (front.concat last)).Normal := normal_empty.setAll _
      have hmem : (last.1, last.2) ∈ (empty.setAll (front.concat last)).rules := by
        rw [hnormal.mem_rules, hset, rule?_setTarget, if_pos ⟨rfl, rfl⟩]
      rw [isEmpty, List.isEmpty_iff] at hempty
      rw [hempty] at hmem
      cases hmem
  · rintro rfl
    rfl

/-- The text holds semicolons and blanks only, and is not blank. -/
structure IsVoid (text : String) : Prop where
  not_blank : Text.isBlankList text.toList = false
  chars : ∀ c ∈ text.toList, c = ';' ∨ Text.isBlank c = true

/-- Which texts describe a filter without rules. -/
theorem isEmpty_parse_iff (text : String) : (parse text).isEmpty = true ↔ IsVoid text := by
  have hvoid : IsVoid text ↔
      Text.isBlankList text.toList = false ∧ ∀ c ∈ text.toList, c = ';' ∨ Text.isBlank c = true :=
    ⟨fun h => ⟨h.1, h.2⟩, fun h => ⟨h.1, h.2⟩⟩
  rw [parse, isEmpty_setAll_iff, hvoid]
  cases hblank : Text.isBlankList text.toList with
  | true => simp [assignments, hblank]
  | false =>
    -- nothing is assigned exactly if all pieces are blank
    have hpieces : assignments text.toList = [] ↔
        ∀ piece ∈ Text.split ';' text.toList, Text.isBlankList piece = true := by
      rw [assignments_eq_flatMap hblank, List.flatMap_eq_nil_iff]
      refine forall₂_congr fun piece _ => ?_
      -- a piece that is not blank assigns something
      cases Text.isBlankList piece <;> simp [clause_ne_nil]
    rw [hpieces]
    -- what is not blank and no semicolon stands in some piece
    constructor
    · intro h
      refine ⟨rfl, fun c hc => or_iff_not_imp_left.2 fun hne => ?_⟩
      obtain ⟨piece, hpiece, hmem⟩ := Text.exists_mem_split hc hne
      exact List.all_eq_true.1 (h piece hpiece) c hmem
    · rintro ⟨-, h⟩ piece hpiece
      obtain ⟨hsep, hmem⟩ := Text.mem_split hpiece
      apply List.all_eq_true.2
      intro c hc
      exact (h c (hmem c hc)).resolve_left fun heq => hsep (heq ▸ hc)

/-- A normal filter without rules is the empty one. -/
theorem Normal.eq_empty {f : Filter} (hf : f.Normal) (hempty : f.isEmpty = true) : f = empty := by
  rw [isEmpty, List.isEmpty_iff] at hempty
  rw [← setAll_rules hf, hempty]
  rfl

/-- A filter that was read from a text comes back, unless it has no rule; then the default does. -/
theorem parse_render_parse (text : String) :
    parse (parse text).render = if (parse text).isEmpty then .uniform .info else parse text := by
  have hnormal := normal_parse text
  split
  -- without rules the pattern is blank, and read as the level for everything
  next hempty =>
    rw [hnormal.eq_empty hempty]
    rfl
  next hne =>
    apply hnormal.parse_render
    · rwa [isEmpty, List.isEmpty_iff] at hne
    · exact fun r hr => isPlain_of_mem_rules_parse hr

/-- A pattern is taken as what it reads as. -/
theorem takes_read (f : Filter) : Reader.Takes read f.encode (parse f.render) := (Reader.Takes.text f.render).map parse

end Filter

/-- A layout is taken by its name. -/
theorem Layout.Kind.takes_read (k : Kind) : Reader.Takes read k.encode k :=
  .variant (by cases k <;> rfl)

/-- A duration is taken as it was printed. -/
theorem Duration.takes_read {d : Duration} (hd : d.nanoseconds < limit) :
    Reader.Takes read (.string d.render) d := by
  intro rest
  refine (bind_of_ok (Reader.Takes.text d.render rest) _).trans ?_
  simp only [parse_render hd]

namespace Settings

/-- The settings with one field, that of a key, as other settings have it. -/
def put (s : Settings) (key : String) (a : Settings) : Settings :=
  if key = levelKey then { a with level := s.level }
  else if key = destinationsKey then { a with destinations := s.destinations }
  else if key = layoutKey then { a with layout := s.layout }
  else if key = flushKey then { a with flushEvery := s.flushEvery }
  else a

/-- Settings come back with the filter that the pattern of theirs describes. -/
theorem readAll_encode {s : Settings} (hflush : s.flushEvery.nanoseconds < Duration.limit) :
    Json.readAll read s.encode.render = .ok { s with level := .parse s.level.render } := by
  apply Json.readAll_render
  let back : Settings := { s with level := .parse s.level.render }
  let members : Fields Json none := .ofList [(levelKey, s.level.encode),
    (destinationsKey, .array (s.destinations.map .string)), (layoutKey, s.layout.encode),
    (flushKey, .string s.flushEvery.render)]
  have hentries : members.toList = [(layoutKey, s.layout.encode),
      (destinationsKey, .array (s.destinations.map .string)), (flushKey, .string s.flushEvery.render),
      (levelKey, s.level.encode)] := by
    -- the members are printed in the order of their names
    have hlayout : layoutKey < destinationsKey := by decide
    have hdestinations : destinationsKey < levelKey := by decide
    have hbetween : ¬ flushKey < layoutKey ∧ flushKey ≠ layoutKey ∧ ¬ flushKey < destinationsKey ∧
        flushKey ≠ destinationsKey ∧ flushKey < levelKey := by decide
    simp only [members, Fields.ofList, Fields.insert, Fields.insertAbove, Fields.toList, List.foldl_cons,
      List.foldl_nil, hlayout, hdestinations, hbetween, dite_true, dite_false]
  -- each member is read into its field, whichever comes first
  have hfits : ∀ e ∈ members.toList, ∃ f, fields.find? (·.key = e.1) = some f ∧
      ∀ a, Reader.Takes (f.read a) e.2 (put back e.1 a) := by
    rw [hentries]
    simp only [List.forall_mem_cons, List.not_mem_nil, false_imp_iff, implies_true, and_true]
    refine ⟨?_, ?_, ?_, ?_⟩
    · exact ⟨_, rfl, fun a => s.layout.takes_read.map fun layout => { a with layout }⟩
    · exact ⟨_, rfl, fun a => (Reader.Takes.list .text s.destinations).map fun destinations => { a with destinations }⟩
    · exact ⟨_, rfl, fun a => (Duration.takes_read hflush).map fun flushEvery => { a with flushEvery }⟩
    · exact ⟨_, rfl, fun a => s.level.takes_read.map fun level => { a with level }⟩
  have hall : members.keys.foldl (fun a key => put back key a) default = back := by
    rw [Fields.keys, hentries]
    rfl
  have htakes := Reader.Takes.struct hfits default
  rw [hall] at htakes
  exact htakes

/-! ## Settings from named texts -/

/-- The name of a level has rules in it. -/
theorem isVoid_name (l : Level) : ¬ Filter.IsVoid l.name := by
  intro hvoid
  obtain ⟨hne, hchars⟩ := l.name_chars
  obtain ⟨c, cs, hname⟩ := List.exists_cons_of_ne_nil hne
  have hc : c ∈ l.name.toList := hname ▸ List.mem_cons_self
  obtain ⟨hblank, -, hsemicolon⟩ := hchars c hc
  rcases hvoid.chars c hc with heq | heq
  · exact hsemicolon heq
  · rw [heq] at hblank
    cases hblank

/-- The filter is always one that some text describes. -/
theorem exists_levelOf (lookup : String → Option String) : ∃ text, levelOf lookup = .parse text ∧
    (Filter.IsVoid text ↔ ∃ given, lookup levelName = some given ∧ Filter.IsVoid given) := by
  cases hgiven : given lookup levelName with
  | some text =>
    have hlookup : lookup levelName = some text := (Option.filter_eq_some_iff.1 hgiven).1
    exact ⟨text, by simp only [levelOf, hgiven], by simp [hlookup]⟩
  | none =>
    -- a name of a level is never void, and a text that counts for nothing is blank
    have hlevel : ∃ l : Level, levelOf lookup = .parse l.name := by
      simp only [levelOf, hgiven]
      split
      · exact ⟨.trace, rfl⟩
      · split
        · exact ⟨.debug, rfl⟩
        · exact ⟨.info, rfl⟩
    obtain ⟨l, hl⟩ := hlevel
    refine ⟨l.name, hl, iff_of_false (isVoid_name l) ?_⟩
    rintro ⟨text, hlookup, hvoid⟩
    have hblank := Option.filter_eq_none_iff.1 hgiven text hlookup
    simp [hvoid.not_blank] at hblank

/-- Settings from named texts have the filter of the texts, and an interval that can be written. -/
theorem ofLookup_eq_ok {lookup : String → Option String} {s : Settings} (h : ofLookup lookup = .ok s) :
    s.level = levelOf lookup ∧ s.flushEvery.nanoseconds < Duration.limit := by
  have hdefault : default.flushEvery.nanoseconds < Duration.limit := by decide
  rw [ofLookup] at h
  -- whichever layout is given, and whether it is
  split at h
  all_goals
    obtain ⟨layout, -, h⟩ := exists_of_bind_ok h
    dsimp only at h
    split at h
    next text _ =>
      split at h
      next d hparse =>
        have hd := Duration.lt_of_parse hparse
        cases h
        exact ⟨rfl, hd⟩
      next => cases h
    next =>
      cases h
      exact ⟨rfl, hdefault⟩

/-- **Settings from named texts come back.**  Written as JSON and read again they are the same, unless the text for the
level holds nothing but semicolons and blanks.  Then their filter has no rule and asks nothing of entries; in its place
the default comes back, which asks for `info`, and all else is the same. -/
theorem readAll_encode_ofLookup {lookup : String → Option String} {settings : Settings}
    (h : ofLookup lookup = .ok settings) :
    let isVoid := ∃ text, lookup levelName = some text ∧ Filter.IsVoid text
    ∃ back, Json.readAll read settings.encode.render = .ok back ∧
      (back = settings ↔ ¬ isVoid) ∧
      ((∀ level topic scope, back.level.accepts level topic scope = settings.level.accepts level topic scope) ↔
        ¬ isVoid) ∧
      (isVoid → settings.level = .empty ∧ back = { settings with level := .uniform .info }) := by
  intro isVoid
  obtain ⟨hlevel, hflush⟩ := ofLookup_eq_ok h
  obtain ⟨text, htext, hvoid⟩ := exists_levelOf lookup
  rw [← hlevel] at htext
  -- only the level can come back otherwise, as its text is read again
  let back : Settings := { settings with level := .parse settings.level.render }
  have hback : back = { settings with
      level := if (Filter.parse text).isEmpty then .uniform .info else settings.level } := by
    show ({ settings with level := .parse settings.level.render } : Settings) = _
    rw [htext, Filter.parse_render_parse]
  refine ⟨back, readAll_encode hflush, ?_⟩
  rw [hback]
  by_cases hempty : (Filter.parse text).isEmpty
  · have hisVoid : isVoid := hvoid.1 ((Filter.isEmpty_parse_iff text).1 hempty)
    have hnone : settings.level = .empty := by
      rw [htext, (Filter.normal_parse text).eq_empty hempty]
    -- without rules an entry of a lower level passes
    have hdiffers : (Filter.uniform .info).accepts .debug Target.main Target.main
        ≠ Filter.empty.accepts .debug Target.main Target.main := by decide
    rw [if_pos hempty]
    refine ⟨iff_of_false (fun heq => ?_) (not_not_intro hisVoid), iff_of_false (fun hall => ?_) (not_not_intro hisVoid),
      fun _ => ⟨hnone, rfl⟩⟩
    · have hlevels : Filter.uniform .info = settings.level := congrArg Settings.level heq
      rw [hlevels, hnone] at hdiffers
      exact hdiffers rfl
    · rw [← hnone] at hdiffers
      exact hdiffers (hall .debug Target.main Target.main)
  · -- with rules the level comes back
    have hrules : ¬ isVoid := fun h => hempty ((Filter.isEmpty_parse_iff text).2 (hvoid.2 h))
    rw [if_neg hempty]
    exact ⟨iff_of_true rfl hrules, iff_of_true (fun _ _ _ => rfl) hrules, fun h => absurd h hrules⟩

/-- Two rules, two destinations and an interval of two parts. -/
theorem readAll_encode_ofLookup_database :
    let lookup : String → Option String := fun name =>
      if name = levelName then some "WARN;DEBUG:\x7bdb\x7d"
      else if name = destinationName then some "stderr, app.log"
      else if name = flushName then some "1h 250ms"
      else none
    let settings : Settings := ⟨.parse "WARN;DEBUG:\x7bdb\x7d", ["stderr", "app.log"], .bunyan, ⟨3600250000000⟩⟩
    ofLookup lookup = .ok settings ∧ Json.readAll read settings.encode.render = .ok settings := by
  intro lookup settings
  have hsettings : ofLookup lookup = .ok settings := rfl
  obtain ⟨back, hread, hback, -⟩ := readAll_encode_ofLookup hsettings
  -- a letter is no semicolon and not blank
  have hrules : ¬ ∃ text, lookup levelName = some text ∧ Filter.IsVoid text := by
    rintro ⟨text, htext, hvoid⟩
    obtain rfl : "WARN;DEBUG:\x7bdb\x7d" = text := Option.some.inj htext
    rcases hvoid.chars 'W' (by decide) with h | h
    · cases h
    · revert h
      decide
  rw [hback.2 hrules] at hread
  exact ⟨hsettings, hread⟩

/-- A lone semicolon sets no rule, and comes back as the default. -/
theorem readAll_encode_ofLookup_void :
    let lookup : String → Option String := fun name => if name = levelName then some ";" else none
    let settings : Settings := { default with level := .empty }
    ofLookup lookup = .ok settings ∧ Json.readAll read settings.encode.render = .ok default ∧
      default ≠ settings ∧ settings.level.accepts .debug Target.main Target.main = true ∧
      default.level.accepts .debug Target.main Target.main = false := by
  intro lookup settings
  have hread : Json.readAll read settings.encode.render = .ok default := readAll_encode (by decide)
  have haccepts : settings.level.accepts .debug Target.main Target.main = true ∧
      default.level.accepts .debug Target.main Target.main = false := by decide
  refine ⟨rfl, hread, fun heq => ?_, haccepts⟩
  rw [← heq] at haccepts
  exact absurd (haccepts.1.symm.trans haccepts.2) (by decide)

end Settings

end Logbook
