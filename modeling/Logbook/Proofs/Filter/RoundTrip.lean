import Logbook.Proofs.Filter.Rules

/-!
# Reading back a rendered filter

Which filters come back when their pattern is read again?  All those with a rule, as long as no name holds a
character that ends the name in a pattern: `;` or `:` in a topic, `;` or `,` in a scope.  Other characters do
no harm, braces and blanks inside a name included.

## Key results

- `Filter.clause_renderRule`: reading a rendered rule gives the rule, if its names are plain
- `Filter.assignments_render`: the pattern of a filter with plain names assigns its rules in order
- `Filter.isPlain_of_mem_assignments`: a pattern assigns levels to plain names only
- `Filter.Normal.beq_parse_render` / `parse_render_iff`: which filters come back
-/

namespace Logbook

/-- No name of the target holds a character that would end it in a pattern. -/
structure Target.IsPlain (t : Target) : Prop where
  topic_clause : ';' ∉ t.topic.toList
  topic_colon : ':' ∉ t.topic.toList
  scope_clause : ';' ∉ t.scope.toList
  scope_comma : ',' ∉ t.scope.toList

/-! ## Names -/

/-- Normalising a name adds nothing to it, unless it becomes the wildcard. -/
theorem Target.mem_of_mem_name {s : String} {c : Char} (h : c ∈ (name s).toList) :
    c ∈ s.toList ∨ c ∈ any.toList := by
  rw [name] at h
  split at h
  next => exact .inr h
  next =>
    rw [Text.trim, String.toList_ofList] at h
    exact .inl (Text.mem_of_mem_trimList h)

/-- A normalised name has no blanks around it. -/
theorem Target.trimList_of_name {s : String} (h : name s = s) : Text.trimList s.toList = s.toList := by
  have htrim : Text.trim s = s := by
    rw [name] at h
    split at h
    next => rw [← h, trim_any]
    next => exact h
  simpa [Text.trim] using congrArg String.toList htrim

/-- A normalised name is not blank. -/
theorem Target.not_isBlankList_of_name {s : String} (h : name s = s) : Text.isBlankList s.toList = false := by
  rw [Bool.eq_false_iff]
  intro hblank
  have hnil : s.toList = [] := by rw [← trimList_of_name h, Text.trimList_of_isBlankList hblank]
  obtain rfl : s = "" := String.toList_injective hnil
  revert h
  decide

/-- The name of a level is a word. -/
theorem Level.name_chars (l : Level) :
    l.name.toList ≠ [] ∧ ∀ c ∈ l.name.toList, Text.isBlank c = false ∧ c ≠ ':' ∧ c ≠ ';' := by
  have hall : l.name.toList.all (fun c => !Text.isBlank c && c != ':' && c != ';') = true := by
    cases l <;> decide
  refine ⟨by cases l <;> decide, fun c hc => ?_⟩
  simpa [and_assoc] using List.all_eq_true.1 hall c hc

namespace Filter

/-! ## Reading a rendered rule -/

/-- What stands between the braces of a rendered rule. -/
def renderNames (t : Target) : List Char :=
  if t.scope = Target.any then t.topic.toList
  else (if t.topic = Target.any then [] else t.topic.toList) ++ ':' :: t.scope.toList

/-- A rule is printed as its level, followed by its names in braces unless it covers everything. -/
theorem toList_renderRule (t : Target) (l : Level) :
    (renderRule t l).toList =
      if t = .everything then l.name.toList
      else l.name.toList ++ ':' :: ('\x7b' :: (renderNames t ++ ['\x7d'])) := by
  -- only the target of two wildcards covers everything
  have heverything : t = .everything ↔ t.topic = Target.any ∧ t.scope = Target.any :=
    ⟨fun h => by simp [h, Target.everything], fun h => Target.ext_names (by simp [h.1, Target.everything])
      (by simp [h.2, Target.everything])⟩
  unfold renderRule renderNames
  by_cases ht : t.topic = Target.any <;> by_cases hs : t.scope = Target.any <;>
    simp [heverything, ht, hs]

/-- A target is made of the texts of its names. -/
theorem targetOf_eq {topic scope : List Char} {t : Target}
    (ht : Target.name (String.ofList topic) = t.topic) (hs : Target.name (String.ofList scope) = t.scope) :
    targetOf topic scope = t := by
  apply Target.ext_names
  · rw [targetOf, Target.topic_of, ht]
  · rw [targetOf, Target.scope_of, hs]

/-- The braces come off again, and the names between them are the target's. -/
theorem targets_renderNames {t : Target} (h : t.IsPlain) :
    targets ('\x7b' :: (renderNames t ++ ['\x7d'])) = [t] := by
  -- the braces are no blanks, so trimming keeps them
  have htrim : Text.trimList ('\x7b' :: (renderNames t ++ ['\x7d']))
      = '\x7b' :: (renderNames t ++ ['\x7d']) := by
    refine Text.trimList_of_ends (fun c hc => ?_) fun c hc => ?_
    · obtain rfl : '\x7b' = c := by simpa using hc
      decide
    · obtain rfl : '\x7d' = c := by simpa [List.getLast?_cons] using hc
      decide
  have hbraces : unbrace ('\x7b' :: (renderNames t ++ ['\x7d'])) = renderNames t := by
    simp [unbrace]
  rw [targets, htrim, hbraces]
  unfold renderNames
  by_cases hs : t.scope = Target.any
  · -- no scope is written, and the topic has no colon to end it
    have htarget : targetOf t.topic.toList Target.any.toList = t :=
      targetOf_eq (by simp [t.topic_name]) (by simp [hs])
    simp only [if_pos hs, Text.splitOnce?_of_notMem h.topic_colon, htarget]
  · -- a scope is written behind a colon, the first one, as the topic has none
    have hcolon : ':' ∉ (if t.topic = Target.any then [] else t.topic.toList) := by
      split
      · simp
      · exact h.topic_colon
    have htarget : targetOf (if t.topic = Target.any then [] else t.topic.toList) t.scope.toList = t := by
      refine targetOf_eq ?_ (by simp [t.scope_name])
      by_cases ht : t.topic = Target.any <;> simp [ht, t.topic_name]
    simp only [if_neg hs, Text.splitOnce?_append_cons _ hcolon,
      Target.not_isBlankList_of_name t.scope_name, Bool.false_eq_true, if_false,
      Text.split_of_notMem h.scope_comma, List.map_cons, List.map_nil, htarget]

/-- Reading a rendered rule gives the rule. -/
theorem clause_renderRule {t : Target} (h : t.IsPlain) (l : Level) :
    clause (renderRule t l).toList = [(t, l)] := by
  have hcolon : ':' ∉ l.name.toList := fun hc => (l.name_chars.2 _ hc).2.1 rfl
  rw [toList_renderRule]
  -- the target that covers everything is not written, so there is no colon
  by_cases ht : t = .everything
  · rw [if_pos ht, clause, Text.splitOnce?_of_notMem hcolon]
    simp [ht]
  · rw [if_neg ht, clause, Text.splitOnce?_append_cons _ hcolon]
    simp [targets_renderNames h]

/-- A rendered rule has no blanks around it and no semicolon in it. -/
theorem renderRule_chars {t : Target} (h : t.IsPlain) (l : Level) :
    (renderRule t l).toList ≠ [] ∧ Text.trimList (renderRule t l).toList = (renderRule t l).toList ∧
      ';' ∉ (renderRule t l).toList := by
  obtain ⟨hne, hchars⟩ := l.name_chars
  have hnames : ';' ∉ renderNames t := by
    unfold renderNames
    split
    · exact h.topic_clause
    · split <;> simp [h.topic_clause, h.scope_clause]
  have hsemi : ';' ∉ l.name.toList := fun hc => (hchars _ hc).2.2 rfl
  obtain ⟨a, as, hcons⟩ := List.exists_cons_of_ne_nil hne
  rw [toList_renderRule]
  split
  next =>
    -- it starts and ends with a letter of the level
    refine ⟨hne, Text.trimList_of_ends (fun c hc => ?_) (fun c hc => ?_), hsemi⟩
    · exact (hchars c (List.mem_of_head? hc)).1
    · exact (hchars c (List.mem_of_getLast? hc)).1
  next =>
    -- it starts with a letter of the level and ends with a brace
    refine ⟨by simp, Text.trimList_of_ends (fun c hc => ?_) (fun c hc => ?_), by simp [hsemi, hnames]⟩
    · obtain rfl : a = c := by simpa [hcons] using hc
      exact (hchars a (by simp [hcons])).1
    · obtain rfl : '\x7d' = c := by simpa [List.getLast?_append, List.getLast?_cons] using hc
      decide

/-! ## Reading a rendered filter -/

/-- A filter is printed as its rules, with semicolons between them. -/
theorem toList_render (f : Filter) :
    f.render.toList = Text.join ';' (f.rules.map fun r => (renderRule r.1 r.2).toList) := by
  rw [render, show ";" = String.singleton ';' from rfl, Text.toList_intercalate, List.map_map]
  rfl

/-- A blank pattern has no clauses. -/
theorem clauses_of_isBlankList {text : List Char} (h : Text.isBlankList text = true) : clauses text = [] := by
  rw [clauses, List.filter_eq_nil_iff]
  intro c hc
  obtain ⟨part, hpart, rfl⟩ := List.mem_map.1 hc
  have hblank : Text.isBlankList part = true :=
    List.all_eq_true.2 fun d hd => List.all_eq_true.1 h d ((Text.mem_split hpart).2 d hd)
  simp [Text.trimList_of_isBlankList hblank]

/-- The pattern of a filter with plain names assigns its rules in order. -/
theorem assignments_render {f : Filter} (hne : f.rules ≠ []) (hplain : ∀ r ∈ f.rules, r.1.IsPlain) :
    assignments f.render.toList = f.rules := by
  have hchars : ∀ r ∈ f.rules, _ := fun r hr => renderRule_chars (hplain r hr) r.2
  -- no rule has a semicolon, so the pattern is split where it was joined
  have hsplit : Text.split ';' f.render.toList = f.rules.map fun r => (renderRule r.1 r.2).toList := by
    rw [toList_render, Text.split_join (by simpa using hne)]
    intro part hpart
    obtain ⟨r, hr, rfl⟩ := List.mem_map.1 hpart
    exact (hchars r hr).2.2
  have hclauses : clauses f.render.toList = f.rules.map fun r => (renderRule r.1 r.2).toList := by
    rw [clauses, hsplit, List.map_map, List.filter_eq_self.2]
    · exact List.map_congr_left fun r hr => (hchars r hr).2.1
    · intro part hpart
      obtain ⟨r, hr, rfl⟩ := List.mem_map.1 hpart
      simpa [(hchars r hr).2.1] using (hchars r hr).1
  -- a blank pattern would have no clauses, but there is a rule
  have hblank : Text.isBlankList f.render.toList = false := by
    rw [Bool.eq_false_iff]
    intro hblank
    rw [clauses_of_isBlankList hblank] at hclauses
    exact hne (List.map_eq_nil_iff.1 hclauses.symm)
  rw [assignments, hblank, if_neg Bool.false_ne_true, hclauses, List.flatMap_map]
  calc f.rules.flatMap (fun r => clause (renderRule r.1 r.2).toList)
      = (f.rules.map fun r => clause (renderRule r.1 r.2).toList).flatten := rfl
    _ = (f.rules.map fun r => [r]).flatten := by
        rw [List.map_congr_left fun r hr => clause_renderRule (hplain r hr) r.2]
    _ = f.rules := List.flatMap_singleton' _

/-! ## What patterns assign -/

/-- Taking the braces off adds no character. -/
theorem mem_of_mem_unbrace {cs : List Char} {c : Char} (h : c ∈ unbrace cs) : c ∈ cs := by
  have hdrop : ∀ {d : Char}, d ∈ (if cs.head? = some '\x7b' then cs.drop 1 else cs) → d ∈ cs := by
    intro d hd
    split at hd
    next => exact List.mem_of_mem_drop hd
    next => exact hd
  unfold unbrace at h
  extract_lets ds at h
  split at h
  next => exact hdrop ((List.dropLast_sublist ds).subset h)
  next => exact hdrop h

/-- The wildcard has none of the separators. -/
theorem any_chars : ';' ∉ Target.any.toList ∧ ':' ∉ Target.any.toList ∧ ',' ∉ Target.any.toList := by
  decide

/-- A name has no separator its text does not have. -/
theorem notMem_name {cs : List Char} {c : Char} (h : c ∉ cs) (hany : c ∉ Target.any.toList) :
    c ∉ (Target.name (String.ofList cs)).toList := by
  intro hmem
  rcases Target.mem_of_mem_name hmem with h' | h'
  · exact h (by simpa using h')
  · exact hany h'

/-- A target that is made of texts without separators can be written. -/
theorem isPlain_targetOf {topic scope : List Char} (ht : ';' ∉ topic) (ht' : ':' ∉ topic) (hs : ';' ∉ scope)
    (hs' : ',' ∉ scope) : (targetOf topic scope).IsPlain := by
  have htopic : (targetOf topic scope).topic = Target.name (String.ofList topic) := Target.topic_of _ _
  have hscope : (targetOf topic scope).scope = Target.name (String.ofList scope) := Target.scope_of _ _
  constructor
  · rw [htopic]
    exact notMem_name ht any_chars.1
  · rw [htopic]
    exact notMem_name ht' any_chars.2.1
  · rw [hscope]
    exact notMem_name hs any_chars.1
  · rw [hscope]
    exact notMem_name hs' any_chars.2.2

/-- The target that covers everything can be written. -/
theorem isPlain_everything : Target.everything.IsPlain := by
  constructor <;> decide

/-- The names written in a clause are plain. -/
theorem isPlain_of_mem_targets {text : List Char} (h : ';' ∉ text) {t : Target} (ht : t ∈ targets text) :
    t.IsPlain := by
  have hbody : ';' ∉ unbrace (Text.trimList text) :=
    fun hc => h (Text.mem_of_mem_trimList (mem_of_mem_unbrace hc))
  rw [targets] at ht
  -- only that the text between the braces has no semicolon matters from here on
  generalize unbrace (Text.trimList text) = body at hbody ht
  cases hcut : Text.splitOnce? ':' body with
  | none =>
    simp only [hcut, List.mem_singleton] at ht
    rw [ht]
    -- there is no colon at all, so the whole is the topic
    exact isPlain_targetOf hbody (Text.notMem_of_splitOnce?_eq_none hcut) any_chars.1 any_chars.2.2
  | some cut =>
    obtain ⟨topic, scopes⟩ := cut
    obtain ⟨rfl, hcolon⟩ := Text.eq_of_splitOnce?_eq_some hcut
    have htopic : ';' ∉ topic := fun hc => hbody (by simp [hc])
    have hscopes : ';' ∉ scopes := fun hc => hbody (by simp [hc])
    simp only [hcut] at ht
    split at ht
    next =>
      rw [List.mem_singleton.1 ht]
      -- the scopes are blank, which stands for the wildcard
      exact isPlain_targetOf htopic hcolon any_chars.1 any_chars.2.2
    next =>
      obtain ⟨scope, hscope, rfl⟩ := List.mem_map.1 ht
      obtain ⟨hcomma, hsub⟩ := Text.mem_split hscope
      -- a part between commas has no comma
      exact isPlain_targetOf htopic hcolon (fun hc => hscopes (hsub _ hc)) hcomma

/-- A pattern assigns levels to plain names only. -/
theorem isPlain_of_mem_assignments {text : List Char} {r : Target × Level} (h : r ∈ assignments text) :
    r.1.IsPlain := by
  rw [assignments] at h
  split at h
  next =>
    -- a blank pattern stands for one rule that covers everything
    rw [List.mem_singleton.1 h]
    exact isPlain_everything
  next =>
    obtain ⟨c, hc, hr⟩ := List.mem_flatMap.1 h
    obtain ⟨part, hpart, rfl⟩ := List.mem_map.1 (List.mem_filter.1 hc).1
    -- a clause is a part between semicolons, so it has none
    have hsemi : ';' ∉ Text.trimList part :=
      fun hmem => (Text.mem_split hpart).1 (Text.mem_of_mem_trimList hmem)
    generalize Text.trimList part = text at hsemi hr
    rw [clause] at hr
    split at hr
    next =>
      rw [List.mem_singleton.1 hr]
      exact isPlain_everything
    next name rest hcut =>
      obtain ⟨t, ht, rfl⟩ := List.mem_map.1 hr
      obtain ⟨rfl, -⟩ := Text.eq_of_splitOnce?_eq_some hcut
      exact isPlain_of_mem_targets (fun hmem => hsemi (by simp [hmem])) ht

/-- What a pattern reads as is normal. -/
theorem normal_parse (text : String) : (parse text).Normal := normal_empty.setAll _

/-- The rules of a filter read from a pattern are among the assignments of the pattern. -/
theorem isPlain_of_mem_rules_parse {text : String} {r : Target × Level} (h : r ∈ (parse text).rules) :
    r.1.IsPlain := by
  have hrule := (normal_parse text).mem_rules.1 h
  rw [parse, rule?_setAll, rule?_empty, Option.or_none] at hrule
  obtain ⟨a, ha, -⟩ := Option.map_eq_some_iff.1 hrule
  obtain ⟨ht, hs⟩ : r.1.topic = a.1.topic ∧ r.1.scope = a.1.scope := by simpa using List.find?_some ha
  rw [Target.ext_names ht hs]
  exact isPlain_of_mem_assignments (List.mem_reverse.1 (List.mem_of_find?_eq_some ha))

/-! ## The round trip -/

/-- A normal filter with a rule and with plain names is what its pattern describes. -/
theorem Normal.parse_render {f : Filter} (hf : f.Normal) (hne : f.rules ≠ []) (hplain : ∀ r ∈ f.rules, r.1.IsPlain) :
    parse f.render = f := by
  rw [parse, assignments_render hne hplain, setAll_rules hf]

/-- A normal filter comes back exactly if it has a rule and its names are plain. -/
theorem Normal.beq_parse_render {f : Filter} (hf : f.Normal) :
    (parse f.render == f) = true ↔ f.isEmpty = false ∧ ∀ r ∈ f.rules, r.1.IsPlain := by
  -- the rules decide equality, and those that are read can all be written
  have hbeq : (parse f.render == f) = true ↔ (parse f.render).rules = f.rules :=
    beq_iff_eq (a := (parse f.render).rules)
  rw [hbeq, isEmpty, List.isEmpty_eq_false_iff]
  constructor
  · intro h
    refine ⟨fun hnil => ?_, fun r hr => isPlain_of_mem_rules_parse (h ▸ hr)⟩
    -- without rules the pattern is blank, which stands for a default of its own
    have hrender : f.render = "" := by rw [render, hnil]; rfl
    rw [hrender, hnil] at h
    exact absurd h (by decide)
  · rintro ⟨hne, hplain⟩
    rw [hf.parse_render hne hplain]

/-- **Which filters come back.**  Whatever edits lead to a filter, reading its pattern gives the filter back
exactly if it has a rule, no topic holds `;` or `:` and no scope holds `;` or `,`.  A filter that was read from
a text comes back exactly if it is not empty. -/
theorem parse_render_iff (edits : List Edit) (text : String) :
    ((parse (edited edits).render == edited edits) = true ↔
      (edited edits).isEmpty = false ∧ ∀ r ∈ (edited edits).rules,
        (';' ∉ r.1.topic.toList ∧ ':' ∉ r.1.topic.toList) ∧ ';' ∉ r.1.scope.toList ∧ ',' ∉ r.1.scope.toList) ∧
    (parse (parse text).render == parse text) = !(parse text).isEmpty := by
  have hplain : ∀ t : Target, t.IsPlain ↔
      (';' ∉ t.topic.toList ∧ ':' ∉ t.topic.toList) ∧ ';' ∉ t.scope.toList ∧ ',' ∉ t.scope.toList :=
    fun t => ⟨fun h => ⟨⟨h.1, h.2⟩, h.3, h.4⟩, fun h => ⟨h.1.1, h.1.2, h.2.1, h.2.2⟩⟩
  refine ⟨?_, ?_⟩
  · simpa only [hplain] using (normal_edited edits).beq_parse_render
  · have hiff := (normal_parse text).beq_parse_render
    rw [Bool.eq_iff_iff, hiff, Bool.not_eq_true']
    exact ⟨fun h => h.1, fun h => ⟨h, fun r hr => isPlain_of_mem_rules_parse hr⟩⟩

end Filter

end Logbook
