import Logbook.Proofs.Filter.Lookup
import Logbook.Proofs.Filter.RoundTrip
import Mathlib.Data.List.TakeWhile

/-!
# The grammar of filter patterns

A pattern is written as clauses with `;` between them (`Filter.Clause`).  Blanks may stand around every token of a
clause (`Filter.Written`), and among the clauses there may be blank pieces (`Filter.Pieces`).  Each clause stands for
assignments, one for each of its scopes.  Reading a pattern makes these assignments and no others.

## Key results

- `Filter.clause_written`: what a written clause assigns, whatever its blanks
- `Filter.parse_pieces`: the filter of a written pattern is the one that its assignments make
- `Filter.assignments_append`: patterns in a row assign one after the other
- `Filter.level_parse_pieces`: what a written pattern asks of a topic and a scope
-/

namespace Logbook

/-! ## Blanks around a token -/

namespace Text

/-- The text is the token with blanks around it. -/
def Padded (token text : List Char) : Prop :=
  ∃ before after, isBlankList before = true ∧ isBlankList after = true ∧ text = before ++ token ++ after

/-- A text with something in it that is not blank is not blank. -/
theorem isBlankList_eq_false {cs : List Char} {c : Char} (hmem : c ∈ cs) (hc : isBlank c = false) :
    isBlankList cs = false := by
  rw [isBlankList, List.all_eq_false]
  exact ⟨c, hmem, by simp [hc]⟩

/-- Trimming the start takes off blanks. -/
theorem padded_trimLeft (cs : List Char) : Padded (trimLeft cs) cs :=
  ⟨cs.takeWhile isBlank, [], List.all_takeWhile, rfl, by
    rw [List.append_nil, trimLeft, List.takeWhile_append_dropWhile]⟩

/-- Trimming the end takes off blanks. -/
theorem padded_trimRight (cs : List Char) : Padded (trimRight cs) cs :=
  ⟨[], (cs.reverse.takeWhile isBlank).reverse, rfl, by rw [isBlankList, List.all_reverse, List.all_takeWhile], by
    rw [List.nil_append, trimRight, ← List.reverse_append, List.takeWhile_append_dropWhile, List.reverse_reverse]⟩

namespace Padded

variable {token text : List Char}

/-- Blanks around blanks are blanks. -/
theorem trans {outer : List Char} (h : Padded token text) (houter : Padded text outer) : Padded token outer := by
  obtain ⟨before, after, hbefore, hafter, rfl⟩ := h
  obtain ⟨before', after', hbefore', hafter', rfl⟩ := houter
  refine ⟨before' ++ before, after ++ after', ?_, ?_, by simp only [List.append_assoc]⟩
  · rw [isBlankList, List.all_append, ← isBlankList, ← isBlankList, hbefore, hbefore', Bool.and_true]
  · rw [isBlankList, List.all_append, ← isBlankList, ← isBlankList, hafter, hafter', Bool.and_true]

/-- Blanks at the ends do not change what is left when they are taken off. -/
theorem trimList_eq (h : Padded token text) : trimList text = trimList token := by
  obtain ⟨before, after, hbefore, hafter, rfl⟩ := h
  have hleft : trimLeft (before ++ (token ++ after)) = trimLeft (token ++ after) :=
    List.dropWhile_append_of_pos (List.all_eq_true.1 hbefore)
  -- blanks at the end go first, whatever stands before them
  have hright : ∀ cs, trimRight (cs ++ after) = trimRight cs := by
    intro cs
    rw [trimRight, List.reverse_append, List.dropWhile_append_of_pos, trimRight]
    exact fun c hc => List.all_eq_true.1 hafter c (List.mem_reverse.1 hc)
  rw [trimList, List.append_assoc, hleft, trimLeft, List.dropWhile_append, trimList, trimLeft]
  split
  next hnil =>
    -- of the token nothing is left, and so nothing of what stands behind it
    rw [List.isEmpty_iff.1 hnil, List.dropWhile_eq_nil_iff.2 (List.all_eq_true.1 hafter)]
  next => exact hright _

/-- What is no blank stands in the text only if it does in the token. -/
theorem notMem (h : Padded token text) {c : Char} (hc : isBlank c = false) (htoken : c ∉ token) : c ∉ text := by
  obtain ⟨before, after, hbefore, hafter, rfl⟩ := h
  have hblank : ∀ cs : List Char, isBlankList cs = true → c ∉ cs := by
    intro cs hcs hmem
    rw [isBlankList_eq_false hmem hc] at hcs
    cases hcs
  simp only [List.mem_append, not_or]
  exact ⟨⟨hblank _ hbefore, htoken⟩, hblank _ hafter⟩

/-- A text is blank if it is blank without the blanks around it. -/
theorem isBlankList_eq (h : Padded token text) : isBlankList text = isBlankList token := by
  obtain ⟨before, after, hbefore, hafter, rfl⟩ := h
  rw [isBlankList, List.all_append, List.all_append, ← isBlankList, ← isBlankList, ← isBlankList, hbefore, hafter,
    Bool.true_and, Bool.and_true]

end Padded

/-- Trimming takes off blanks at both ends. -/
theorem padded_trimList (cs : List Char) : Padded (trimList cs) cs :=
  (padded_trimRight _).trans (padded_trimLeft cs)

/-- Trimming leaves nothing exactly of a blank text. -/
theorem isEmpty_trimList (cs : List Char) : (trimList cs).isEmpty = isBlankList cs := by
  rw [(padded_trimList cs).isBlankList_eq]
  cases h : trimList cs with
  | nil => rfl
  | cons c rest =>
    rw [isBlankList_eq_false List.mem_cons_self (head?_trimList (by rw [h]; rfl))]
    rfl

/-- A separator between two texts splits them. -/
theorem split_append (sep : Char) (a b : List Char) : split sep (a ++ sep :: b) = split sep a ++ split sep b := by
  induction a with
  | nil => simp [split]
  | cons c a ih =>
    rw [List.cons_append, split, split, ih]
    split
    · rfl
    · -- the first part of the longer text goes on in front of the others
      obtain ⟨part, parts, hparts⟩ := List.exists_cons_of_ne_nil (split_ne_nil sep a)
      rw [hparts]
      rfl

/-- What is in joined parts is the separator or in one of them. -/
theorem mem_join {sep c : Char} {parts : List (List Char)} (h : c ∈ join sep parts) :
    c = sep ∨ ∃ part ∈ parts, c ∈ part := by
  fun_induction join sep parts with
  | case1 => cases h
  | case2 part => exact .inr ⟨part, List.mem_singleton_self part, h⟩
  | case3 part parts _ ih =>
    rcases List.mem_append.1 h with h | h
    · exact .inr ⟨part, List.mem_cons_self, h⟩
    rcases List.mem_cons.1 h with h | h
    · exact .inl h
    · obtain h | ⟨p, hp, h⟩ := ih h
      · exact .inl h
      · exact .inr ⟨p, List.mem_cons_of_mem _ hp, h⟩

end Text

open Text (Padded)

/-! ## Padded names -/

/-- Blanks around a name do not matter. -/
theorem Target.name_padded {token : String} {text : List Char} (h : Padded token.toList text) :
    name (String.ofList text) = name token := by
  rw [name, name, Text.trim, Text.trim, String.toList_ofList, h.trimList_eq]

/-- A blank name is the wildcard. -/
theorem Target.name_of_isBlankList {text : List Char} (h : Text.isBlankList text = true) :
    name (String.ofList text) = any := by
  rw [name, Text.trim, String.toList_ofList, Text.trimList_of_isBlankList h]
  rfl

/-- Blanks around the name of a level do not matter. -/
theorem Level.ofName_padded {token : String} {text : List Char} (h : Padded token.toList text) :
    ofName (String.ofList text) = ofName token := by
  rw [ofName, ofName, Text.trim, Text.trim, String.toList_ofList, h.trimList_eq]

/-- A name of no level means `never`. -/
theorem Level.ofName_of_unknown {name : String} (h : ∀ l : Level, Text.upper (Text.trim name) ≠ l.name)
    (hwarning : Text.upper (Text.trim name) ≠ "WARNING") : ofName name = never := by
  -- each name that is read is the name of a level, but for one
  have hexact : ∀ s : String, (∀ l : Level, s ≠ l.name) → s ≠ "WARNING" → ofExactName s = never := by
    intro s hs hw
    unfold ofExactName
    split
    · exact absurd rfl (hs .unset)
    · exact absurd rfl (hs .trace)
    · exact absurd rfl (hs .debug)
    · exact absurd rfl (hs .info)
    · exact absurd rfl (hs .warn)
    · exact absurd rfl hw
    · exact absurd rfl (hs .error)
    · exact absurd rfl (hs .fatal)
    · exact absurd rfl (hs .always)
    · rfl
  exact hexact _ h hwarning

namespace Filter

/-! ## Written patterns -/

/-- A clause of a pattern: a level for everything, for all scopes of a topic, or for some of them. -/
inductive Clause where
  | everything (level : String)
  | allScopes (level topic : String)
  | scopes (level topic scope : String) (more : List String)

namespace Clause

/-- What a clause assigns. -/
def entries : Clause → List Assignment
  | everything level => [⟨Level.ofName level, Target.any, Target.any⟩]
  | allScopes level topic => [⟨Level.ofName level, topic, Target.any⟩]
  | scopes level topic scope more => (scope :: more).map fun scope => ⟨Level.ofName level, topic, scope⟩

/-- No name of the clause holds a character that would end it, and a level that stands alone is not blank. -/
def IsPlain : Clause → Prop
  | everything level => (';' ∉ level.toList ∧ ':' ∉ level.toList) ∧ Text.isBlankList level.toList = false
  | allScopes level topic =>
    (';' ∉ level.toList ∧ ':' ∉ level.toList) ∧ ';' ∉ topic.toList ∧ ':' ∉ topic.toList
  | scopes level topic scope more =>
    (';' ∉ level.toList ∧ ':' ∉ level.toList) ∧ (';' ∉ topic.toList ∧ ':' ∉ topic.toList) ∧
      ∀ s ∈ scope :: more, ';' ∉ s.toList ∧ ',' ∉ s.toList

instance : DecidablePred IsPlain
  | everything _ => inferInstanceAs (Decidable (_ ∧ _))
  | allScopes _ _ => inferInstanceAs (Decidable (_ ∧ _))
  | scopes _ _ _ _ => inferInstanceAs (Decidable (_ ∧ _))

end Clause

/-- The names of a clause in their braces, and blanks around these. -/
def Braced (names text : List Char) : Prop := Padded ('\x7b' :: (names ++ ['\x7d'])) text

/-- How a clause may be written: with blanks around every token. -/
inductive Written : Clause → List Char → Prop where
  | everything {level : String} {text : List Char} (hlevel : Padded level.toList text) :
    Written (.everything level) text
  | allScopes {level topic : String} {before names behind : List Char} (hlevel : Padded level.toList before)
    (htopic : Padded topic.toList names) (hbraced : Braced names behind) :
    Written (.allScopes level topic) (before ++ ':' :: behind)
  | scopes {level topic scope : String} {more : List String} {before names behind : List Char}
    {parts : List (List Char)} (hlevel : Padded level.toList before) (htopic : Padded topic.toList names)
    (hscopes : List.Forall₂ (fun scope part => Padded scope.toList part) (scope :: more) parts)
    (hbraced : Braced (names ++ ':' :: Text.join ',' parts) behind) :
    Written (.scopes level topic scope more) (before ++ ':' :: behind)

/-- The pieces between the semicolons of a pattern: its clauses in order, and blank pieces. -/
inductive Pieces : List Clause → List (List Char) → Prop where
  | nil : Pieces [] []
  | blank {cs : List Clause} {piece : List Char} {pieces : List (List Char)}
    (hpiece : Text.isBlankList piece = true) (hrest : Pieces cs pieces) : Pieces cs (piece :: pieces)
  | clause {c : Clause} {cs : List Clause} {piece : List Char} {pieces : List (List Char)}
    (hpiece : Written c piece) (hrest : Pieces cs pieces) : Pieces (c :: cs) (piece :: pieces)

/-! ## Reading a clause -/

/-- Blanks around the names of a target do not matter. -/
theorem targetOf_padded {topic scope : String} {names part : List Char} (htopic : Padded topic.toList names)
    (hscope : Padded scope.toList part) : targetOf names part = .of topic scope :=
  targetOf_eq (by rw [Target.name_padded htopic, Target.topic_of])
    (by rw [Target.name_padded hscope, Target.scope_of])

/-- Braces are taken off. -/
theorem unbrace_braced (names : List Char) : unbrace ('\x7b' :: (names ++ ['\x7d'])) = names := by
  simp [unbrace]

/-- Blanks around a braced text do not count, and the braces come off. -/
theorem Braced.unbrace_trimList {names text : List Char} (h : Braced names text) :
    unbrace (Text.trimList text) = names := by
  rw [Padded.trimList_eq h, Text.trimList_of_ends, unbrace_braced]
  · rintro c hc
    obtain rfl : '\x7b' = c := by simpa using hc
    decide
  · rintro c hc
    obtain rfl : '\x7d' = c := by simpa [List.getLast?_cons] using hc
    decide

/-- What stands behind the colon is read as a list of scopes, a blank list too: it has one scope, which is blank and so
stands for any. -/
theorem targets_of_colon {text topic scopes : List Char} (hcolon : ':' ∉ topic)
    (h : unbrace (Text.trimList text) = topic ++ ':' :: scopes) :
    targets text = (Text.split ',' scopes).map (targetOf topic) := by
  simp only [targets, h, Text.splitOnce?_append_cons _ hcolon]
  split
  next hblank =>
    -- blank scopes have no comma, so they are one scope, and it is the wildcard
    have hcomma : ',' ∉ scopes := fun hmem => by
      rw [Text.isBlankList_eq_false hmem (by decide)] at hblank
      cases hblank
    have hany : targetOf topic Target.any.toList = targetOf topic scopes := by
      refine targetOf_eq (Target.topic_of _ _).symm ?_
      rw [targetOf, Target.scope_of, Target.name_of_isBlankList hblank, String.ofList_toList, Target.name_any]
    rw [Text.split_of_notMem hcomma, hany]
    rfl
  next => rfl

/-- Of a clause that names a level and targets, each target is given the level. -/
theorem clause_of_colon {level : String} {before behind : List Char} (hlevel : Padded level.toList before)
    (hcolon : ':' ∉ level.toList) :
    clause (before ++ ':' :: behind) = (targets behind).map fun t => (t, Level.ofName level) := by
  rw [clause, Text.splitOnce?_append_cons _ (hlevel.notMem (by decide) hcolon)]
  simp only [Level.ofName_padded hlevel]

/-- In the list of scopes no character is added but blanks. -/
theorem notMem_parts {scopes : List String} {parts : List (List Char)}
    (h : List.Forall₂ (fun scope part => Padded scope.toList part) scopes parts) {c : Char}
    (hc : Text.isBlank c = false) (hscopes : ∀ scope ∈ scopes, c ∉ scope.toList) : ∀ part ∈ parts, c ∉ part := by
  induction h with
  | nil => simp
  | cons hpart _ ih =>
    rw [List.forall_mem_cons] at hscopes ⊢
    exact ⟨hpart.notMem hc hscopes.1, ih hscopes.2⟩

/-- Parts with blanks around them are read as the scopes. -/
theorem map_targetOf_parts {topic : String} {names : List Char} (htopic : Padded topic.toList names)
    {scopes : List String} {parts : List (List Char)}
    (h : List.Forall₂ (fun scope part => Padded scope.toList part) scopes parts) :
    parts.map (targetOf names) = scopes.map (Target.of topic) := by
  induction h with
  | nil => rfl
  | cons hpart _ ih => rw [List.map_cons, List.map_cons, ih, targetOf_padded htopic hpart]

/-- Reading a written clause gives what the clause assigns. -/
theorem clause_written {c : Clause} {text : List Char} (h : Written c text) (hplain : c.IsPlain) :
    clause text = c.entries.map fun a => (a.target, a.level) := by
  cases h with
  -- without a colon the clause is the level alone
  | everything hlevel =>
    have hcolon := hlevel.notMem (c := ':') (by decide) hplain.1.2
    rw [clause, Text.splitOnce?_of_notMem hcolon]
    simp only [Level.ofName_padded hlevel, Clause.entries, Assignment.target, Target.everything, List.map_cons,
      List.map_nil]
  | allScopes hlevel htopic hbraced =>
    -- without a second colon the braces hold the topic alone
    obtain ⟨⟨-, hcolon⟩, -, hcolon'⟩ := hplain
    have hnames := htopic.notMem (c := ':') (by decide) hcolon'
    have hany : Padded Target.any.toList Target.any.toList := ⟨[], [], rfl, rfl, by simp⟩
    rw [clause_of_colon hlevel hcolon, targets, hbraced.unbrace_trimList]
    simp only [Text.splitOnce?_of_notMem hnames, targetOf_padded htopic hany, Clause.entries, Assignment.target,
      List.map_cons, List.map_nil]
  | @scopes level topic scope more _ names _ parts hlevel htopic hscopes hbraced =>
    obtain ⟨⟨-, hcolon⟩, ⟨-, hcolon'⟩, hmore⟩ := hplain
    have hnames := htopic.notMem (c := ':') (by decide) hcolon'
    -- the commas that join the scopes are the only ones behind the second colon
    have hparts : parts ≠ [] := by
      rintro rfl
      cases hscopes
    have hcomma := notMem_parts hscopes (c := ',') (by decide) fun s hs => (hmore s hs).2
    rw [clause_of_colon hlevel hcolon, targets_of_colon hnames hbraced.unbrace_trimList,
      Text.split_join hparts hcomma, map_targetOf_parts htopic hscopes]
    simp only [Clause.entries, List.map_map, Function.comp_def, Assignment.target]

/-- No clause has a semicolon in it. -/
theorem semicolon_notMem_written {c : Clause} {text : List Char} (h : Written c text) (hplain : c.IsPlain) :
    ';' ∉ text := by
  cases h with
  | everything hlevel => exact hlevel.notMem (by decide) hplain.1.1
  | allScopes hlevel htopic hbraced =>
    obtain ⟨⟨hsemi, -⟩, hsemi', -⟩ := hplain
    have hnames := htopic.notMem (c := ';') (by decide) hsemi'
    have hbehind := Padded.notMem (c := ';') hbraced (by decide) (by simp [hnames])
    simp [hlevel.notMem (by decide) hsemi, hbehind]
  | @scopes level topic scope more _ names _ parts hlevel htopic hscopes hbraced =>
    obtain ⟨⟨hsemi, -⟩, ⟨hsemi', -⟩, hmore⟩ := hplain
    have hnames := htopic.notMem (c := ';') (by decide) hsemi'
    have hparts := notMem_parts hscopes (c := ';') (by decide) fun s hs => (hmore s hs).1
    have hjoin : ';' ∉ Text.join ',' parts := fun hmem => by
      -- a semicolon between the scopes would be a comma, or in one of them
      rcases Text.mem_join hmem with h | ⟨part, hpart, h⟩
      · exact absurd h (by decide)
      · exact hparts part hpart h
    have hbehind := Padded.notMem (c := ';') hbraced (by decide) (by simp [hnames, hjoin])
    simp [hlevel.notMem (by decide) hsemi, hbehind]

/-- No clause is blank. -/
theorem not_isBlankList_written {c : Clause} {text : List Char} (h : Written c text) (hplain : c.IsPlain) :
    Text.isBlankList text = false := by
  cases h with
  | everything hlevel => rw [hlevel.isBlankList_eq, hplain.2]
  | allScopes => exact Text.isBlankList_eq_false (c := ':') (by simp) (by decide)
  | scopes => exact Text.isBlankList_eq_false (c := ':') (by simp) (by decide)

/-! ## Reading a pattern -/

/-- Blanks at the ends of a clause do not change what it assigns. -/
theorem clause_padded {text padded : List Char} (h : Padded text padded) : clause padded = clause text := by
  cases hcut : Text.splitOnce? ':' text with
  | none =>
    -- blanks are no colons, so there is none in the padded clause either
    have hcolon := h.notMem (c := ':') (by decide) (Text.notMem_of_splitOnce?_eq_none hcut)
    simp only [clause, hcut, Text.splitOnce?_of_notMem hcolon]
    have htoken : Padded (String.ofList text).toList padded := by rwa [String.toList_ofList]
    rw [Level.ofName_padded htoken]
  | some cut =>
    -- the blanks in front belong to the name of the level, those at the end to the targets
    obtain ⟨name, behind⟩ := cut
    obtain ⟨rfl, hcolon⟩ := Text.eq_of_splitOnce?_eq_some hcut
    obtain ⟨before, after, hbefore, hafter, rfl⟩ := h
    have hname : Padded (String.ofList name).toList (before ++ name) :=
      ⟨before, [], hbefore, rfl, by rw [String.toList_ofList, List.append_nil]⟩
    have hbehind : Padded behind (behind ++ after) := ⟨[], after, rfl, hafter, rfl⟩
    have hcolon' : ':' ∉ (String.ofList name).toList := by rwa [String.toList_ofList]
    have hself : Padded (String.ofList name).toList name := ⟨[], [], rfl, rfl, by simp⟩
    have htext : before ++ (name ++ ':' :: behind) ++ after = (before ++ name) ++ ':' :: (behind ++ after) := by simp
    rw [htext, clause_of_colon hname hcolon', clause_of_colon hself hcolon', targets, hbehind.trimList_eq, targets]

/-- The pieces of a pattern assign one after another, and blank ones assign nothing. -/
theorem assignments_eq_flatMap {text : List Char} (h : Text.isBlankList text = false) :
    assignments text = (Text.split ';' text).flatMap fun piece =>
      if Text.isBlankList piece then [] else clause piece := by
  rw [assignments, if_neg (by simp [h]), clauses]
  -- by induction over the pieces: a blank one is left out, and of the others the blanks at the ends do not matter
  generalize Text.split ';' text = pieces
  induction pieces with
  | nil => rfl
  | cons piece pieces ih =>
    rw [List.map_cons, List.filter_cons, Text.isEmpty_trimList, List.flatMap_cons, ← ih]
    cases Text.isBlankList piece with
    | true => rfl
    | false => simp [clause_padded (Text.padded_trimList piece)]

/-- Patterns in a row assign one after the other. -/
theorem assignments_append {a b : List Char} (ha : Text.isBlankList a = false) (hb : Text.isBlankList b = false) :
    assignments (a ++ ';' :: b) = assignments a ++ assignments b := by
  have hab : Text.isBlankList (a ++ ';' :: b) = false := Text.isBlankList_eq_false (c := ';') (by simp) (by decide)
  rw [assignments_eq_flatMap hab, assignments_eq_flatMap ha, assignments_eq_flatMap hb, Text.split_append,
    List.flatMap_append]

namespace Pieces

variable {cs : List Clause} {pieces : List (List Char)}

/-- No piece has a semicolon in it. -/
theorem semicolon_notMem (h : Pieces cs pieces) (hplain : ∀ c ∈ cs, c.IsPlain) : ∀ piece ∈ pieces, ';' ∉ piece := by
  induction h with
  | nil => simp
  | blank hpiece _ ih =>
    -- a semicolon is not blank
    refine List.forall_mem_cons.2 ⟨fun hmem => ?_, ih hplain⟩
    rw [Text.isBlankList_eq_false hmem (by decide)] at hpiece
    cases hpiece
  | clause hpiece _ ih =>
    rw [List.forall_mem_cons] at hplain
    exact List.forall_mem_cons.2 ⟨semicolon_notMem_written hpiece hplain.1, ih hplain.2⟩

/-- Not all pieces of a pattern with clauses are blank. -/
theorem exists_not_blank (h : Pieces cs pieces) (hne : cs ≠ []) (hplain : ∀ c ∈ cs, c.IsPlain) :
    ∃ piece ∈ pieces, Text.isBlankList piece = false := by
  induction h with
  | nil => exact absurd rfl hne
  | blank _ _ ih =>
    obtain ⟨piece, hmem, hblank⟩ := ih hne hplain
    exact ⟨piece, List.mem_cons_of_mem _ hmem, hblank⟩
  | clause hpiece _ _ =>
    exact ⟨_, List.mem_cons_self, not_isBlankList_written hpiece (hplain _ List.mem_cons_self)⟩

end Pieces

/-- What a written pattern assigns: what its clauses do, in their order. -/
theorem assignments_pieces {cs : List Clause} {pieces : List (List Char)} (h : Pieces cs pieces) (hne : cs ≠ [])
    (hplain : ∀ c ∈ cs, c.IsPlain) :
    assignments (Text.join ';' pieces) = (cs.flatMap Clause.entries).map fun a => (a.target, a.level) := by
  obtain ⟨piece, hmem, hpiece⟩ := h.exists_not_blank hne hplain
  -- splitting at semicolons gives the pieces back, for there is none within a piece
  have hsplit : Text.split ';' (Text.join ';' pieces) = pieces :=
    Text.split_join (List.ne_nil_of_mem hmem) (h.semicolon_notMem hplain)
  have hblank : Text.isBlankList (Text.join ';' pieces) = false := by
    obtain ⟨c, hc, hblank⟩ := List.all_eq_false.1 hpiece
    rw [← hsplit] at hmem
    exact Text.isBlankList_eq_false ((Text.mem_split hmem).2 c hc) (Bool.not_eq_true _ ▸ hblank)
  rw [assignments_eq_flatMap hblank, hsplit]
  clear hsplit hblank hne hmem
  -- by induction over the pieces, each of which is blank or a clause
  induction h with
  | nil => rfl
  | blank hpiece hrest ih => rw [List.flatMap_cons, if_pos hpiece, ih hplain, List.nil_append]
  | @clause c cs piece pieces hpiece hrest ih =>
    have hc := hplain c List.mem_cons_self
    rw [List.flatMap_cons, not_isBlankList_written hpiece hc, if_neg Bool.false_ne_true, clause_written hpiece hc,
      ih fun c hc => hplain c (List.mem_cons_of_mem _ hc), List.flatMap_cons, List.map_append]

/-- The filter of a written pattern is the one that its clauses make. -/
theorem parse_pieces {cs : List Clause} {pieces : List (List Char)} (h : Pieces cs pieces) (hne : cs ≠ [])
    (hplain : ∀ c ∈ cs, c.IsPlain) :
    parse (String.ofList (Text.join ';' pieces)) = assigned (cs.flatMap Clause.entries) := by
  rw [parse, String.toList_ofList, assignments_pieces h hne hplain, assigned_eq_setAll]

/-! ## Patterns in a row -/

/-- Rules can be set in two steps. -/
theorem setAll_append (f : Filter) (older newer : List (Target × Level)) :
    f.setAll (older ++ newer) = (f.setAll older).setAll newer :=
  List.foldl_append

/-- Setting rules one after another is setting the rules of the filter that they make. -/
theorem Normal.setAll_rules_setAll {f : Filter} (hf : f.Normal) (rules : List (Target × Level)) :
    f.setAll (empty.setAll rules).rules = f.setAll rules := by
  -- filters with the same rule for every target are the same, and the rules of a filter make it again
  have hrules := setAll_rules (normal_empty.setAll rules)
  refine (hf.setAll _).ext (hf.setAll _) fun topic scope => ?_
  have hrule : (empty.setAll (empty.setAll rules).rules).rule? topic scope
      = (empty.setAll rules).rule? topic scope := by rw [hrules]
  rw [rule?_setAll, rule?_setAll, rule?_empty, Option.or_none, Option.or_none] at hrule
  rw [rule?_setAll, rule?_setAll, hrule]

/-- The second of two patterns in a row sets its rules on top of those of the first. -/
theorem parse_append {a b : String} (ha : Text.isBlankList a.toList = false)
    (hb : Text.isBlankList b.toList = false) : parse (a ++ ";" ++ b) = (parse a).setAll (parse b).rules := by
  have htext : (a ++ ";" ++ b).toList = a.toList ++ ';' :: b.toList := by simp
  rw [parse, htext, assignments_append ha hb, setAll_append, ← parse, parse, parse,
    (normal_empty.setAll _).setAll_rules_setAll]

/-- The rules of two patterns in a row: those of the second, and those of the first for other targets. -/
theorem mem_rules_parse_append {a b : String} (ha : Text.isBlankList a.toList = false)
    (hb : Text.isBlankList b.toList = false) {t : Target} {level : Level} :
    (t, level) ∈ (parse (a ++ ";" ++ b)).rules ↔
      (t, level) ∈ (parse b).rules ∨ (t, level) ∈ (parse a).rules ∧ ∀ l, (t, l) ∉ (parse b).rules := by
  have hrule : (parse (a ++ ";" ++ b)).rule? t.topic t.scope
      = ((parse b).rule? t.topic t.scope).or ((parse a).rule? t.topic t.scope) := by
    rw [parse_append ha hb, rule?_setAll]
    have hb' := congrArg (fun f => f.rule? t.topic t.scope) (setAll_rules (normal_parse b))
    simp only [rule?_setAll, rule?_empty, Option.or_none] at hb'
    rw [hb']
  simp only [(normal_parse _).mem_rules, hrule, Option.or_eq_some_iff]
  -- without a rule of the second pattern for the target there is none at any level
  cases (parse b).rule? t.topic t.scope with
  | none => simp
  | some l => simp

/-! ## The main result -/

/-- **Patterns mean what their grammar says.**  Write any clauses, with blanks around every token, one or more of them
with semicolons and blank pieces in between.  What the pattern asks of a topic and a scope is the level of the last
assignment, in the order of the clauses and of their scopes, among the most specific ones that cover the topic and the
scope; it is `unset` if none covers them.  A name of no level means `never`.  Of two patterns in a row the rules of the
second are set on top of those of the first. -/
theorem level_parse_pieces :
    (∀ (cs : List Clause) (pieces : List (List Char)), Pieces cs pieces → cs ≠ [] → (∀ c ∈ cs, c.IsPlain) →
      ∀ topic scope : String,
        let entries := cs.flatMap Clause.entries
        let best := mostSpecific (covering entries topic scope)
        (parse (String.ofList (Text.join ';' pieces))).level topic scope
            = (best.getLast?.map (·.level)).getD .unset ∧
          (best = [] ↔ ∀ a ∈ entries, a.target.covers (Target.name topic) (Target.name scope) = false)) ∧
    (∀ name : String, (∀ l : Level, Text.upper (Text.trim name) ≠ l.name) →
      Text.upper (Text.trim name) ≠ "WARNING" → Level.ofName name = .never) ∧
    (∀ a b : String, Text.isBlankList a.toList = false → Text.isBlankList b.toList = false →
      (parse (a ++ ";" ++ b)).rules = ((parse a).setAll (parse b).rules).rules ∧
      ∀ t level, (t, level) ∈ (parse (a ++ ";" ++ b)).rules ↔
        (t, level) ∈ (parse b).rules ∨ (t, level) ∈ (parse a).rules ∧ ∀ l, (t, l) ∉ (parse b).rules) := by
  -- the level of a probe, the names of no level, and two texts in a row
  refine ⟨fun cs pieces hpieces hne hplain topic scope => ?_, fun name => Level.ofName_of_unknown,
    fun a b ha hb => ?_⟩
  · intro entries best
    constructor
    · rw [parse_pieces hpieces hne hplain]
      exact level_mostSpecific entries topic scope
    · rw [mostSpecific_eq_nil_iff, covering, List.filter_eq_nil_iff]
      simp only [Bool.not_eq_true]
  · constructor
    · rw [parse_append ha hb]
    · intro t level
      exact mem_rules_parse_append ha hb

/-- A pattern with blanks and a blank piece, of which two clauses assign to one topic and scope, and what it asks; and
the same pattern behind another one. -/
theorem level_parse_pieces_database :
    let text := " warn\t; ;Debug : \x7b db \x7d ;LOUD:\x7bdb:read , write\x7d;info:\x7bdb:write,*\x7d"
    (parse text).level "db" "read" = .never ∧ (parse text).level "db" " write " = .info ∧
      (parse text).level "db" "drop" = .info ∧ (parse text).level "web" "" = .warn ∧ Level.ofName "LOUD" = .never ∧
      (.of "db" "read", .never) ∈ (parse ("ERROR:\x7bdb:read\x7d" ++ ";" ++ text)).rules := by
  intro text
  obtain ⟨hlevel, hunknown, happend⟩ := level_parse_pieces
  let cs : List Clause :=
    [.everything "warn", .allScopes "Debug" "db", .scopes "LOUD" "db" "read" ["write"],
      .scopes "info" "db" "write" ["*"]]
  let pieces : List (List Char) :=
    [" warn\t".toList, [' '], "Debug ".toList ++ ':' :: " \x7b db \x7d ".toList,
      "LOUD".toList ++ ':' :: "\x7bdb:read , write\x7d".toList, "info".toList ++ ':' :: "\x7bdb:write,*\x7d".toList]
  have hself : ∀ token, Padded token token := fun token => ⟨[], [], rfl, rfl, (List.append_nil token).symm⟩
  have hbehind : ∀ token, Padded token (token ++ [' ']) := fun token => ⟨[], [' '], rfl, by decide, rfl⟩
  have hbefore : ∀ token, Padded token (' ' :: token) :=
    fun token => ⟨[' '], [], by decide, rfl, (List.append_nil _).symm⟩
  have hparts : List.Forall₂ (fun scope part => Padded scope.toList part) ["read", "write"]
      ["read ".toList, " write".toList] := .cons (hbehind _) (.cons (hbefore _) .nil)
  -- the pieces have their own blanks, around levels, names and braces
  have hpieces : Pieces cs pieces := by
    apply Pieces.clause (.everything ⟨[' '], ['\t'], by decide, by decide, by decide⟩)
    apply Pieces.blank (by decide)
    apply Pieces.clause (.allScopes (hbehind _) ((hbehind _).trans (hbefore _)) ((hbehind _).trans (hbefore _)))
    apply Pieces.clause (.scopes (hself _) (hself _) hparts (hself _))
    apply Pieces.clause (.scopes (hself _) (hself _) (.cons (hself _) (.cons (hself _) .nil)) (hself _))
    exact .nil
  have htext : text = String.ofList (Text.join ';' pieces) := by decide
  -- the look-up is asked through the clauses
  have hask : ∀ topic scope, (parse text).level topic scope
      = ((mostSpecific (covering (cs.flatMap Clause.entries) topic scope)).getLast?.map (·.level)).getD .unset := by
    intro topic scope
    rw [htext]
    exact (hlevel cs pieces hpieces (by decide) (by decide) topic scope).1
  -- the second pattern overrides the rule of the first
  have hrule : (Target.of "db" "read", Level.never) ∈ (parse text).rules := by decide +kernel
  refine ⟨?_, ?_, ?_, ?_, hunknown "LOUD" (fun l => by cases l <;> decide) (by decide), ?_⟩
  · rw [hask]
    decide
  · rw [hask]
    decide
  · rw [hask]
    decide
  · rw [hask]
    decide
  · exact ((happend "ERROR:\x7bdb:read\x7d" text (by decide) (by decide)).2 _ _).2 (.inl hrule)

end Filter

end Logbook
