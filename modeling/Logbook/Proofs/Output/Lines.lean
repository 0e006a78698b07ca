import Logbook.Proofs.Output.File
import Logbook.Proofs.Value.Rereading
import Logbook.Text.Lines

/-!
# Records as lines

Consoles and files take each record as one line of JSON, and what they took can be read back line by line.  The text of
a JSON value has no control characters, so the only line feed of a line is the one at its end
(`Json.lineFeed_notMem_render`).  Every line is accepted as a record (`Record.exists_parse_render`): its nesting stays
below the limit of the reader, its numbers are read as numbers, and a record is encoded as an object or as null.

## Key results

- `Layout.exists_encodeLine`: each line is the text of a record, and one line feed
- `Store.Holds.run`: what is written through an output comes behind what was there
- `Output.split_run`: the lines of an output, read back
-/

namespace Logbook

variable {σ : Type}

namespace Json

/-! ## Texts without control characters -/

/-- The characters of a numeral come from the blank on. -/
theorem blank_le_of_isNumeral {c : Char} (h : isNumeral c = true) : ' ' ≤ c := by
  rw [isNumeral, Bool.or_eq_true] at h
  rcases h with hdigit | hmark
  · simp only [Char.isDigit, Bool.and_eq_true, decide_eq_true_eq] at hdigit
    show 32 ≤ c.toNat
    have hzero : 48 ≤ c.toNat := hdigit.1
    omega
  · have hmarks : c = '.' ∨ c = 'e' ∨ c = '+' ∨ c = '-' := by simpa using hmark
    rcases hmarks with rfl | rfl | rfl | rfl <;> decide

/-- Escaped characters come from the blank on. -/
theorem blank_le_escapeChar (c : Char) : ∀ d ∈ escapeChar c, ' ' ≤ d := by
  have hdigits : ∀ n < 16, ' ' ≤ Nat.digitChar n := by decide
  unfold escapeChar
  -- each of the escapes is made of printable characters
  iterate 7
    split
    next => simp
  split
  next hlow =>
    have hlast := hdigits (c.toNat % 16) (Nat.mod_lt _ (by decide))
    simp only [List.forall_mem_cons]
    refine ⟨by decide, by decide, by decide, by decide, ?_, hlast, nofun⟩
    split <;> decide
  next hlow =>
    rw [List.forall_mem_singleton]
    exact Nat.le_of_not_lt hlow

/-- The characters of a string come from the blank on. -/
theorem blank_le_renderString (s : String) : ∀ c ∈ renderString s, ' ' ≤ c := by
  intro c hc
  rw [renderString, List.mem_append, List.mem_cons, List.mem_singleton] at hc
  rcases hc with (rfl | hc) | rfl
  · decide
  · obtain ⟨d, -, hd⟩ := List.mem_flatMap.1 hc
    exact blank_le_escapeChar d c hd
  · decide

/-- The characters of a number come from the blank on. -/
theorem blank_le_renderNumber (n : Number) : ∀ c ∈ renderNumber n, ' ' ≤ c := by
  have hdigits : ∀ n, ∀ c ∈ Nat.toDigits 10 n, ' ' ≤ c :=
    fun n c hc => blank_le_of_isNumeral (by simp [isNumeral, isDigit_of_mem_toDigits c hc])
  cases n with
  | whole n =>
    cases n with
    | ofNat n => exact hdigits n
    | negSucc n => exact List.forall_mem_cons.2 ⟨by decide, hdigits (n + 1)⟩
  | real x =>
    have htext : ∀ c ∈ unsignedText numberStyle x, ' ' ≤ c :=
      fun c hc => blank_le_of_isNumeral ((isUnsigned_unsignedText numberStyle x).all c hc)
    rw [renderNumber, write_eq]
    split
    · split
      · exact List.forall_mem_cons.2 ⟨by decide, htext⟩
      · exact htext
    · -- what is no number is written as null
      intro c hc
      have hword : c = 'n' ∨ c = 'u' ∨ c = 'l' := by simpa using hc
      rcases hword with rfl | rfl | rfl <;> decide

mutual

/-- Nothing in the text of a value lies below the blank. -/
theorem blank_le_renderBefore : (j : Json) → {rest : List Char} → (∀ c ∈ rest, ' ' ≤ c) →
    ∀ c ∈ j.renderBefore rest, ' ' ≤ c
  | null, rest, h => by simpa [renderBefore] using h
  | bool true, rest, h => by simpa [renderBefore] using h
  | bool false, rest, h => by simpa [renderBefore] using h
  | number n, rest, h => List.forall_mem_append.2 ⟨blank_le_renderNumber n, h⟩
  | string s, rest, h => List.forall_mem_append.2 ⟨blank_le_renderString s, h⟩
  | array items, rest, h => by
    have hclose : ∀ c ∈ ']' :: rest, ' ' ≤ c := List.forall_mem_cons.2 ⟨by decide, h⟩
    rw [renderBefore]
    exact List.forall_mem_cons.2 ⟨by decide, blank_le_renderItems true items hclose⟩
  | object members, rest, h => by
    have hclose : ∀ c ∈ '\x7d' :: rest, ' ' ≤ c := List.forall_mem_cons.2 ⟨by decide, h⟩
    rw [renderBefore]
    exact List.forall_mem_cons.2 ⟨by decide, blank_le_renderMembers true members hclose⟩

/-- The characters of items come from the blank on if those behind them do. -/
theorem blank_le_renderItems (first : Bool) : (items : List Json) → {rest : List Char} → (∀ c ∈ rest, ' ' ≤ c) →
    ∀ c ∈ renderItems first items rest, ' ' ≤ c
  | [], rest, h => h
  | j :: items, rest, h => by
    have hbody := blank_le_renderBefore j (blank_le_renderItems false items h)
    rw [renderItems]
    split
    · exact hbody
    · exact List.forall_mem_cons.2 ⟨by decide, hbody⟩

/-- The characters of members come from the blank on if those behind them do. -/
theorem blank_le_renderMembers (first : Bool) : {b : Option String} → (members : Fields Json b) →
    {rest : List Char} → (∀ c ∈ rest, ' ' ≤ c) → ∀ c ∈ renderMembers first members rest, ' ' ≤ c
  | _, .nil, rest, h => h
  | _, .cons key j _ members, rest, h => by
    have hvalue := blank_le_renderBefore j (blank_le_renderMembers false members h)
    have hbody : ∀ c ∈ renderString key ++ ':' :: j.renderBefore (renderMembers false members rest), ' ' ≤ c :=
      List.forall_mem_append.2 ⟨blank_le_renderString key, List.forall_mem_cons.2 ⟨by decide, hvalue⟩⟩
    rw [renderMembers]
    split
    · exact hbody
    · exact List.forall_mem_cons.2 ⟨by decide, hbody⟩

end

/-- The text of a value is one line, whatever its strings are. -/
theorem lineFeed_notMem_render (j : Json) : '\n' ∉ j.render.toList := by
  rw [render, String.toList_ofList]
  intro h
  exact absurd (blank_le_renderBefore j (List.forall_mem_nil _) '\n' h) (by decide)

end Json

/-! ## Lines as records -/

/-- The line of a record is the text of its layout, with the only line feed behind it. -/
theorem Layout.exists_encodeLine (s : Suppliers σ) (l : Layout) (r : Record) (hidden : σ) :
    ∃ text, (l.encodeLine s r hidden).1 = text ++ "\n" ∧ '\n' ∉ text.toList ∧ ∃ r', Record.parse text = .ok r' :=
  ⟨((l.arrange r).encode s hidden).1.render, rfl, Json.lineFeed_notMem_render _,
    Record.exists_parse_render s (l.arrange r) hidden⟩

/-! ## What is written through an output -/

/-- The output passes lines on at once, to a standard stream or to a writer. -/
def Output.IsDirect (o : Output) : Prop :=
  match o.medium with
  | .stream _ => True
  | .writer _ _ => True
  | _ => False

namespace Store

/-- What was written to a standard stream. -/
def printed (st : Store) : Stream → List String
  | .output => st.standardOutput
  | .error => st.standardError

/-- The bytes at the place where an output writes to.  A file may not have received all of them yet. -/
def destination? (st : Store) (id : Nat) : Option ByteArray :=
  (st.output? id).bind fun o =>
    match o.medium with
    | .stream stream => some (String.join (st.printed stream)).toByteArray
    | .writer lines _ => some (String.join lines).toByteArray
    | .file f => st.disk.files.find? f.file
    | .memory _ => none
    | .foreign _ => none

/-- A new output writes lines: to a standard stream, to a writer, or to a file that no other output has open. -/
inductive Opens (st : Store) (layout : Layout) (id : Nat) (opened : Store) : Prop where
  | console {stream : Stream} {filter : Filter} (h : st.add (.console stream filter layout) = (id, opened))
  | writer {name : String} {fault : Option String} {filter : Filter}
      (h : st.add (.writer name fault filter layout) = (id, opened))
  | file {path : String} {filter : Filter} {timer : Option Duration}
      (h : st.openFile path filter layout timer = (.ok id, opened))
      (hfree : ∀ k, st.opened? k ≠ Disk.resolve? path)

/-- The bytes are what was written to the place of an output, together with the lines that wait. -/
inductive Holds (st : Store) (layout : Layout) (id : Nat) (bytes : ByteArray) : Prop where
  | direct {o : Output} (ho : st.output? id = some o) (hdirect : o.IsDirect) (hlayout : o.layout = layout)
      (hbytes : st.destination? id = some bytes)
  | file {path name : String} {timer : Option Duration} {first : ByteArray} {isOpen : Bool} {gone waiting : List String}
      (h : st.Receives path name layout timer first id isOpen gone waiting)
      (hbytes : bytes = first ++ (String.join (gone ++ waiting)).toByteArray)

/-- What has come to a stream is what was printed. -/
theorem destination?_stream {st : Store} {id : Nat} {name : String} {filter : Option Filter} {layout : Layout}
    {stream : Stream} (ho : st.output? id = some ⟨name, filter, layout, .stream stream⟩) :
    st.destination? id = some (String.join (st.printed stream)).toByteArray := by
  rw [destination?, ho]
  rfl

/-- What has come to a writer is its lines. -/
theorem destination?_writer {st : Store} {id : Nat} {name : String} {filter : Option Filter} {layout : Layout}
    {lines : List String} {fault : Option String}
    (ho : st.output? id = some ⟨name, filter, layout, .writer lines fault⟩) :
    st.destination? id = some (String.join lines).toByteArray := by
  rw [destination?, ho]
  rfl

/-- What has come to a file is what was there before, and then the lines that are gone. -/
theorem Receives.destination? {st : Store} {path name : String} {layout : Layout} {timer : Option Duration}
    {first : ByteArray} {id : Nat} {isOpen : Bool} {gone waiting : List String}
    (h : st.Receives path name layout timer first id isOpen gone waiting) :
    st.destination? id = some (first ++ (String.join gone).toByteArray) := by
  obtain ⟨filter, ho⟩ := h.output
  rw [Store.destination?, ho]
  exact h.file

/-- A new output holds what was there before it. -/
theorem Opens.holds {st opened : Store} {layout : Layout} {id : Nat} (h : st.Opens layout id opened) :
    ∃ bytes, opened.destination? id = some bytes ∧ opened.Holds layout id bytes := by
  have hadd (o : Output) (h : st.add o = (id, opened)) : opened.output? id = some o := by
    cases h
    exact List.getElem?_concat_length
  cases h with
  | @console stream filter h =>
    have ho := hadd _ h
    exact ⟨_, destination?_stream ho, .direct ho trivial rfl (destination?_stream ho)⟩
  | writer h =>
    have ho := hadd _ h
    exact ⟨_, destination?_writer ho, .direct ho trivial rfl (destination?_writer ho)⟩
  | @file path filter timer h hfree =>
    obtain ⟨name, hpath⟩ := resolve?_of_openFile h
    rw [hpath] at hfree
    -- opening is a function, so this is the output that was opened
    obtain ⟨id', opened', hopen, hreceives⟩ := openFile_receives hpath hfree filter layout timer
    rw [h] at hopen
    cases hopen
    exact ⟨_, hreceives.destination?, .file hreceives rfl⟩

/-! ### Outputs without a buffer -/

section Direct

variable {st : Store} {id : Nat} {o : Output}

/-- Nothing happens to the output, nor to the standard streams. -/
structure Beside (id : Nat) (st st' : Store) : Prop where
  output : st'.output? id = st.output? id
  printed : ∀ stream, st'.printed stream = st.printed stream

/-- A store is beside itself. -/
theorem Beside.refl (st : Store) : Beside id st st := ⟨rfl, fun _ => rfl⟩

/-- Two steps beside an output are one. -/
theorem Beside.trans {st' st'' : Store} (h : Beside id st st') (h' : Beside id st' st'') : Beside id st st'' :=
  ⟨h'.output.trans h.output, fun stream => (h'.printed stream).trans (h.printed stream)⟩

/-- What has come to an output that holds nothing back is left by steps beside it. -/
theorem Beside.destination? {st' : Store} (h : Beside id st st') (ho : st.output? id = some o)
    (hdirect : o.IsDirect) : st'.destination? id = st.destination? id := by
  obtain ⟨name, filter, layout, medium⟩ := o
  have ho' := h.output.trans ho
  cases medium with
  | stream stream => rw [destination?_stream ho', destination?_stream ho, h.printed]
  | writer lines fault => rw [destination?_writer ho', destination?_writer ho]
  | _ => cases hdirect

/-- The file of another output does not matter. -/
theorem beside_flushFile (st : Store) {k : Nat} (hk : k ≠ id) (f : LogFile) : Beside id st (st.flushFile k f) := by
  rw [flushFile]
  split
  · exact .refl st
  · exact ⟨output?_setMedium_ne _ _ hk, fun stream => by cases stream <;> rfl⟩

/-- Only files are flushed by the clock. -/
theorem beside_elapse (ho : st.output? id = some o) (hdirect : o.IsDirect) (time : Duration) :
    Beside id st (st.elapse time) := by
  have htick {st : Store} (ho : st.output? id = some o) (k : Nat) : Beside id st (st.tick time k) := by
    rw [tick]
    split
    next _ _ _ f hk =>
      -- the output itself is no file, so another one is flushed
      have hne : k ≠ id := by
        rintro rfl
        obtain rfl := Option.some.inj (ho.symm.trans hk)
        cases hdirect
      split
      next => exact beside_flushFile st hne f
      next => exact .refl st
    next => exact .refl st
  rw [elapse]
  generalize List.range st.outputs.length = ids
  induction ids generalizing st with
  | nil => exact .refl st
  | cons k ids ih => exact (htick ho k).trans (ih ((htick ho k).output.trans ho))

/-- There is nothing to flush, to close or to let go. -/
theorem flush_direct (ho : st.output? id = some o) (hdirect : o.IsDirect) :
    (st.flush id).2 = st ∧ (st.close id).2 = st ∧ st.release id = st := by
  obtain ⟨name, filter, layout, medium⟩ := o
  -- neither a stream nor a writer holds anything back
  cases medium with
  | stream stream =>
    have hflush : (st.flush id).2 = st := by simp only [flush, ho]
    exact ⟨hflush, by simp only [close, ho, hflush], by simp only [release, ho]⟩
  | writer lines fault =>
    have hflush : (st.flush id).2 = st := by
      cases fault <;> simp only [flush, ho]
    exact ⟨hflush, by simp only [close, ho, hflush], by simp only [release, ho]⟩
  | _ => cases hdirect

/-- A line that is written arrives at once. -/
theorem writeLine_direct (ho : st.output? id = some o) (hdirect : o.IsDirect) (line : String)
    {bytes : ByteArray} (hbytes : st.destination? id = some bytes) :
    (st.writeLine id o line).2.Holds o.layout id
      (bytes ++ (match (st.writeLine id o line).1 with | .ok () => line | .error _ => "").toByteArray) := by
  obtain ⟨name, filter, layout, medium⟩ := o
  have hjoin (lines : List String) : (String.join (lines ++ [line])).toByteArray
      = (String.join lines).toByteArray ++ line.toByteArray := by simp
  cases medium with
  -- a line that is printed goes behind those that were
  | stream stream =>
    have ho' : (st.print stream line).output? id = some ⟨name, filter, layout, .stream stream⟩ := by
      cases stream <;> exact ho
    have hprinted : (st.print stream line).printed stream = st.printed stream ++ [line] := by
      cases stream <;> rfl
    obtain rfl := Option.some.inj ((destination?_stream ho).symm.trans hbytes)
    refine .direct ho' hdirect rfl ((destination?_stream ho').trans ?_)
    rw [hprinted, hjoin]
    rfl
  | writer lines fault =>
    obtain rfl := Option.some.inj ((destination?_writer ho).symm.trans hbytes)
    cases fault with
    -- and so does one that a writer takes
    | none =>
      have ho' : (st.setMedium id (.writer (lines ++ [line]) none)).output? id
          = some ⟨name, filter, layout, .writer (lines ++ [line]) none⟩ := by
        rw [output?_setMedium, ho]
        rfl
      refine .direct ho' trivial rfl ((destination?_writer ho').trans ?_)
      rw [hjoin]
      rfl
    | some fault =>
      -- a writer with a fault takes nothing
      refine .direct ho hdirect rfl (hbytes.trans ?_)
      show some (String.join lines).toByteArray = some ((String.join lines).toByteArray ++ "".toByteArray)
      simp
  | _ => cases hdirect

end Direct

namespace Holds

open Output (Act)

variable {layout : Layout} {id : Nat} {bytes : ByteArray}

/-- Each act adds the line that it writes. -/
theorem perform {w : World σ} (s : Suppliers σ) (h : w.store.Holds layout id bytes) (act : Act) :
    (act.perform s id w).2.store.Holds layout id
      (bytes ++ (String.join (act.line? s id layout w).toList).toByteArray) := by
  cases h with
  -- of a file it is known what each act adds
  | file h hbytes =>
    obtain ⟨gone', waiting', hsplit, hafter⟩ := act.perform_receives s h
    refine .file hafter ?_
    rw [hsplit, hbytes, ByteArray.append_assoc, ← String.toByteArray_append, ← String.join_append]
  | @direct o ho hdirect hlayout hbytes =>
    -- writing appends the line; all other acts leave the text as it is
    obtain ⟨hflush, hclose, -⟩ := flush_direct ho hdirect
    have hsame : bytes ++ (String.join []).toByteArray = bytes := by simp
    cases act with
    | write r =>
      have hnone : o.records? = none ∧ o.respond? = none := by
        obtain ⟨name, filter, layout, medium⟩ := o
        cases medium with
        | stream stream => exact ⟨rfl, rfl⟩
        | writer lines fault => exact ⟨rfl, rfl⟩
        | _ => cases hdirect
      have hwritten := writeLine_direct ho hdirect (o.layout.encodeLine s r w.hidden).1 hbytes
      subst hlayout
      rw [Act.perform, Act.line?, Output.write_eq_writeLine s r ho hnone.1 hnone.2]
      simp only
      -- the line is appended only if the write succeeds
      cases hresult : (w.store.writeLine id o (o.layout.encodeLine s r w.hidden).1).1 with
      | ok _ =>
        rw [hresult] at hwritten
        simpa using hwritten
      | error e =>
        rw [hresult] at hwritten
        simpa using hwritten
    | flush =>
      show (w.store.flush id).2.Holds layout id (bytes ++ (String.join []).toByteArray)
      rw [hflush, hsame]
      exact .direct ho hdirect hlayout hbytes
    | elapse time =>
      have hbeside := beside_elapse ho hdirect time
      show (w.store.elapse time).Holds layout id (bytes ++ (String.join []).toByteArray)
      rw [hsame]
      exact .direct (hbeside.output.trans ho) hdirect hlayout ((hbeside.destination? ho hdirect).trans hbytes)
    | close =>
      show (w.store.close id).2.Holds layout id (bytes ++ (String.join []).toByteArray)
      rw [hclose, hsame]
      exact .direct ho hdirect hlayout hbytes

/-- Acts one after another add the lines that they write, in order. -/
theorem run {w : World σ} (s : Suppliers σ) (h : w.store.Holds layout id bytes) (acts : List Act) :
    (Output.run s id acts w).store.Holds layout id
      (bytes ++ (String.join (Output.taken s id layout acts w)).toByteArray) := by
  induction acts generalizing w bytes with
  | nil => simpa [Output.run, Output.taken] using h
  | cons act acts ih =>
    have hrest := ih (h.perform s act)
    rw [Output.run, Output.taken, String.join_append, String.toByteArray_append, ← ByteArray.append_assoc]
    exact hrest

/-- After a flush, after a close and when the output is let go, the bytes are where the output writes to. -/
theorem destination? {st : Store} (h : st.Holds layout id bytes) :
    ∀ after ∈ [(st.flush id).2, (st.close id).2, st.release id], after.destination? id = some bytes := by
  simp only [List.forall_mem_cons]
  cases h with
  -- nothing waits, so nothing is written on any of the three
  | direct ho hdirect hlayout hbytes =>
    obtain ⟨hflush, hclose, hrelease⟩ := flush_direct ho hdirect
    rw [hflush, hclose, hrelease]
    exact ⟨hbytes, hbytes, hbytes, nofun⟩
  -- what waits is written on each of the three
  | file h hbytes =>
    rw [hbytes]
    exact ⟨h.flush.2.destination?, h.close.2.destination?, h.release.destination?, nofun⟩

end Holds

end Store

/-! ## Reading the lines back -/

/-- Each line that is taken is the text of a record, with a line feed behind it. -/
theorem Output.exists_taken_eq (s : Suppliers σ) (id : Nat) (layout : Layout) (acts : List Act) (w : World σ) :
    ∃ texts : List String, taken s id layout acts w = texts.map (· ++ "\n") ∧
      ∀ text ∈ texts, '\n' ∉ text.toList ∧ ∃ r, Record.parse text = .ok r := by
  -- by induction on the acts: a write that succeeds adds one text
  induction acts generalizing w with
  | nil => exact ⟨[], rfl, nofun⟩
  | cons act acts ih =>
    obtain ⟨texts, htaken, htexts⟩ := ih (act.perform s id w).2
    rw [taken, htaken]
    cases act with
    | write r =>
      rw [Act.line?]
      cases (Output.write s id r w).1 with
      | ok _ =>
        obtain ⟨text, hline, htext⟩ := layout.exists_encodeLine s r w.hidden
        refine ⟨text :: texts, ?_, List.forall_mem_cons.2 ⟨htext, htexts⟩⟩
        simp [hline]
      | error e => exact ⟨texts, rfl, htexts⟩
    | _ => exact ⟨texts, rfl, htexts⟩

/-- **Lines can be read back.**  Do whatever there is to do to a new console or file, among it the writing of records.
After a flush, after a close and when the output is let go, the bytes that were there are followed by the lines of the
records that were written with success, in order.  Splitting them at line feeds gives the text of one record after the
other and nothing behind the last line feed, and each of these texts is read as a record.  However deep a record is, its
text nests no more than 65 levels, and the reader accepts them up to 128. -/
theorem Output.split_run (s : Suppliers σ) {st opened : Store} {layout : Layout} {id : Nat}
    (hopen : st.Opens layout id opened) (hidden : σ) (acts : List Act) :
    let lines := taken s id layout acts ⟨hidden, opened⟩
    let w := run s id acts ⟨hidden, opened⟩
    (∃ before, opened.destination? id = some before ∧
      ∀ after ∈ [(w.store.flush id).2, (w.store.close id).2, w.store.release id],
        after.destination? id = some (before ++ (String.join lines).toByteArray)) ∧
    (∃ texts : List String, lines = texts.map (· ++ "\n") ∧
      Text.split '\n' (String.join lines).toList = texts.map String.toList ++ [[]] ∧
      ∀ text ∈ texts, ∃ r, Record.parse text = .ok r) ∧
    (∀ (r : Record) (hidden : σ), (r.encode s hidden).1.nesting ≤ 65) ∧ 65 < Json.depthLimit ∧
      Json.depthLimit = 128 := by
  intro lines w
  obtain ⟨before, hbefore, hholds⟩ := hopen.holds
  obtain ⟨texts, htaken, htexts⟩ := exists_taken_eq s id layout acts ⟨hidden, opened⟩
  replace htaken : lines = texts.map (· ++ "\n") := htaken
  refine ⟨⟨before, hbefore, (Store.Holds.run (w := ⟨hidden, opened⟩) s hholds acts).destination?⟩,
    ⟨texts, htaken, ?_, fun text htext => (htexts text htext).2⟩, fun r hidden => r.nesting_encode_le s hidden,
    by decide, rfl⟩
  -- splitting is about the characters of all lines, so the texts are followed by one line feed each
  have hchars : (String.join lines).toList = (texts.map String.toList).flatMap (· ++ ['\n']) := by
    rw [htaken]
    simp [List.flatMap_map]
  rw [hchars]
  apply Text.split_flatMap
  intro part hpart
  obtain ⟨text, htext, rfl⟩ := List.mem_map.1 hpart
  exact (htexts text htext).1

/-- A line feed in a text, the largest double and a value that is deferred without end; and a record without fields. -/
theorem Output.split_run_file :
    let s : Suppliers Unit := ⟨fun source => pure (.deferred source), fun _ => pure .null⟩
    let opened := (Store.empty.openFile "app.log" .empty .stackdriver none).2
    let record : Record := .ofEntries [("msg", .text "a\nb"), ("x", .float ⟨0x7fefffffffffffff⟩), ("y", .deferred 0)]
    let w := run s 0 [.write record, .write .empty] ⟨(), opened⟩
    let line := "\x7b\"message\":\"a\\nb\",\"x\":1.7976931348623157e+308,\"y\":\"<value nested too deeply>\"\x7d"
    Store.empty.Opens .stackdriver 0 opened ∧
      (w.store.release 0).destination? 0 = some (String.join [line ++ "\n", "null\n"]).toByteArray ∧
      Text.split '\n' (String.join [line ++ "\n", "null\n"]).toList = [line.toList, "null".toList, []] ∧
      ∃ r, Record.parse line = .ok r := by
  intro s opened record w line
  have hpath : Disk.resolve? "app.log" = some "app.log" := by decide
  have hopened : Store.empty.openFile "app.log" .empty .stackdriver none = (.ok 0, opened) := rfl
  -- the store has no outputs yet
  have hfree : ∀ k, Store.empty.opened? k ≠ Disk.resolve? "app.log" := by
    rw [hpath]
    nofun
  have hopen : Store.empty.Opens .stackdriver 0 opened := .file hopened hfree
  -- the two lines are the result of the run, and the first is read back
  obtain ⟨⟨before, hbefore, hafter⟩, ⟨texts, htexts, hsplit, hparse⟩, -⟩ :=
    split_run s hopen () [.write record, .write .empty]
  have hlines : taken s 0 .stackdriver [.write record, .write .empty] ⟨(), opened⟩ = [line ++ "\n", "null\n"] := by
    decide +kernel
  have hempty : opened.destination? 0 = some .empty := by decide
  obtain rfl := Option.some.inj (hbefore.symm.trans hempty)
  rw [hlines, ByteArray.empty_append] at hafter
  rw [hlines] at hsplit
  have hparts : Text.split '\n' (String.join [line ++ "\n", "null\n"]).toList = [line.toList, "null".toList, []] := by
    decide +kernel
  have htext : line ∈ texts := by
    have hmap : texts.map String.toList ++ [[]] = [line, "null"].map String.toList ++ [[]] := hsplit.symm.trans hparts
    rw [List.map_injective_iff.2 (fun _ _ => String.toList_inj.1) (List.append_cancel_right hmap)]
    exact List.mem_cons_self
  refine ⟨hopen, ?_, hparts, hparse line htext⟩
  exact hafter _ (List.mem_cons_of_mem _ (List.mem_cons_of_mem _ List.mem_cons_self))

end Logbook
