import Logbook.Proofs.Sink.Frame
import Logbook.Sink.Open

/-!
# What a file receives

A file output takes lines, one for each record written to it.  Whatever is done to the output and whenever its buffer
is flushed, the file holds the bytes that it held at first and behind them those of the first of these lines; the others
wait in the buffer (`Store.Receives`).  A flush leaves nothing waiting, whether it was asked for or due by the clock.  A
closed output takes no more lines, and the file can be opened again.

## Key results

- `Buffer.write_join`: which lines a buffer passes on
- `Store.Receives.tick` / `Store.Receives.elapse`: flushing by the clock
- `Output.Act.perform_receives`: every single act
- `Output.run_receives`: acts one after another
- `Output.read?_run_openFile`: what a file holds at any time
-/

namespace Logbook

variable {σ : Type}

/-! ## Using an output -/

namespace Output

/-- What is done to an output; time passes too. -/
inductive Act where
  | write (r : Record)
  | flush
  | elapse (time : Duration)
  | close

namespace Act

/-- Do it. -/
def perform (s : Suppliers σ) (id : Nat) : Act → StateM (World σ) Outcome
  | write r => Output.write s id r
  | flush => World.update fun st => ((st.flush id).1.mapError .error, (st.flush id).2)
  | elapse time => World.update fun st => (.ok (), st.elapse time)
  | close => World.update fun st => ((st.close id).1.mapError .error, (st.close id).2)

/-- The line that a layout makes of a record, if writing the record succeeds. -/
def line? (s : Suppliers σ) (id : Nat) (layout : Layout) (w : World σ) : Act → Option String
  | write r =>
    match (Output.write s id r w).1 with
    | .ok () => some (layout.encodeLine s r w.hidden).1
    | .error _ => none
  | _ => none

end Act

/-- The world after some acts. -/
def run (s : Suppliers σ) (id : Nat) : List Act → World σ → World σ
  | [], w => w
  | act :: acts, w => run s id acts (act.perform s id w).2

/-- The lines of the records that some acts write with success, in order. -/
def taken (s : Suppliers σ) (id : Nat) (layout : Layout) : List Act → World σ → List String
  | [], _ => []
  | act :: acts, w => (act.line? s id layout w).toList ++ taken s id layout acts (act.perform s id w).2

end Output

/-- The file that an output has open. -/
def Store.opened? (st : Store) (id : Nat) : Option String :=
  (st.output? id).bind fun o =>
    match o.medium with
    | .file f => f.buffer.map fun _ => f.file
    | _ => none

/-! ## Buffers of lines -/

/-- A buffer of whole lines passes on whole lines, and keeps whole lines. -/
theorem Buffer.write_join (waiting : List String) (line : String) :
    ∃ moved kept, waiting ++ [line] = moved ++ kept ∧
      (Buffer.mk (String.join waiting)).write line = (String.join moved, ⟨String.join kept⟩) := by
  by_cases hfit : (Buffer.mk (String.join waiting)).room < line.utf8ByteSize <;>
    by_cases hbig : capacity ≤ line.utf8ByteSize
  · exact ⟨waiting ++ [line], [], by simp, by simp [write, hfit, hbig]⟩
  · exact ⟨waiting, [line], by simp, by simp [write, hfit, hbig]⟩
  · -- the line fits and is as large as the buffer, so the buffer was empty
    have hempty : String.join waiting = "" := held_eq_empty_of_full hfit hbig
    exact ⟨waiting ++ [line], [], by simp, by simp [write, hbig, hempty]⟩
  · exact ⟨[], waiting ++ [line], by simp, by simp [write, hfit, hbig]⟩

namespace Store

/-! ## Receiving lines -/

/-- An output is a file that was opened by a path, and is flushed by the clock while it is open.  The file holds the
bytes that it held at first and behind them the lines that have gone out; those that wait are in the buffer, and none
waits if the file is closed.  No other output has the file open. -/
structure Receives (path name : String) (layout : Layout) (timer : Option Duration) (first : ByteArray) (id : Nat)
    (isOpen : Bool) (gone waiting : List String) (st : Store) : Prop where
  output : ∃ filter, st.output? id = some ⟨path, filter, layout,
    .file ⟨path, name, if isOpen then some ⟨String.join waiting⟩ else none, if isOpen then timer else none⟩⟩
  file : st.disk.files.find? name = some (first ++ (String.join gone).toByteArray)
  waiting_of_closed : isOpen = false → waiting = []
  alone : ∀ k, k ≠ id → st.opened? k ≠ some name

/-- Appending adds the bytes at the end of the file. -/
theorem find?_append (d : Disk) (name text key : String) :
    (d.append name text).files.find? key
      = if key = name then some ((d.files.find? name).getD .empty ++ text.toByteArray) else d.files.find? key :=
  Fields.find?_insert _ _ _ _

/-- A file is open if it has a buffer. -/
theorem opened?_eq {st : Store} {k : Nat} {o : Output} {f : LogFile} (ho : st.output? k = some o)
    (hm : o.medium = .file f) : st.opened? k = f.buffer.map fun _ => f.file := by
  rw [opened?, ho, Option.bind_some, hm]

/-- Other outputs have open what they had open before. -/
theorem opened?_setMedium_ne (st : Store) {id k : Nat} (m : Medium) (h : id ≠ k) :
    (st.setMedium id m).opened? k = st.opened? k := by
  rw [opened?, output?_setMedium_ne st m h, opened?]

/-- Passing texts on to a file opens none. -/
theorem opened?_passOn (st : Store) {id : Nat} {o : Output} {f : LogFile} {b : Buffer}
    (ho : st.output? id = some o) (hm : o.medium = .file f) (hb : f.buffer = some b) (out : String) (b' : Buffer)
    (k : Nat) : (st.passOn id f out b').opened? k = st.opened? k := by
  show (st.setMedium id (.file { f with buffer := some b' })).opened? k = st.opened? k
  by_cases hk : id = k
  · subst hk
    rw [opened?_eq ho hm, hb, opened?, output?_setMedium, ho]
    rfl
  · exact opened?_setMedium_ne st _ hk

namespace Receives

variable {path name : String} {layout : Layout} {timer : Option Duration} {first : ByteArray} {id : Nat} {isOpen : Bool}
  {gone waiting : List String} {st : Store}

/-- The buffer passes some lines on to the file. -/
theorem passOn (h : st.Receives path name layout timer first id isOpen gone waiting) {o : Output} {f : LogFile}
    {b : Buffer} (ho : st.output? id = some o) (hm : o.medium = .file f) (hb : f.buffer = some b)
    (moved kept : List String) :
    (st.passOn id f (String.join moved) ⟨String.join kept⟩).Receives path name layout timer first id true
      (gone ++ moved) kept := by
  obtain ⟨filter, hout⟩ := h.output
  obtain rfl : o = _ := Option.some.inj (ho.symm.trans hout)
  obtain rfl : _ = f := Medium.file.inj hm
  -- there is a buffer, so the file is open
  cases isOpen with
  | false => cases hb
  | true =>
    constructor
    · refine ⟨filter, ?_⟩
      show (st.setMedium id _).output? id = _
      rw [output?_setMedium, hout]
      rfl
    · show (st.disk.append name (String.join moved)).files.find? name = _
      rw [find?_append, if_pos rfl, h.file, Option.getD_some, String.join_append, String.toByteArray_append,
        ByteArray.append_assoc]
    · nofun
    · intro k hk
      rw [opened?_passOn st ho hm hb]
      exact h.alone k hk

/-- Flushing the output leaves no line waiting. -/
theorem flushFile (h : st.Receives path name layout timer first id isOpen gone waiting) {o : Output} {f : LogFile}
    (ho : st.output? id = some o) (hm : o.medium = .file f) :
    (st.flushFile id f).Receives path name layout timer first id isOpen (gone ++ waiting) [] := by
  obtain ⟨filter, hout⟩ := h.output
  obtain rfl : o = _ := Option.some.inj (ho.symm.trans hout)
  obtain rfl : _ = f := Medium.file.inj hm
  -- a file that is closed has nothing waiting
  cases isOpen with
  | true => exact h.passOn ho hm rfl waiting []
  | false =>
    obtain rfl := h.waiting_of_closed rfl
    rw [List.append_nil]
    exact h

/-- Flushing another output does not concern the file: that output has none open, or another one. -/
theorem flushFile_other (h : st.Receives path name layout timer first id isOpen gone waiting) {k : Nat} (hk : k ≠ id)
    {o : Output} {f : LogFile} (ho : st.output? k = some o) (hm : o.medium = .file f) :
    (st.flushFile k f).Receives path name layout timer first id isOpen gone waiting := by
  rw [Store.flushFile]
  -- the other file is not open, or it is open at another place
  cases hb : f.buffer with
  | none => exact h
  | some b =>
    have hname : name ≠ f.file := by
      rintro rfl
      apply h.alone k hk
      rw [opened?_eq ho hm, hb]
      rfl
    constructor
    · show ∃ filter, (st.setMedium k _).output? id = _
      rw [output?_setMedium_ne st _ hk]
      exact h.output
    · show (st.disk.append f.file b.flush.1).files.find? name = _
      rw [find?_append, if_neg hname]
      exact h.file
    · exact h.waiting_of_closed
    · intro j hj
      rw [opened?_passOn st ho hm hb]
      exact h.alone j hj

/-- Letting go of the file leaves no line waiting, and closes it. -/
theorem closeFile (h : st.Receives path name layout timer first id isOpen gone waiting) {o : Output} {f : LogFile}
    (ho : st.output? id = some o) (hm : o.medium = .file f) :
    (st.closeFile id f).Receives path name layout timer first id false (gone ++ waiting) [] := by
  have hflush := h.flushFile ho hm
  obtain ⟨filter, hout⟩ := hflush.output
  obtain ⟨filter', hout'⟩ := h.output
  obtain rfl : o = _ := Option.some.inj (ho.symm.trans hout')
  obtain rfl : _ = f := Medium.file.inj hm
  constructor
  · refine ⟨filter, ?_⟩
    rw [Store.closeFile, output?_setMedium, hout]
    rfl
  · -- the lines that waited have gone to the file already
    exact hflush.file
  · exact fun _ => rfl
  · intro k hk
    rw [Store.closeFile, opened?_setMedium_ne _ _ (Ne.symm hk)]
    exact hflush.alone k hk

/-- The clock flushes the output when its time has come. -/
theorem tick (h : st.Receives path name layout timer first id isOpen gone waiting) (time : Duration) :
    ∃ moved kept, waiting = moved ++ kept ∧
      (st.tick time id).Receives path name layout timer first id isOpen (gone ++ moved) kept ∧
      ((∃ d ∈ timer, d.nanoseconds ≤ time.nanoseconds) → kept = []) := by
  obtain ⟨filter, ho⟩ := h.output
  have hstay : st.Receives path name layout timer first id isOpen (gone ++ []) waiting := by rwa [List.append_nil]
  rw [Store.tick, ho]
  cases isOpen with
  | false =>
    -- a closed file has no timer, and no line waits
    exact ⟨[], waiting, rfl, hstay, fun _ => h.waiting_of_closed rfl⟩
  | true =>
    show ∃ moved kept, waiting = moved ++ kept ∧
      Store.Receives path name layout timer first id true (gone ++ moved) kept
        (if timer.any (fun d => decide (d.nanoseconds ≤ time.nanoseconds)) then st.flushFile id _ else st) ∧ _
    split
    next => exact ⟨waiting, [], (List.append_nil waiting).symm, h.flushFile ho rfl, fun _ => rfl⟩
    next hearly =>
      refine ⟨[], waiting, rfl, hstay, fun ⟨d, hd, hdue⟩ => absurd ?_ hearly⟩
      rw [Option.any_eq_true]
      exact ⟨d, hd, decide_eq_true hdue⟩

/-- When the clock flushes another output, the file is not concerned. -/
theorem tick_other (h : st.Receives path name layout timer first id isOpen gone waiting) (time : Duration) {k : Nat}
    (hk : k ≠ id) : (st.tick time k).Receives path name layout timer first id isOpen gone waiting := by
  rw [Store.tick]
  split
  next _ _ _ f ho =>
    split
    next => exact h.flushFile_other hk ho rfl
    next => exact h
  next => exact h

/-- What is flushed by the clock, of any outputs, keeps the lines in order.  If the output is among them and its time
has come, no line waits any more. -/
theorem ticks (h : st.Receives path name layout timer first id isOpen gone waiting) (time : Duration) (ids : List Nat) :
    ∃ moved kept, waiting = moved ++ kept ∧
      (ids.foldl (fun st k => st.tick time k) st).Receives path name layout timer first id isOpen (gone ++ moved) kept ∧
      (id ∈ ids → (∃ d ∈ timer, d.nanoseconds ≤ time.nanoseconds) → kept = []) := by
  induction ids generalizing st gone waiting with
  | nil => exact ⟨[], waiting, rfl, by rwa [List.append_nil], nofun⟩
  | cons k ids ih =>
    rw [List.foldl_cons]
    by_cases hk : k = id
    · subst hk
      obtain ⟨moved, kept, rfl, hfirst, hdue⟩ := h.tick time
      obtain ⟨moved', kept', rfl, hrest, -⟩ := ih hfirst
      refine ⟨moved ++ moved', kept', (List.append_assoc _ _ _).symm, by rwa [← List.append_assoc], fun _ h => ?_⟩
      -- what is left after its own time will be less still
      exact (List.append_eq_nil_iff.1 (hdue h)).2
    · obtain ⟨moved, kept, hsplit, hrest, hdue⟩ := ih (h.tick_other time hk)
      exact ⟨moved, kept, hsplit, hrest, fun hid => hdue ((List.mem_cons.1 hid).resolve_left (Ne.symm hk))⟩

/-- Whatever time passes, the lines are kept in order; if the time of the output has come, no line waits any more. -/
theorem elapse (h : st.Receives path name layout timer first id isOpen gone waiting) (time : Duration) :
    ∃ moved kept, waiting = moved ++ kept ∧
      (st.elapse time).Receives path name layout timer first id isOpen (gone ++ moved) kept ∧
      ((∃ d ∈ timer, d.nanoseconds ≤ time.nanoseconds) → kept = []) := by
  obtain ⟨moved, kept, hsplit, hafter, hdue⟩ := h.ticks time (List.range st.outputs.length)
  obtain ⟨filter, ho⟩ := h.output
  have hid : id ∈ List.range st.outputs.length := List.mem_range.2 (List.getElem?_eq_some_iff.1 ho).1
  exact ⟨moved, kept, hsplit, hafter, hdue hid⟩

/-! ### Flushing, closing and letting go -/

/-- Flushing writes what waits. -/
theorem flush (h : st.Receives path name layout timer first id isOpen gone waiting) :
    (st.flush id).1 = .ok () ∧
      (st.flush id).2.Receives path name layout timer first id isOpen (gone ++ waiting) [] := by
  obtain ⟨filter, ho⟩ := h.output
  simp only [Store.flush, ho]
  exact ⟨trivial, h.flushFile ho rfl⟩

/-- Closing writes what waits, and closes the file. -/
theorem close (h : st.Receives path name layout timer first id isOpen gone waiting) :
    (st.close id).1 = .ok () ∧ (st.close id).2.Receives path name layout timer first id false (gone ++ waiting) [] := by
  obtain ⟨filter, ho⟩ := h.output
  simp only [Store.close, ho]
  exact ⟨trivial, h.closeFile ho rfl⟩

/-- Releasing an output writes what waits, and closes the file. -/
theorem release (h : st.Receives path name layout timer first id isOpen gone waiting) :
    (st.release id).Receives path name layout timer first id false (gone ++ waiting) [] := by
  obtain ⟨filter, ho⟩ := h.output
  simp only [Store.release, ho]
  exact h.closeFile ho rfl

end Receives

end Store

namespace Output

variable {path name : String} {layout : Layout} {timer : Option Duration} {first : ByteArray} {id : Nat} {isOpen : Bool}
  {gone waiting : List String} {w : World σ}

/-- An open file takes the line of a record. -/
theorem write_open (s : Suppliers σ) (h : w.store.Receives path name layout timer first id true gone waiting)
    (r : Record) :
    (write s id r w).1 = .ok () ∧
      ∃ gone' waiting', gone' ++ waiting' = gone ++ waiting ++ [(layout.encodeLine s r w.hidden).1] ∧
        (write s id r w).2.store.Receives path name layout timer first id true gone' waiting' := by
  obtain ⟨filter, ho⟩ := h.output
  obtain ⟨moved, kept, hsplit, hbuffer⟩ := Buffer.write_join waiting (layout.encodeLine s r w.hidden).1
  rw [write_eq_writeLine s r ho rfl rfl]
  simp only [Store.writeLine, if_pos, hbuffer]
  refine ⟨trivial, gone ++ moved, kept, ?_, h.passOn ho rfl rfl moved kept⟩
  rw [List.append_assoc, ← hsplit, List.append_assoc]

/-- A closed file takes no line, and nothing changes. -/
theorem write_closed (s : Suppliers σ) (h : w.store.Receives path name layout timer first id false gone waiting)
    (r : Record) : (write s id r w).1 = .error (.error (.closed path)) ∧ (write s id r w).2.store = w.store := by
  obtain ⟨filter, ho⟩ := h.output
  rw [write_eq_writeLine s r ho rfl rfl]
  exact ⟨rfl, rfl⟩

namespace Act

/-- Whether the act closes the output. -/
def isClose : Act → Bool
  | write _ => false
  | flush => false
  | elapse _ => false
  | close => true

/-- An act closes if it is a close. -/
theorem any_isClose_iff {acts : List Act} : acts.any isClose = true ↔ Act.close ∈ acts := by
  rw [List.any_eq_true]
  constructor
  · rintro ⟨act, hact, hclose⟩
    cases act with
    | close => exact hact
    | _ => cases hclose
  · exact fun h => ⟨.close, h, rfl⟩

/-- Each act keeps the lines in order, and adds the line that it writes. -/
theorem perform_receives (s : Suppliers σ) (h : w.store.Receives path name layout timer first id isOpen gone waiting)
    (act : Act) :
    ∃ gone' waiting', gone' ++ waiting' = gone ++ waiting ++ (act.line? s id layout w).toList ∧
      (act.perform s id w).2.store.Receives path name layout timer first id (isOpen && !act.isClose) gone'
        waiting' := by
  cases act with
  | write r =>
    rw [line?, isClose, Bool.not_false, Bool.and_true, perform]
    -- only while the file is open does the line count
    cases isOpen with
    | true =>
      obtain ⟨hok, gone', waiting', hsplit, hafter⟩ := write_open s h r
      rw [hok]
      exact ⟨gone', waiting', hsplit, hafter⟩
    | false =>
      obtain ⟨herror, hstore⟩ := write_closed s h r
      rw [herror, hstore]
      exact ⟨gone, waiting, by simp, h⟩
  -- a flush leaves no line waiting
  | flush =>
    refine ⟨gone ++ waiting, [], by simp [line?], ?_⟩
    rw [isClose, Bool.not_false, Bool.and_true]
    exact h.flush.2
  -- the clock moves all lines that wait, or none
  | elapse time =>
    obtain ⟨moved, kept, rfl, hafter, -⟩ := h.elapse time
    refine ⟨gone ++ moved, kept, by simp [line?], ?_⟩
    rw [isClose, Bool.not_false, Bool.and_true]
    exact hafter
  -- and after closing it takes no more
  | close =>
    refine ⟨gone ++ waiting, [], by simp [line?], ?_⟩
    rw [isClose, Bool.not_true, Bool.and_false]
    exact h.close.2

end Act

/-- Acts one after another keep the lines in order. -/
theorem run_receives (s : Suppliers σ) (h : w.store.Receives path name layout timer first id isOpen gone waiting)
    (acts : List Act) :
    ∃ gone' waiting', gone' ++ waiting' = gone ++ waiting ++ taken s id layout acts w ∧
      (run s id acts w).store.Receives path name layout timer first id (isOpen && !acts.any Act.isClose) gone'
        waiting' := by
  -- by induction on the acts, with what each of them writes and leaves waiting
  induction acts generalizing w isOpen gone waiting with
  | nil => exact ⟨gone, waiting, by simp [taken], by simpa [run] using h⟩
  | cons act acts ih =>
    obtain ⟨gone', waiting', hsplit, hact⟩ := act.perform_receives s h
    obtain ⟨gone'', waiting'', hsplit', hrest⟩ := ih hact
    refine ⟨gone'', waiting'', ?_, ?_⟩
    · rw [hsplit', hsplit, taken, List.append_assoc]
    · rw [run, List.any_cons, Bool.not_or, ← Bool.and_assoc]
      exact hrest

end Output

/-! ## Opening -/

namespace Store

/-- A path names its file. -/
theorem read?_eq {d : Disk} {path name : String} (hpath : Disk.resolve? path = some name) :
    d.read? path = d.files.find? name := by
  rw [Disk.read?, hpath, Option.bind_some]

/-- A path that leads to a file can be opened.  The output holds what the file held, and has taken no line. -/
theorem openFile_receives {st : Store} {path name : String} (hpath : Disk.resolve? path = some name)
    (hfree : ∀ k, st.opened? k ≠ some name) (filter : Filter) (layout : Layout) (timer : Option Duration) :
    ∃ id st', st.openFile path filter layout timer = (.ok id, st') ∧
      st'.Receives path name layout timer ((st.disk.read? path).getD .empty) id true [] [] := by
  let disk : Disk := if st.disk.files.contains name then st.disk else ⟨st.disk.files.insert name .empty⟩
  have hopen : st.disk.open? path = some (name, disk) := by rw [Disk.open?, hpath]
  rw [openFile, hopen, read?_eq hpath]
  refine ⟨st.outputs.length, _, rfl, ⟨some filter, ?_⟩, ?_, nofun, fun k hk => ?_⟩
  · show (st.outputs ++ [_])[st.outputs.length]? = _
    rw [List.getElem?_concat_length]
    rfl
  · -- a file that was missing is made, with no bytes
    rw [String.join_nil, String.toByteArray_empty, ByteArray.append_empty]
    show disk.files.find? name = _
    cases hbytes : st.disk.files.find? name with
    | none => simp [disk, Fields.contains, hbytes]
    | some bytes => simp [disk, Fields.contains, hbytes]
  · -- the new output is the last one, and no other has changed
    rw [opened?, output?]
    show ((st.outputs ++ [_])[k]?.bind _) ≠ _
    rcases Nat.lt_or_ge k st.outputs.length with hlt | hge
    · rw [List.getElem?_append_left hlt]
      exact hfree k
    · rw [List.getElem?_eq_none (by rw [List.length_append, List.length_singleton]; omega)]
      exact (Option.some_ne_none name).symm

/-- Only a path that leads to a file can be opened. -/
theorem resolve?_of_openFile {st st' : Store} {path : String} {filter : Filter} {layout : Layout}
    {timer : Option Duration} {id : Nat} (hopen : st.openFile path filter layout timer = (.ok id, st')) :
    ∃ name, Disk.resolve? path = some name := by
  cases hpath : Disk.resolve? path with
  | some name => exact ⟨name, rfl⟩
  | none =>
    have hnone : st.disk.open? path = none := by rw [Disk.open?, hpath]
    rw [openFile, hnone] at hopen
    cases hopen

/-- The file that is read has what was there before, and then the lines that are gone. -/
theorem Receives.read? {path name : String} {layout : Layout} {timer : Option Duration} {first : ByteArray} {id : Nat}
    {isOpen : Bool} {gone waiting : List String} {st : Store}
    (h : st.Receives path name layout timer first id isOpen gone waiting)
    (hpath : Disk.resolve? path = some name) : st.disk.read? path = some (first ++ (String.join gone).toByteArray) := by
  rw [read?_eq hpath, h.file]

/-- Nothing is held open of a file whose output was closed. -/
theorem Receives.free {path name : String} {layout : Layout} {timer : Option Duration} {first : ByteArray} {id : Nat}
    {gone waiting : List String} {st : Store}
    (h : st.Receives path name layout timer first id false gone waiting) (k : Nat) :
    st.opened? k ≠ some name := by
  by_cases hk : k = id
  · subst hk
    obtain ⟨filter, ho⟩ := h.output
    rw [opened?_eq ho rfl]
    nofun
  · exact h.alone k hk

end Store

namespace Output

/-- The file of an output that was just opened holds the first of the lines that are taken. -/
theorem run_read? (s : Suppliers σ) {path name : String} (hpath : Disk.resolve? path = some name) {layout : Layout}
    {timer : Option Duration} {first : ByteArray} {id : Nat} {opened : Store}
    (h : opened.Receives path name layout timer first id true [] []) (hidden : σ) (acts : List Act) :
    ∃ gone, gone <+: taken s id layout acts ⟨hidden, opened⟩ ∧
      (run s id acts ⟨hidden, opened⟩).store.disk.read? path = some (first ++ (String.join gone).toByteArray) := by
  obtain ⟨gone, waiting, hlines, hrun⟩ := run_receives s (w := ⟨hidden, opened⟩) h acts
  exact ⟨gone, ⟨waiting, hlines⟩, hrun.read? hpath⟩

/-- **What a file holds.**  Open a path that no other output has open, and do to the output whatever there is to do, in
any order.  At any time the file holds the bytes that it held at first and behind them the lines of the first records
that were written with success; after a flush, after a close, when the output is let go and when so much time has passed
that it is flushed by the clock, those of all of them.  Records are written with success until the output is closed.
From then on each write fails for this reason and changes nothing.  Flushing and closing always succeed, and a file that
was closed or let go can be opened again and goes on behind what it holds. -/
theorem read?_run_openFile (s : Suppliers σ) {st opened : Store} {path : String} {filter : Filter} {layout : Layout}
    {timer : Option Duration} {id : Nat} (hopen : st.openFile path filter layout timer = (.ok id, opened))
    (hfree : ∀ k, st.opened? k ≠ Disk.resolve? path) (hidden : σ) (acts : List Act) :
    let first := (st.disk.read? path).getD .empty
    let lines := taken s id layout acts ⟨hidden, opened⟩
    let w := run s id acts ⟨hidden, opened⟩
    let flushed := Act.flush.perform s id w
    let closed := Act.close.perform s id w
    (∃ gone, gone <+: lines ∧ w.store.disk.read? path = some (first ++ (String.join gone).toByteArray)) ∧
    (∀ after ∈ [flushed.2.store, closed.2.store, w.store.release id],
      after.disk.read? path = some (first ++ (String.join lines).toByteArray)) ∧
    (∀ time, (∃ d ∈ timer, d.nanoseconds ≤ time.nanoseconds) →
      ((Act.elapse time).perform s id w).2.store.disk.read? path = some (first ++ (String.join lines).toByteArray)) ∧
    (Act.close ∉ acts → ∀ r, (write s id r w).1 = .ok ()) ∧
    (Act.close ∈ acts → ∀ r,
      (write s id r w).1 = .error (.error (.closed path)) ∧ (write s id r w).2.store = w.store) ∧
    flushed.1 = .ok () ∧ closed.1 = .ok () ∧
    (∀ after, Act.close ∈ acts ∧ after = w.store ∨ after = w.store.release id →
      ∀ (filter' : Filter) (layout' : Layout) (timer' : Option Duration), ∃ id' opened',
        after.openFile path filter' layout' timer' = (.ok id', opened') ∧
        ∀ (hidden' : σ) (acts' : List Act), ∃ gone, gone <+: taken s id' layout' acts' ⟨hidden', opened'⟩ ∧
          (run s id' acts' ⟨hidden', opened'⟩).store.disk.read? path
            = some (first ++ (String.join lines).toByteArray ++ (String.join gone).toByteArray)) := by
  intro first lines w flushed closed
  obtain ⟨name, hpath⟩ := Store.resolve?_of_openFile hopen
  rw [hpath] at hfree
  have hopened : opened.Receives path name layout timer first id true [] [] := by
    obtain ⟨id₀, opened₀, hopen₀, h⟩ := Store.openFile_receives hpath hfree filter layout timer
    rw [hopen] at hopen₀
    cases hopen₀
    exact h
  obtain ⟨gone, waiting, hlines, hw⟩ := run_receives s (w := ⟨hidden, opened⟩) hopened acts
  replace hlines : gone ++ waiting = lines := hlines
  rw [Bool.true_and] at hw
  -- flushing, closing and letting go leave no line waiting
  obtain ⟨hflush, hflushed⟩ := hw.flush
  obtain ⟨hclose, hclosed⟩ := hw.close
  have hreleased := hw.release
  rw [hlines] at hflushed hclosed hreleased
  refine ⟨run_read? s hpath hopened hidden acts, ?_, fun time hdue => ?_, fun hacts r => ?_, fun hacts r => ?_, ?_, ?_,
    ?_⟩
  · exact List.forall_mem_cons.2 ⟨hflushed.read? hpath, List.forall_mem_cons.2 ⟨hclosed.read? hpath,
      List.forall_mem_singleton.2 (hreleased.read? hpath)⟩⟩
  · -- the clock leaves no line waiting either
    obtain ⟨moved, kept, rfl, helapsed, hkept⟩ := hw.elapse time
    obtain rfl := hkept hdue
    rw [List.append_nil] at hlines
    rw [hlines] at helapsed
    exact helapsed.read? hpath
  · -- nothing has closed the file, so it takes every record
    rw [Bool.eq_false_iff.2 (mt Act.any_isClose_iff.1 hacts)] at hw
    exact (write_open s hw r).1
  · -- it is closed, so it takes none
    rw [Act.any_isClose_iff.2 hacts] at hw
    exact write_closed s hw r
  · show (w.store.flush id).1.mapError _ = _
    rw [hflush]
    rfl
  · show (w.store.close id).1.mapError _ = _
    rw [hclose]
    rfl
  · intro after hafter filter' layout' timer'
    have hall : after.Receives path name layout timer first id false lines [] := by
      rcases hafter with ⟨hacts, rfl⟩ | rfl
      · -- nothing waits in a file that is closed already
        rw [Act.any_isClose_iff.2 hacts] at hw
        obtain rfl := hw.waiting_of_closed rfl
        rw [List.append_nil] at hlines
        rw [← hlines]
        exact hw
      · exact hreleased
    -- the file that was let go is opened as it is, and then it is a run like the first
    obtain ⟨id', opened', hopen', hopened'⟩ := Store.openFile_receives hpath hall.free filter' layout' timer'
    rw [hall.read? hpath, Option.getD_some] at hopened'
    exact ⟨id', opened', hopen', run_read? s hpath hopened'⟩

/-- A file with a text in it is opened; one record is written, the output is closed and written to again. -/
theorem read?_run_openFile_append :
    let s : Suppliers Unit := ⟨fun _ n => (.null, n), fun _ n => (.null, n)⟩
    let st : Store := { Store.empty with disk := ⟨Fields.nil.insert "app.log" "old\n".toByteArray⟩ }
    let opened := (st.openFile "./app.log" .empty .bunyan none).2
    let record : Record := .ofEntries [("msg", .text "a")]
    let w := run s 0 [.write record, .close] ⟨(), opened⟩
    st.openFile "./app.log" .empty .bunyan none = (.ok 0, opened) ∧
      (∀ k, st.opened? k ≠ Disk.resolve? "./app.log") ∧
      (w.store.release 0).disk.read? "./app.log" = some "old\n\x7b\"msg\":\"a\",\"v\":0\x7d\n".toByteArray ∧
      (write s 0 record w).1 = .error (.error (.closed "./app.log")) := by
  intro s st opened record w
  have hopen : st.openFile "./app.log" .empty .bunyan none = (.ok 0, opened) := rfl
  -- the store has no outputs yet
  have hfree : ∀ k, st.opened? k ≠ Disk.resolve? "./app.log" := by
    intro k
    have hpath : Disk.resolve? "./app.log" = some "app.log" := by decide
    rw [hpath]
    nofun
  obtain ⟨-, hsettled, -, -, hclosed, -⟩ := read?_run_openFile s hopen hfree () [.write record, .close]
  have hlines : taken s 0 .bunyan [.write record, .close] ⟨(), opened⟩ = ["\x7b\"msg\":\"a\",\"v\":0\x7d\n"] := by
    decide +kernel
  have hfirst : (st.disk.read? "./app.log").getD .empty = "old\n".toByteArray := by decide
  refine ⟨hopen, hfree, ?_, (hclosed (by simp) record).1⟩
  have hread := hsettled _ (List.mem_cons_of_mem _ (List.mem_cons_of_mem _ List.mem_cons_self))
  rw [hlines, hfirst] at hread
  exact hread

end Output

end Logbook
