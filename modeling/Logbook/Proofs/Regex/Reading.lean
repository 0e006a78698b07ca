import Logbook.Proofs.Regex.Repetition

/-!
# What an expression reads

`Regex.Reads r before xs after` says that `r` reads the text `xs` where it stands between two characters, which are
missing at the ends of the whole text.  It is defined by recursion on the expression and knows nothing of
places, of an order or of marks.  `Regex.ends` is correct for it: the places it lists are the ends of the
texts that are read.

## Key results

- `holds_eq`: a condition depends on the characters on both sides of a place only
- `mem_ends`: `ends` lists where the texts that an expression reads end
- `Reads.mem_sets`: what is read consists of characters of the expression's sets
- `Reads.congr_before`: the character before matters for conditions only
-/

namespace Logbook

/-- Whether a condition holds between two characters, which are missing at the ends of the text. -/
def Look.holdsBetween (l : Look) (word : CharSet) (before after : Option Char) : Bool :=
  let wordBefore := before.any word.contains
  let wordAfter := after.any word.contains
  match l with
  | .textStart => before.isNone
  | .textEnd => after.isNone
  | .lineStart => before.isNone || before = some '\n'
  | .lineEnd => after.isNone || after = some '\n'
  | .lineStartAny => before.isNone || before = some '\n' || (before = some '\r' && after ≠ some '\n')
  | .lineEndAny => after.isNone || after = some '\r' || (after = some '\n' && before ≠ some '\r')
  | .wordBoundary => wordBefore != wordAfter
  | .notWordBoundary => wordBefore == wordAfter
  | .wordStart => !wordBefore && wordAfter
  | .wordEnd => wordBefore && !wordAfter
  | .wordStartHalf => !wordBefore
  | .wordEndHalf => !wordAfter

namespace Regex

/-- So many texts one after another, each read in its place. -/
def Repeats (R : Option Char → List Char → Option Char → Prop) :
    Nat → Option Char → List Char → Option Char → Prop
  | 0, _, xs, _ => xs = []
  | n + 1, before, xs, after => ∃ ys zs, xs = ys ++ zs ∧ R before ys (zs.head?.or after) ∧
      Repeats R n (ys.getLast?.or before) zs after

/-- The expression reads a text between two characters. -/
def Reads : Regex → Option Char → List Char → Option Char → Prop
  | empty, _, xs, _ => xs = []
  | set s, _, xs, _ => ∃ c, xs = [c] ∧ s.contains c = true
  | look l word, before, xs, after => xs = [] ∧ l.holdsBetween word before after = true
  | seq a b, before, xs, after => ∃ ys zs, xs = ys ++ zs ∧ Reads a before ys (zs.head?.or after) ∧
      Reads b (ys.getLast?.or before) zs after
  | alt a b, before, xs, after => Reads a before xs after ∨ Reads b before xs after
  | rep body least most _, before, xs, after => ∃ n, least ≤ n ∧ (∀ m, most = some m → n ≤ max least m) ∧
      Repeats (Reads body) n before xs after

/-! ## Places in a text that is cut in two -/

variable {t : Subject} {pre rest : List Char}

/-- A text is as long as its two parts. -/
theorem size_of_cut (h : t.toList = pre ++ rest) : t.size = pre.length + rest.length := by
  rw [← Array.length_toList, h, List.length_append]

/-- Behind the first part the second begins. -/
theorem getElem?_of_cut (h : t.toList = pre ++ rest) : t[pre.length]? = rest.head? := by
  rw [← Array.getElem?_toList, h, List.getElem?_append_right (Nat.le_refl _), Nat.sub_self,
    List.head?_eq_getElem?]

/-- A text can be cut at each of its places. -/
theorem exists_cut {i : Nat} (hi : i ≤ t.size) : ∃ pre rest, t.toList = pre ++ rest ∧ pre.length = i := by
  refine ⟨t.toList.take i, t.toList.drop i, (List.take_append_drop i _).symm, ?_⟩
  rw [List.length_take, Array.length_toList]
  omega

/-- Before the second part the first ends. -/
theorem before?_of_cut (h : t.toList = pre ++ rest) : before? t pre.length = pre.getLast? := by
  rw [before?, List.getLast?_eq_getElem?]
  split
  next hzero => simp [hzero]
  next hzero => rw [← Array.getElem?_toList, h, List.getElem?_append_left (by omega)]

/-- A condition depends on the characters on both sides of a place only. -/
theorem holds_eq (h : t.toList = pre ++ rest) (l : Look) (word : CharSet) :
    holds l word t pre.length = l.holdsBetween word pre.getLast? rest.head? := by
  have hsize := size_of_cut h
  -- a place is at an end of the text exactly if there is no character on that side
  have hstart : decide (pre.length = 0) = pre.getLast?.isNone := by
    cases pre <;> simp
  have hend : decide (pre.length = t.size) = rest.head?.isNone := by
    cases rest <;> simp [hsize]
  cases l <;>
    simp only [holds, Look.holdsBetween, before?_of_cut h, getElem?_of_cut h, hstart, hend]

/-- Ends that are given by texts behind a place make steps that lead forward. -/
theorem forward_of_texts {step : Nat → List Nat}
    (h : ∀ pre rest, t.toList = pre ++ rest → ∀ j ∈ step pre.length,
      ∃ xs post, rest = xs ++ post ∧ j = pre.length + xs.length) : Forward step t.size := by
  intro i hi j hj
  obtain ⟨pre, rest, hcut, rfl⟩ := exists_cut hi
  obtain ⟨xs, post, hrest, rfl⟩ := h pre rest hcut j hj
  have hsize := size_of_cut hcut
  rw [hrest, List.length_append] at hsize
  omega

/-! ## The ends listed are those of the texts read -/

/-- A step that reads a text, and another behind it, read two texts one after the other. -/
theorem exists_step_iff_reads {step : Nat → List Nat} {P : Nat → Prop} {k : Nat}
    {R S : Option Char → List Char → Option Char → Prop} (hcut : t.toList = pre ++ rest)
    (hstep : ∀ j, j ∈ step pre.length ↔
      ∃ xs post, rest = xs ++ post ∧ j = pre.length + xs.length ∧ R pre.getLast? xs post.head?)
    (hrest : ∀ pre rest, t.toList = pre ++ rest → (P pre.length ↔
      ∃ xs post, rest = xs ++ post ∧ k = pre.length + xs.length ∧ S pre.getLast? xs post.head?)) :
    (∃ j ∈ step pre.length, P j) ↔
      ∃ xs post, rest = xs ++ post ∧ k = pre.length + xs.length ∧ ∃ ys zs, xs = ys ++ zs ∧
        R pre.getLast? ys (zs.head?.or post.head?) ∧ S (ys.getLast?.or pre.getLast?) zs post.head? := by
  -- the second text starts behind the first, so the whole is cut there
  constructor
  · rintro ⟨j, hj, hk⟩
    obtain ⟨ys, post, rfl, rfl, hR⟩ := (hstep j).1 hj
    have hcut' : t.toList = (pre ++ ys) ++ post := by rw [hcut, List.append_assoc]
    rw [← List.length_append] at hk
    obtain ⟨zs, post, rfl, rfl, hS⟩ := (hrest _ _ hcut').1 hk
    refine ⟨ys ++ zs, post, by rw [List.append_assoc], by simp [Nat.add_assoc], ys, zs, rfl, ?_, ?_⟩
    · rwa [← List.head?_append]
    · rwa [← List.getLast?_append]
  · rintro ⟨xs, post, rfl, rfl, ys, zs, rfl, hR, hS⟩
    have hcut' : t.toList = (pre ++ ys) ++ (zs ++ post) := by rw [hcut]; simp
    refine ⟨pre.length + ys.length, (hstep _).2 ⟨ys, zs ++ post, by simp, rfl, ?_⟩, ?_⟩
    · rwa [List.head?_append]
    · rw [← List.length_append]
      exact (hrest _ _ hcut').2 ⟨zs, post, rfl, by simp [Nat.add_assoc], by rwa [List.getLast?_append]⟩

/-- Walks of steps that read single texts read texts one after another. -/
theorem walk_iff_repeats {step : Nat → List Nat} {R : Option Char → List Char → Option Char → Prop}
    (h : ∀ pre rest, t.toList = pre ++ rest → ∀ j, j ∈ step pre.length ↔
      ∃ xs post, rest = xs ++ post ∧ j = pre.length + xs.length ∧ R pre.getLast? xs post.head?)
    (hcut : t.toList = pre ++ rest) {n k : Nat} :
    Walk step n pre.length k ↔
      ∃ xs post, rest = xs ++ post ∧ k = pre.length + xs.length ∧ Repeats R n pre.getLast? xs post.head? := by
  induction n generalizing pre rest with
  | zero =>
    rw [walk_zero]
    constructor
    · rintro rfl
      exact ⟨[], rest, rfl, rfl, rfl⟩
    · rintro ⟨xs, post, -, rfl, rfl⟩
      rfl
  | succ n ih =>
    rw [walk_succ]
    exact exists_step_iff_reads hcut (h pre rest hcut) fun pre rest hcut' => ih hcut'

/-- **`ends` lists where the texts that an expression reads end.**  By induction on the expression. -/
theorem mem_ends {r : Regex} (hcut : t.toList = pre ++ rest) {j : Nat} :
    j ∈ ends t r pre.length ↔
      ∃ xs post, rest = xs ++ post ∧ j = pre.length + xs.length ∧ r.Reads pre.getLast? xs post.head? := by
  induction r generalizing pre rest j with
  | empty =>
    rw [ends, List.mem_singleton]
    constructor
    · rintro rfl
      exact ⟨[], rest, rfl, rfl, rfl⟩
    · rintro ⟨xs, post, -, rfl, rfl⟩
      rfl
  | set s =>
    rw [ends, getElem?_of_cut hcut]
    cases rest with
    | nil =>
      simp only [List.head?_nil, List.not_mem_nil, false_iff]
      rintro ⟨xs, post, hnil, -, c, rfl, -⟩
      simp at hnil
    | cons c cs =>
      simp only [List.head?_cons]
      constructor
      · intro h
        split at h
        next hc => exact ⟨[c], cs, rfl, List.mem_singleton.1 h, c, rfl, hc⟩
        next => cases h
      · rintro ⟨xs, post, hxs, rfl, d, rfl, hd⟩
        obtain ⟨rfl, rfl⟩ := List.cons.inj hxs
        rw [if_pos hd]
        simp
  | look l word =>
    rw [ends, holds_eq hcut]
    constructor
    · intro h
      split at h
      next hl => exact ⟨[], rest, rfl, List.mem_singleton.1 h, rfl, hl⟩
      next => cases h
    · rintro ⟨xs, post, rfl, rfl, rfl, hl⟩
      rw [List.nil_append, if_pos hl]
      simp
  | seq a b iha ihb =>
    rw [ends, mem_followed]
    exact exists_step_iff_reads hcut (fun j => iha hcut) fun pre rest hcut' => ihb hcut'
  | alt a b iha ihb =>
    rw [ends, mem_firsts, List.mem_append, iha hcut, ihb hcut]
    constructor
    · rintro (⟨xs, post, hrest, hj, h⟩ | ⟨xs, post, hrest, hj, h⟩)
      · exact ⟨xs, post, hrest, hj, .inl h⟩
      · exact ⟨xs, post, hrest, hj, .inr h⟩
    · rintro ⟨xs, post, hrest, hj, h | h⟩
      · exact .inl ⟨xs, post, hrest, hj, h⟩
      · exact .inr ⟨xs, post, hrest, hj, h⟩
  | rep body least most greedy ih =>
    -- the body leads forward, so the search for the ends of its repetition loses none
    have hforward : Forward (ends t body) t.size := forward_of_texts fun pre rest hcut j hj => by
      obtain ⟨xs, post, hrest, hj, -⟩ := (ih hcut).1 hj
      exact ⟨xs, post, hrest, hj⟩
    have hsize : pre.length ≤ t.size := by rw [size_of_cut hcut]; omega
    rw [ends, mem_repeatedly hforward hsize]
    constructor
    · rintro ⟨n, hleast, hmost, hwalk⟩
      obtain ⟨xs, post, hrest, hj, h⟩ := (walk_iff_repeats (fun pre rest hcut j => ih hcut) hcut).1 hwalk
      exact ⟨xs, post, hrest, hj, n, hleast, hmost, h⟩
    · rintro ⟨xs, post, hrest, hj, n, hleast, hmost, h⟩
      refine ⟨n, hleast, hmost, ?_⟩
      exact (walk_iff_repeats (fun pre rest hcut j => ih hcut) hcut).2 ⟨xs, post, hrest, hj, h⟩

/-- Ends lie behind the start and in the text. -/
theorem forward_ends (r : Regex) : Forward (ends t r) t.size :=
  forward_of_texts fun pre rest hcut j hj => by
    obtain ⟨xs, post, hrest, hj, -⟩ := (mem_ends hcut).1 hj
    exact ⟨xs, post, hrest, hj⟩

/-! ## Characters and contexts -/

/-- The sets of an expression. -/
def sets : Regex → List CharSet
  | empty => []
  | set s => [s]
  | look .. => []
  | seq a b => a.sets ++ b.sets
  | alt a b => a.sets ++ b.sets
  | rep body .. => body.sets

/-- The conditions of an expression. -/
def looks : Regex → List (Look × CharSet)
  | empty => []
  | set _ => []
  | look l word => [(l, word)]
  | seq a b => a.looks ++ b.looks
  | alt a b => a.looks ++ b.looks
  | rep body .. => body.looks

/-- What every text read has of its characters, texts read one after another have too. -/
theorem Repeats.forall_mem {R : Option Char → List Char → Option Char → Prop} {P : Char → Prop}
    (hR : ∀ before xs after, R before xs after → ∀ c ∈ xs, P c) {n : Nat} {before : Option Char}
    {xs : List Char} {after : Option Char} (h : Repeats R n before xs after) : ∀ c ∈ xs, P c := by
  -- by induction on the repetitions
  induction n generalizing before xs with
  | zero =>
    obtain rfl : xs = [] := h
    simp
  | succ n ih =>
    obtain ⟨ys, zs, rfl, hys, hzs⟩ := h
    intro c hc
    rcases List.mem_append.1 hc with hc | hc
    · exact hR _ _ _ hys c hc
    · exact ih hzs c hc

/-- What is read consists of characters of the expression's sets. -/
theorem Reads.mem_sets {r : Regex} {before : Option Char} {xs : List Char} {after : Option Char}
    (h : r.Reads before xs after) : ∀ c ∈ xs, ∃ s ∈ r.sets, s.contains c = true := by
  -- by induction on the expression: what it reads is made of what its parts read
  induction r generalizing before xs after with
  | empty =>
    obtain rfl : xs = [] := h
    simp
  | set s =>
    obtain ⟨c, rfl, hc⟩ := h
    simpa [sets] using hc
  | look l word =>
    obtain ⟨rfl, -⟩ := h
    simp
  | seq a b iha ihb =>
    obtain ⟨ys, zs, rfl, hys, hzs⟩ := h
    intro c hc
    rcases List.mem_append.1 hc with hc | hc
    · obtain ⟨s, hs, hsc⟩ := iha hys c hc
      exact ⟨s, List.mem_append_left _ hs, hsc⟩
    · obtain ⟨s, hs, hsc⟩ := ihb hzs c hc
      exact ⟨s, List.mem_append_right _ hs, hsc⟩
  | alt a b iha ihb =>
    intro c hc
    rcases h with h | h
    · obtain ⟨s, hs, hsc⟩ := iha h c hc
      exact ⟨s, List.mem_append_left _ hs, hsc⟩
    · obtain ⟨s, hs, hsc⟩ := ihb h c hc
      exact ⟨s, List.mem_append_right _ hs, hsc⟩
  | rep body least most greedy ih =>
    obtain ⟨n, -, -, h⟩ := h
    exact h.forall_mem fun _ _ _ h => ih h

/-- Two characters before a text that the conditions of an expression do not tell apart. -/
def SameBefore (r : Regex) (before before' : Option Char) : Prop :=
  ∀ l ∈ r.looks, ∀ after, l.1.holdsBetween l.2 before after = l.1.holdsBetween l.2 before' after

/-- What stands nearer counts first. -/
theorem SameBefore.or {r : Regex} {before before' : Option Char} (h : SameBefore r before before')
    (nearer : Option Char) : SameBefore r (nearer.or before) (nearer.or before') := by
  cases nearer with
  | none => exact h
  | some c => exact fun _ _ _ => rfl

/-- The character before matters for conditions only. -/
theorem Reads.congr_before {r : Regex} {before before' : Option Char} {xs : List Char} {after : Option Char}
    (hsame : SameBefore r before before') (h : r.Reads before xs after) : r.Reads before' xs after := by
  induction r generalizing before before' xs after with
  | empty => exact h
  | set s => exact h
  | look l word => exact ⟨h.1, by rw [← hsame (l, word) (List.mem_singleton.2 rfl)]; exact h.2⟩
  | seq a b iha ihb =>
    obtain ⟨ys, zs, hxs, hys, hzs⟩ := h
    have hb : SameBefore b before before' := fun l hl => hsame l (List.mem_append_right _ hl)
    exact ⟨ys, zs, hxs, iha (fun l hl => hsame l (List.mem_append_left _ hl)) hys, ihb (hb.or _) hzs⟩
  | alt a b iha ihb =>
    exact h.imp (iha fun l hl => hsame l (List.mem_append_left _ hl))
      (ihb fun l hl => hsame l (List.mem_append_right _ hl))
  | rep body least most greedy ih =>
    obtain ⟨n, hleast, hmost, h⟩ := h
    refine ⟨n, hleast, hmost, ?_⟩
    replace hsame : SameBefore body before before' := hsame
    -- the character before is handed on from one text to the next as long as these are empty
    clear hleast hmost
    induction n generalizing before before' xs with
    | zero => exact h
    | succ n ihn =>
      obtain ⟨ys, zs, hxs, hys, hzs⟩ := h
      exact ⟨ys, zs, hxs, ih hsame hys, ihn hzs (hsame.or _)⟩

end Regex

end Logbook
