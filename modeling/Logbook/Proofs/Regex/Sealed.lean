import Logbook.Proofs.Regex.Sweep

/-!
# Markers that form no new matches

A replacement can form a new match with its neighbours, but not with every marker.  An expression is sealed by
a marker if it reads no character of the marker, if what it reads never ends right in front of the marker, and if
its conditions do not tell the marker from what it stands for.  Then one pass leaves no match: what could be read
from the result lies in a gap between two markers and could have been read there before.

`Regex.isSealed` checks this on expressions that end in a character of words and a word boundary.

## Key results

- `Reads.lastSet` / `Reads.closing`: how a text read ends, as far as the expression tells
- `sealed_of_isSealed`: the check is sound
- `Sealed.noMatch_of_sweep`: after one pass there is no match
- `Sealed.noMatch_of_sweep_of_misses`: a pass of another expression makes none
-/

namespace Logbook

/-- Every range of the set is a range of the other. -/
def CharSet.within (s w : CharSet) : Bool := s.ranges.all fun r => w.ranges.contains r

/-- What a smaller set has a larger one has. -/
theorem CharSet.contains_of_within {s w : CharSet} (h : s.within w = true) {c : Char}
    (hc : s.contains c = true) : w.contains c = true := by
  obtain ⟨r, hr, hrc⟩ := List.any_eq_true.1 hc
  exact List.any_eq_true.2 ⟨r, by simpa using List.all_eq_true.1 h r hr, hrc⟩

namespace Regex

variable {r : Regex} {marker : List Char}

/-! ## How a text read ends -/

/-- The set of the last character read, if the expression tells. -/
def lastSet? : Regex → Option CharSet
  | set s => some s
  | seq _ b => b.lastSet?
  | rep body (_ + 1) _ _ => body.lastSet?
  | _ => none

/-- The set of the last character read and the words of a word boundary behind it. -/
def closing? : Regex → Option (CharSet × CharSet)
  | seq a (look .wordBoundary word) => a.lastSet?.map fun s => (s, word)
  | seq _ b => b.closing?
  | _ => none

/-- What is read ends with a character of the last set. -/
theorem Reads.lastSet {before : Option Char} {xs : List Char} {after : Option Char} {s : CharSet}
    (h : r.Reads before xs after) (hs : r.lastSet? = some s) :
    ∃ c, xs.getLast? = some c ∧ s.contains c = true := by
  induction r generalizing before xs after with
  | empty => cases hs
  | set s' =>
    obtain rfl : s' = s := Option.some.inj hs
    obtain ⟨c, rfl, hc⟩ := h
    exact ⟨c, rfl, hc⟩
  | look l word => cases hs
  -- a sequence ends with what its second part reads
  | seq a b iha ihb =>
    obtain ⟨ys, zs, rfl, -, hzs⟩ := h
    obtain ⟨c, hlast, hc⟩ := ihb hzs hs
    exact ⟨c, by rw [List.getLast?_append, hlast, Option.some_or], hc⟩
  | alt a b iha ihb => cases hs
  | rep body least most greedy ih =>
    cases least with
    | zero => cases hs
    | succ least =>
      obtain ⟨n, hleast, -, h⟩ := h
      -- on the number of texts: the last of them ends the whole
      have hsucc : ∀ n before xs, Repeats body.Reads (n + 1) before xs after →
          ∃ c, xs.getLast? = some c ∧ s.contains c = true := by
        intro n
        induction n with
        | zero =>
          rintro before xs ⟨ys, zs, rfl, hys, rfl⟩
          obtain ⟨c, hlast, hc⟩ := ih hys hs
          exact ⟨c, by rw [List.append_nil, hlast], hc⟩
        | succ n ihn =>
          rintro before xs ⟨ys, zs, rfl, -, hzs⟩
          obtain ⟨c, hlast, hc⟩ := ihn _ _ hzs
          exact ⟨c, by rw [List.getLast?_append, hlast, Option.some_or], hc⟩
      obtain ⟨n, rfl⟩ : ∃ k, n = k + 1 := ⟨n - 1, by omega⟩
      exact hsucc n before xs h

/-- A text read ends with a character of the set, and with a boundary of words. -/
theorem Reads.closing {before : Option Char} {xs : List Char} {after : Option Char} {s word : CharSet}
    (h : r.Reads before xs after) (hclosing : r.closing? = some (s, word)) :
    ∃ c, xs.getLast? = some c ∧ s.contains c = true ∧ word.contains c ≠ after.any word.contains := by
  -- along the last parts of the expression, the end of which is a look
  fun_induction closing? r generalizing before xs with
  | case1 a word' =>
    obtain ⟨s', hs', heq⟩ := Option.map_eq_some_iff.1 hclosing
    obtain ⟨rfl, rfl⟩ := Prod.mk.inj heq
    obtain ⟨ys, zs, rfl, hys, rfl, hbetween⟩ := h
    obtain ⟨c, hlast, hc⟩ := hys.lastSet hs'
    refine ⟨c, by rw [List.append_nil, hlast], hc, ?_⟩
    rw [hlast] at hbetween
    simpa [Look.holdsBetween] using hbetween
  | case2 a b _ ih =>
    obtain ⟨ys, zs, rfl, -, hzs⟩ := h
    obtain ⟨c, hlast, hc⟩ := ih hzs hclosing
    exact ⟨c, by rw [List.getLast?_append, hlast, Option.some_or], hc⟩
  | case3 => cases hclosing

/-! ## Sealed expressions -/

/-- What is read keeps apart from the marker. -/
structure Sealed (r : Regex) (marker : List Char) : Prop where
  ne_nil : marker ≠ []
  avoids : ∀ s ∈ r.sets, ∀ c ∈ marker, s.contains c = false
  reads_ne_nil : ∀ {before xs after}, r.Reads before xs after → xs ≠ []
  after_ne : ∀ {before xs after}, r.Reads before xs after → after ≠ marker.head?
  behind : ∀ {before xs after}, r.Reads before xs after → SameBefore r xs.getLast? marker.getLast?

/-- A check on expressions that end in a character of words and a word boundary. -/
def isSealed (r : Regex) (marker : List Char) : Bool :=
  match r.closing?, marker.head?, marker.getLast? with
  | some (s, word), some first, some last =>
    r.sets.all (fun s => marker.all fun c => !s.contains c) && word.contains first && s.within word &&
      r.looks.all fun l => decide (l.1 = .wordBoundary) && s.within l.2 && l.2.contains last
  | _, _, _ => false

/-- What is tested of the expression seals its matches off. -/
theorem sealed_of_isSealed (h : r.isSealed marker = true) : r.Sealed marker := by
  rw [isSealed] at h
  split at h
  next s word first last hclosing hfirst hlast =>
    simp only [Bool.and_eq_true, List.all_eq_true, Bool.not_eq_true', decide_eq_true_eq] at h
    obtain ⟨⟨⟨havoids, hword⟩, hwithin⟩, hlooks⟩ := h
    refine ⟨?_, havoids, fun {before xs after} hreads => ?_, fun {before xs after} hreads => ?_,
      fun {before xs after} hreads => ?_⟩
    · rintro rfl
      cases hfirst
    · obtain ⟨c, hc, -⟩ := hreads.closing hclosing
      rintro rfl
      cases hc
    · -- the last character and the first one of the marker are both of words: no boundary
      obtain ⟨c, -, hc, hbetween⟩ := hreads.closing hclosing
      rintro rfl
      rw [hfirst] at hbetween
      exact hbetween (by simp [CharSet.contains_of_within hwithin hc, hword])
    · obtain ⟨c, hxs, hc, -⟩ := hreads.closing hclosing
      rintro ⟨l, w⟩ hl after
      obtain ⟨⟨rfl, hlwithin⟩, hllast⟩ := hlooks _ hl
      rw [hxs, hlast]
      simp [Look.holdsBetween, CharSet.contains_of_within hlwithin hc, hllast]
  next => cases h

/-! ## One pass -/

/-- It does not matter which of two characters comes first. -/
theorem SameBefore.symm {before before' : Option Char} (h : SameBefore r before before') :
    SameBefore r before' before := fun l hl after => (h l hl after).symm

/-- What is missed behind one character is missed behind the other. -/
theorem SameBefore.misses {before before' : Option Char} {text : List Char}
    (hsame : SameBefore r before before') (h : r.Misses before text) : r.Misses before' text :=
  fun xs post hsplit hreads => h xs post hsplit (hreads.congr_before hsame.symm)

/-- More text in front does not tell them apart. -/
theorem SameBefore.append {pre pre' : List Char} (h : SameBefore r pre.getLast? pre'.getLast?)
    (front : List Char) : SameBefore r (pre ++ front).getLast? (pre' ++ front).getLast? := by
  rw [List.getLast?_append, List.getLast?_append]
  exact h.or _

/-- No character of the marker is read. -/
theorem Sealed.notMem (hsealed : r.Sealed marker) {before : Option Char} {xs : List Char}
    {after : Option Char} (h : r.Reads before xs after) {c : Char} (hc : c ∈ xs) : c ∉ marker := by
  intro hmarker
  obtain ⟨s, hs, hsc⟩ := h.mem_sets c hc
  rw [hsealed.avoids s hs c hmarker] at hsc
  cases hsc

/-- Nothing is read that starts in the marker. -/
theorem Sealed.misses_marker (hsealed : r.Sealed marker) {before : Option Char} {c : Char} {text : List Char}
    (hc : c ∈ marker) : r.Misses before (c :: text) := by
  intro xs post hsplit hreads
  cases xs with
  | nil => exact hsealed.reads_ne_nil hreads rfl
  | cons d xs =>
    obtain ⟨rfl, -⟩ := List.cons.inj hsplit
    exact hsealed.notMem hreads (by simp) hc

/-- What is read from a gap ends in the gap, so it can be read there whatever follows. -/
theorem Sealed.misses_gap (hsealed : r.Sealed marker) {before : Option Char} {gap text out : List Char}
    (h : r.Misses before (gap ++ text)) : r.Misses before (gap ++ (marker ++ out)) := by
  intro xs post hsplit hreads
  obtain ⟨first, tail, hmarker⟩ := List.exists_cons_of_ne_nil hsealed.ne_nil
  -- it ends in the gap, in the marker or behind it
  rcases place_cases hsplit with ⟨c, g, rfl, rfl⟩ | ⟨c, m, m', hm, rfl, rfl⟩ | ⟨more, rfl, -⟩
  · exact h xs (c :: g ++ text) (by rw [List.append_assoc]) hreads
  · cases m' with
    | nil => exact hsealed.after_ne hreads (by rw [hm]; rfl)
    | cons d m' => exact hsealed.notMem hreads (c := d) (by simp) (by simp [hm])
  · exact hsealed.notMem hreads (c := first) (by simp [hmarker]) (by simp [hmarker])

/-- A pass of any expression leaves no match of a sealed one where there was none, if what stands in front of a place
in the result tells it no more than what stood there before.  By induction on the pass; the text `pre'` that stands
before the result may differ from what stood before the text, if the conditions do not tell them apart. -/
theorem Sealed.noMatch_of_sweep_of_misses (hsealed : r.Sealed marker) {q : Regex}
    (hends : ∀ {before xs after}, q.Reads before xs after → xs ≠ [] ∧ SameBefore r xs.getLast? marker.getLast?)
    {pre text out : List Char} (h : Sweep q marker pre text out)
    (hmisses : ∀ front back, text = front ++ back → q.Misses (pre ++ front).getLast? back →
      r.Misses (pre ++ front).getLast? back)
    {pre' : List Char} (hsame : SameBefore r pre.getLast? pre'.getLast?) : r.NoMatch pre' out := by
  induction h generalizing pre' with
  -- without a match the text stays, and there `r` is missing where `q` is
  | done h =>
    exact fun front back hsplit => (hsame.append front).misses (hmisses front back hsplit (h front back hsplit))
  | @next pre gap m rest out hgap hm _ ih =>
    intro front back hsplit
    rw [List.append_assoc] at hsplit
    rcases place_cases hsplit with ⟨c, g, rfl, rfl⟩ | ⟨c, m, m', hmarker, -, rfl⟩ | ⟨more, rfl, rfl⟩
    · -- a place in the gap, with a character before it or at the start
      have hmiss := hmisses front (c :: g ++ (m ++ rest)) (by simp) (hgap front (c :: g) rfl (by simp))
      exact hsealed.misses_gap ((hsame.append front).misses hmiss)
    · -- a place within the marker, which is sealed
      exact hsealed.misses_marker (by simp [hmarker])
    · -- behind the marker the pass goes on, and the marker stands where the match stood
      have hbehind : SameBefore r (pre ++ gap ++ m).getLast? (pre' ++ gap ++ marker).getLast? := by
        have hlast : ∀ {front xs : List Char}, xs ≠ [] → (front ++ xs).getLast? = xs.getLast? := by
          intro front xs hne
          rw [List.getLast?_append, List.getLast?_eq_some_getLast hne, Option.some_or]
        obtain ⟨hne, hsame⟩ := hends hm.reads
        rw [hlast hne, hlast hsealed.ne_nil]
        exact hsame
      have hmissesRest : ∀ front back, rest = front ++ back → q.Misses (pre ++ gap ++ m ++ front).getLast? back →
          r.Misses (pre ++ gap ++ m ++ front).getLast? back := by
        rintro front back rfl
        have hmiss := hmisses (gap ++ m ++ front) back (by simp)
        rwa [← List.append_assoc pre, ← List.append_assoc pre] at hmiss
      have hmiss := ih hmissesRest hbehind more back rfl
      rwa [List.append_assoc pre', List.append_assoc pre'] at hmiss

/-- **After one pass there is no match.** -/
theorem Sealed.noMatch_of_sweep (hsealed : r.Sealed marker) {pre text out : List Char}
    (h : Sweep r marker pre text out) {pre' : List Char} (hsame : SameBefore r pre.getLast? pre'.getLast?) :
    r.NoMatch pre' out :=
  hsealed.noMatch_of_sweep_of_misses (fun hreads => ⟨hsealed.reads_ne_nil hreads, hsealed.behind hreads⟩) h
    (fun _ _ _ hmiss => hmiss) hsame

/-! ## Passes of other expressions -/

/-- The set of the last character read, a word boundary behind it or not. -/
def ending? (r : Regex) : Option CharSet := r.lastSet?.or (r.closing?.map (·.1))

/-- What is read ends with a character of the ending set. -/
theorem Reads.ending {before : Option Char} {xs : List Char} {after : Option Char} {s : CharSet}
    (h : r.Reads before xs after) (hs : r.ending? = some s) : ∃ c, xs.getLast? = some c ∧ s.contains c = true := by
  rcases Option.or_eq_some_iff.1 hs with hs | ⟨-, hs⟩
  · exact h.lastSet hs
  · obtain ⟨⟨s', word⟩, hclosing, rfl⟩ := Option.map_eq_some_iff.1 hs
    obtain ⟨c, hlast, hc, -⟩ := h.closing hclosing
    exact ⟨c, hlast, hc⟩

/-- A check that an expression cannot tell the marker from what `q` reads when it looks back: all its conditions are
word boundaries, and both end in a character of words. -/
def endsAlike (r q : Regex) (marker : List Char) : Bool :=
  match q.ending?, marker.getLast? with
  | some s, some last => r.looks.all fun l => decide (l.1 = .wordBoundary) && s.within l.2 && l.2.contains last
  | _, _ => false

/-- What is read is not empty, and behind it the expression reads as it does behind the marker. -/
theorem sameBefore_of_endsAlike {q : Regex} (h : r.endsAlike q marker = true) {before : Option Char} {xs : List Char}
    {after : Option Char} (hreads : q.Reads before xs after) :
    xs ≠ [] ∧ SameBefore r xs.getLast? marker.getLast? := by
  rw [endsAlike] at h
  split at h
  next s last hending hlast =>
    simp only [List.all_eq_true, Bool.and_eq_true, decide_eq_true_eq] at h
    obtain ⟨c, hxs, hc⟩ := hreads.ending hending
    refine ⟨?_, ?_⟩
    · rintro rfl
      cases hxs
    · rintro ⟨l, w⟩ hl after
      -- the looks at the start see a character of the same kind
      obtain ⟨⟨rfl, hlwithin⟩, hllast⟩ := h _ hl
      rw [hxs, hlast]
      simp [Look.holdsBetween, CharSet.contains_of_within hlwithin hc, hllast]
  next => cases h

end Regex

end Logbook
