import Logbook.Proofs.Redaction.Numbers
import Logbook.Proofs.Redaction.Places
import Logbook.Proofs.Redaction.Settled

/-!
# What the patterns of the library leave behind

Each pattern of a list goes over a text once, in order.  Card numbers and telephone numbers are gone then, whatever
patterns come later: no marker makes a new one (`finds_redact_of_not`).  An address is different, for the letters of a
marker can complete one: of `a@b.4111111111111111` the pattern for cards leaves an address, and if the pattern for
addresses does not come later, it stays.  It is never left if behind the last pattern for addresses there are only
patterns that come in front of it, too (`AddressesLast`).

## Key results

- `finds_redactText`: no card number and no telephone number is left
- `addressesLast_iff`: when no address is left either
- `Value.Redacted.again`: a second pass leaves all alone but what guarded values gave out
- `Record.redact_shipped`: what the patterns leave of a record, and what a second pass does
-/

namespace Logbook

namespace Redaction

open Pattern

variable {p q : Pattern} {ps : List Pattern} {text : String}

/-! ## One pattern after another -/

/-- Whether the pattern has a match in the text. -/
def Pattern.finds (p : Pattern) (text : String) : Bool := p.regex.isMatch text.toList.toArray

/-- Nothing is found exactly if nothing matches. -/
theorem finds_eq_false_iff : p.finds text = false ↔ p.regex.NoMatch [] text.toList := Regex.isMatch_eq_false_iff

/-- Without patterns nothing is changed. -/
theorem redactText_nil (text : String) : redactText (List.map .pattern []) text = text := rfl

/-- The first pattern comes before the others. -/
theorem redactText_cons (p : Pattern) (ps : List Pattern) (text : String) :
    redactText ((p :: ps).map .pattern) text = redactText (ps.map .pattern) (p.redact text).1 := rfl

/-- The patterns of the first list come before those of the second. -/
theorem redactText_append (ps qs : List Pattern) (text : String) :
    redactText ((ps ++ qs).map .pattern) text = redactText (qs.map .pattern) (redactText (ps.map .pattern) text) := by
  simp only [redactText, patterns_map, List.foldl_append]

/-- A text in which nothing is found is left alone. -/
theorem redact_of_finds (h : p.finds text = false) : (p.redact text).1 = text := by
  rw [redact_of_noMatch (finds_eq_false_iff.1 h)]

/-- A text in which no pattern finds anything stays as it is. -/
theorem redactText_of_finds (h : ∀ p ∈ ps, p.finds text = false) : redactText (ps.map .pattern) text = text := by
  induction ps with
  | nil => rfl
  | cons p ps ih =>
    rw [redactText_cons, redact_of_finds (h p (by simp))]
    exact ih fun q hq => h q (by simp [hq])

/-! ## Card and telephone numbers -/

/-- For the patterns for numbers the matches of all three end like the mask. -/
theorem endsAlike_shipped :
    ([creditCard, phone].all fun p => [creditCard, email, phone].all fun q =>
      p.regex.endsAlike q.regex p.marker.toList && decide (q.marker = p.marker)) = true := by
  decide +kernel

/-- No pattern of the library makes a card number or a telephone number. -/
theorem finds_redact_of_not (hp : p ∈ [creditCard, phone]) (hq : q ∈ [creditCard, email, phone])
    (h : p.finds text = false) : p.finds (q.redact text).1 = false := by
  have hsealed : p.regex.Sealed p.marker.toList :=
    Regex.sealed_of_isSealed (List.all_eq_true.1 isSealed_cards_phones p hp)
  have hcheck := List.all_eq_true.1 (List.all_eq_true.1 endsAlike_shipped p hp) q hq
  simp only [Bool.and_eq_true, decide_eq_true_eq] at hcheck
  obtain ⟨hends, hmarker⟩ := hcheck
  -- one pass keeps the text free of matches
  have hpass : ∀ {xs ys : List Char}, q.pass? xs = some ys → p.regex.NoMatch [] xs → p.regex.NoMatch [] ys := by
    intro xs ys hys hxs
    have hreads : ∀ {before zs after}, q.regex.Reads before zs after →
        zs ≠ [] ∧ p.regex.SameBefore zs.getLast? p.marker.toList.getLast? := Regex.sameBefore_of_endsAlike hends
    have hsweep := Regex.sweep_of_replaceAll? (fun _ _ hempty => (hreads hempty).1 rfl) hys
    rw [hmarker] at hsweep
    exact hsealed.noMatch_of_sweep_of_misses hreads hsweep (fun front back hsplit _ => hxs front back hsplit)
      fun _ _ _ => rfl
  rw [finds_eq_false_iff] at h ⊢
  rw [redact, String.toList_ofList, redactList_fst]
  exact settle_keeps hpass h passes

/-- What a pattern for numbers does not find, it does not find after other patterns either. -/
theorem finds_redactText_of_not (hp : p ∈ [creditCard, phone]) (hps : ps ⊆ [creditCard, email, phone])
    (h : p.finds text = false) : p.finds (redactText (ps.map .pattern) text) = false := by
  induction ps generalizing text with
  | nil => exact h
  | cons q ps ih =>
    rw [redactText_cons]
    exact ih (fun _ hq => hps (by simp [hq])) (finds_redact_of_not hp (hps (by simp)) h)

/-- A pattern of the library finds nothing in what it has redacted. -/
theorem finds_redact (hp : p ∈ [creditCard, email, phone]) (text : String) : p.finds (p.redact text).1 = false :=
  finds_eq_false_iff.2 (noMatch_redact hp text)

/-- No card number and no telephone number is left. -/
theorem finds_redactText (hps : ps ⊆ [creditCard, email, phone]) (hp : p ∈ [creditCard, phone]) (hmem : p ∈ ps)
    (text : String) : p.finds (redactText (ps.map .pattern) text) = false := by
  obtain ⟨front, back, rfl⟩ := List.append_of_mem hmem
  rw [redactText_append, redactText_cons]
  apply finds_redactText_of_not hp fun q hq => hps (by simp [hq])
  exact finds_redact (hps hmem) _

/-! ## Addresses -/

/-- Behind the last pattern for addresses there are only patterns that come in front of it, too. -/
def AddressesLast (ps : List Pattern) : Prop :=
  ∀ front back, ps = front ++ email :: back → email ∉ back → back ⊆ front

/-- A pattern other than the one for addresses is one for numbers. -/
theorem mem_numbers_of_ne (hp : p ∈ [creditCard, email, phone]) (hne : p ≠ email) : p ∈ [creditCard, phone] := by
  simp only [List.mem_cons, List.not_mem_nil, or_false] at hp ⊢
  tauto

/-- If the pattern for addresses comes last, nothing is left for any of the patterns. -/
theorem finds_of_addressesLast (hps : ps ⊆ [creditCard, email, phone]) (h : AddressesLast ps) (hmem : p ∈ ps)
    (text : String) : p.finds (redactText (ps.map .pattern) text) = false := by
  by_cases hp : p = email
  · subst hp
    -- split the list at its last pattern for addresses
    obtain ⟨after, before, hsplit, hlast⟩ := List.eq_append_cons_of_mem (List.mem_reverse.2 hmem)
    have hsplit : ps = before.reverse ++ email :: after.reverse := by
      simpa using congrArg List.reverse hsplit
    have hback := h _ _ hsplit (by simpa using hlast)
    rw [hsplit, redactText_append, redactText_cons]
    -- what comes behind has been there before, and finds nothing any more
    rw [redactText_of_finds]
    · exact finds_redact (by simp) _
    · intro q hq
      have hq' : q ∈ [creditCard, email, phone] := hps (by simp [hsplit, List.mem_reverse.1 hq])
      have hnumber : q ∈ [creditCard, phone] :=
        mem_numbers_of_ne hq' fun heq => hlast (heq ▸ List.mem_reverse.1 hq)
      apply finds_redact_of_not hnumber (by simp)
      exact finds_redactText (fun r hr => hps (by simp [hsplit, List.mem_reverse.1 hr])) hnumber (hback hq) _
  · exact finds_redactText hps (mem_numbers_of_ne (hps hmem) hp) hmem text

/-- What the pattern for cards leaves of a text that ends in a card number. -/
def halfAddress : String := "a@b.REDACTED"

/-- It is tested of each character that it is ASCII. -/
theorem ascii_of_all {text : List Char} (h : (text.all fun c => decide (c.toNat < 128)) = true) :
    ∀ c ∈ text, c.toNat < 128 := by
  simpa using h

/-- What the patterns for numbers find in an ASCII text, they find with the words of ASCII. -/
theorem finds_eq_withWords (hp : p ∈ [creditCard, phone])
    (htext : (text.toList.all fun c => decide (c.toNat < 128)) = true) :
    p.finds text = (p.regex.withWords Word.asciiSet).isMatch text.toList.toArray :=
  (Regex.isMatch_withWords (Numbers.goesByWords p hp) (by simpa using ascii_of_all htext)).symm

/-- One pass is enough for a number: what it leaves is the text with the marker in the place of the number. -/
theorem redact_eq_withWords (hp : p ∈ [creditCard, phone])
    (htext : (text.toList.all fun c => decide (c.toNat < 128)) = true) {left : String}
    (h : (p.regex.withWords Word.asciiSet).replaceAll? p.marker.toList text.toList = some left.toList) :
    (p.redact text).1 = left := by
  have hpass : p.pass? text.toList = some left.toList := by
    rw [pass?, ← h, Regex.replaceAll?_withWords (Numbers.goesByWords p hp) (ascii_of_all htext)]
  -- one pass settles the text, so the others do nothing
  have hsettled := settlesWithin_one hp text.toList
  have honce : p.settle 1 text.toList = left.toList := by simp only [settle, hpass]
  rw [honce] at hsettled
  have hall : p.settle passes text.toList = left.toList := by
    rw [show passes = 1 + 7 from rfl, settle_add, honce, settle_of_noMatch hsettled]
  show String.ofList (p.redactList text.toList).1 = left
  rw [redactList_fst, hall, String.ofList_toList]

/-- The pattern for addresses leaves the marker of a half address, and finds nothing in the texts with a number. -/
theorem email_texts : (email.finds halfAddress = true ∧ (email.redact halfAddress).1 = mask) ∧
    ∀ text ∈ [mask, "a@b.4111111111111111", "a@b.555-123-4567"], email.finds text = false := by
  decide +kernel

/-- The pattern for cards leaves a half address of the text with a card number, and finds nothing in the others. -/
theorem creditCard_texts : (creditCard.redact "a@b.4111111111111111").1 = halfAddress ∧
    ∀ text ∈ [mask, halfAddress, "a@b.555-123-4567"], creditCard.finds text = false := by
  refine ⟨redact_eq_withWords (by simp) (by decide) ?_, fun text htext => ?_⟩
  · rw [Numbers.regex_creditCard]
    decide +kernel
  · have hascii : (text.toList.all fun c => decide (c.toNat < 128)) = true := by revert text; decide
    rw [finds_eq_withWords (by simp) hascii, Numbers.regex_creditCard]
    revert text
    decide +kernel

/-- The pattern for telephone numbers does so with the text with a telephone number. -/
theorem phone_texts : (phone.redact "a@b.555-123-4567").1 = halfAddress ∧
    ∀ text ∈ [mask, halfAddress, "a@b.4111111111111111"], phone.finds text = false := by
  refine ⟨redact_eq_withWords (by simp) (by decide) ?_, fun text htext => ?_⟩
  · rw [Numbers.regex_phone]
    decide +kernel
  · have hascii : (text.toList.all fun c => decide (c.toNat < 128)) = true := by revert text; decide
    rw [finds_eq_withWords (by simp) hascii, Numbers.regex_phone]
    revert text
    decide +kernel

/-- The half address has no numbers in it. -/
theorem finds_halfAddress : ∀ p ∈ [creditCard, phone], p.finds halfAddress = false := by
  simp [creditCard_texts.2, phone_texts.2]

/-- No pattern of the library finds anything in the marker. -/
theorem finds_mask : ∀ p ∈ [creditCard, email, phone], p.finds mask = false := by
  simp [creditCard_texts.2, email_texts.2, phone_texts.2]

/-- For each pattern for numbers there is a text in which no other pattern finds anything and of which it leaves an
address. -/
theorem exists_halfAddress (hq : q ∈ [creditCard, phone]) :
    ∃ text, (q.redact text).1 = halfAddress ∧ ∀ p ∈ [creditCard, email, phone], p ≠ q → p.finds text = false := by
  -- a number at the place of the end of the address
  simp only [List.mem_cons, List.not_mem_nil, or_false] at hq
  rcases hq with rfl | rfl
  · refine ⟨"a@b.4111111111111111", creditCard_texts.1, fun p hp hne => ?_⟩
    simp only [List.mem_cons, List.not_mem_nil, or_false] at hp
    rcases hp with rfl | rfl | rfl
    · exact absurd rfl hne
    · exact email_texts.2 _ (by simp)
    · exact phone_texts.2 _ (by simp)
  · refine ⟨"a@b.555-123-4567", phone_texts.1, fun p hp hne => ?_⟩
    simp only [List.mem_cons, List.not_mem_nil, or_false] at hp
    rcases hp with rfl | rfl | rfl
    · exact creditCard_texts.2 _ (by simp)
    · exact email_texts.2 _ (by simp)
    · exact absurd rfl hne

/-- A list in which the pattern for addresses does not come last leaves an address of some text. -/
theorem exists_address_of_not (hps : ps ⊆ [creditCard, email, phone]) (h : ¬ AddressesLast ps) :
    email ∈ ps ∧ ∃ text, redactText (ps.map .pattern) text = halfAddress := by
  simp only [AddressesLast, List.subset_def, not_forall] at h
  obtain ⟨front, back, rfl, hlast, q, hq, hfront⟩ := h
  -- a pattern of the list that is not the one for addresses is one for numbers
  have hnumber : q ∈ [creditCard, phone] :=
    mem_numbers_of_ne (hps (by simp [hq])) fun heq => hlast (heq ▸ hq)
  obtain ⟨text, hleft, hothers⟩ := exists_halfAddress hnumber
  -- the first pattern that finds something is the one that comes behind the addresses only
  obtain ⟨between, after, rfl, hbetween⟩ := List.eq_append_cons_of_mem hq
  refine ⟨by simp, text, ?_⟩
  -- no pattern before it finds anything, as it is none of them
  have hbefore : redactText ((front ++ email :: between).map .pattern) text = text := by
    apply redactText_of_finds
    intro p hp
    apply hothers p (hps (by simp at hp ⊢; tauto))
    rintro rfl
    simp only [List.mem_append, List.mem_cons] at hp
    rcases hp with hp | rfl | hp
    · exact hfront hp
    · exact hlast hq
    · exact hbetween hp
  -- and those after it leave what it made
  have hafter : redactText (after.map .pattern) halfAddress = halfAddress := by
    apply redactText_of_finds
    intro p hp
    apply finds_halfAddress p (mem_numbers_of_ne (hps (by simp [hp])) ?_)
    rintro rfl
    exact hlast (by simp [hp])
  rw [show front ++ email :: (between ++ q :: after) = (front ++ email :: between) ++ q :: after by simp,
    redactText_append, hbefore, redactText_cons, hleft, hafter]

/-- Nothing is left for any of the patterns exactly if the pattern for addresses comes last. -/
theorem addressesLast_iff (hps : ps ⊆ [creditCard, email, phone]) :
    AddressesLast ps ↔ ∀ text, ∀ p ∈ ps, p.finds (redactText (ps.map .pattern) text) = false := by
  constructor
  · exact fun h text p hp => finds_of_addressesLast hps h hp text
  · intro h
    by_contra hnot
    obtain ⟨hmem, text, htext⟩ := exists_address_of_not hps hnot
    have hclean := h text email hmem
    rw [htext, email_texts.1.1] at hclean
    cases hclean

/-- Exactly then a second pass changes nothing. -/
theorem addressesLast_iff_idempotent (hps : ps ⊆ [creditCard, email, phone]) :
    AddressesLast ps ↔ ∀ text, redactText (ps.map .pattern) (redactText (ps.map .pattern) text)
      = redactText (ps.map .pattern) text := by
  constructor
  · exact fun h text => redactText_of_finds fun p hp => finds_of_addressesLast hps h hp text
  · intro h
    by_contra hnot
    -- some text is left with an address, which the second run takes
    obtain ⟨hmem, text, htext⟩ := exists_address_of_not hps hnot
    obtain ⟨before, after, rfl, hbefore⟩ := List.eq_append_cons_of_mem hmem
    have hsecond : redactText ((before ++ email :: after).map .pattern) halfAddress = mask := by
      have hfirst : redactText (before.map .pattern) halfAddress = halfAddress := by
        apply redactText_of_finds
        exact fun p hp => finds_halfAddress p (mem_numbers_of_ne (hps (by simp [hp])) fun heq => hbefore (heq ▸ hp))
      rw [redactText_append, hfirst, redactText_cons, email_texts.1.2]
      exact redactText_of_finds fun p hp => finds_mask p (hps (by simp [hp]))
    have hagain := h text
    rw [htext, hsecond] at hagain
    revert hagain
    decide

/-- A list that ends with the pattern for addresses has it last. -/
theorem addressesLast_concat (ps : List Pattern) : AddressesLast (ps ++ [email]) := by
  intro front back hsplit hlast
  rcases List.eq_nil_or_concat back with rfl | ⟨between, p, rfl⟩
  · simp
  · -- the list ends in the pattern for addresses
    have hsplit : ps ++ [email] = (front ++ email :: between) ++ [p] := by simpa using hsplit
    obtain rfl : email = p := by simpa using (List.append_inj' hsplit rfl).2
    simp at hlast

end Redaction

/-! ## Records -/

open Redaction Pattern in
/-- **What the patterns of the library leave of a record.**  No text at any depth has a card number or a telephone
number of the list left in it, and the mask has none.  No text has any match left, and redacting it again changes
nothing, exactly if the pattern for addresses comes last.  Then a second pass leaves the record as it is but for what
guarded values gave out, and as it is if there were none. -/
theorem Record.redact_shipped {σ : Type} (s : Suppliers σ) {ps : List Pattern} (hps : ps ⊆ [creditCard, email, phone])
    (r : Record) (hidden : σ) :
    let rules := ps.map Rule.pattern
    let result := r.redact s rules hidden
    let gives := fun source mid v after => s.disclose source mid = (v, after)
    r.Redacted s ⟨fun _ => false, fun _ u => ∀ p ∈ ps, p ∈ [creditCard, phone] → p.finds u = false, gives⟩ hidden
        result.1 result.2 ∧
      (∀ p ∈ ps, p.finds mask = false) ∧
      (AddressesLast ps ↔ ∀ text, ∀ p ∈ ps, p.finds (redactText rules text) = false) ∧
      (AddressesLast ps ↔ ∀ text, redactText rules (redactText rules text) = redactText rules text) ∧
      (AddressesLast ps →
        r.Redacted s ⟨fun _ => false, fun _ u => ∀ p ∈ ps, p.finds u = false, gives⟩ hidden result.1 result.2 ∧
        ∀ hidden', let again := result.1.redact s rules hidden'
          r.Redacted s (.ofRulesGiving rules fun source mid _ after => ∃ given, gives source mid given after) hidden
              again.1 result.2 ∧
            (r.Redacted s (.ofRulesGiving rules fun _ _ _ _ => False) hidden result.1 result.2 →
              again.1 = result.1)) := by
  intro rules result gives
  have hresult : r.Redacted s (.ofRules s rules) hidden result.1 result.2 := redact_eq_iff.1 rfl
  have hclean : ∀ {P : String → Prop}, (∀ text, P (redactText rules text)) →
      r.Redacted s ⟨fun _ => false, fun _ u => P u, gives⟩ hidden result.1 result.2 := by
    intro P hP
    apply hresult.mono
    refine ⟨masks_map ps, ?_, fun _ _ _ _ h => h⟩
    rintro t u rfl
    exact hP t
  refine ⟨?_, fun p hp => finds_mask p (hps hp), addressesLast_iff hps, addressesLast_iff_idempotent hps,
    fun hlast => ?_⟩
  · exact hclean fun text p hp hnumber => finds_redactText hps hnumber hp text
  · refine ⟨hclean ((addressesLast_iff hps).1 hlast), fun hidden' => ?_⟩
    have hagain := (addressesLast_iff_idempotent hps).1 hlast
    refine ⟨Redacted.again hagain hresult rfl, fun hunguarded => ?_⟩
    -- without guarded values the second result is what the rules make of the record, too
    have hsecond : r.Redacted s (.ofRules s rules) hidden (result.1.redact s rules hidden').1 result.2 := by
      apply (hunguarded.again hagain rfl).mono
      exact ⟨rfl, fun _ _ h => h, fun _ _ _ _ h => h.elim fun _ hgiven => hgiven.elim⟩
    exact (congrArg Prod.fst (redact_eq_iff.2 hsecond)).symm

open Redaction Pattern in
/-- Where the pattern for addresses comes last, a telephone number that ends a half address takes it along. -/
theorem Record.redact_shipped_addresses :
    let s : Suppliers Nat :=
      ⟨fun n hidden => (.array [.text "4111111111111111", .guarded n], hidden + 1), fun _ => pure (.text "a@b.cc")⟩
    let ps := [creditCard, phone, email]
    let rules := ps.map Rule.pattern
    let r := (Record.empty.set "to" (.text "a@b.555-123-4567")).set "card" (.deferred 3)
    let result := r.redact s rules 0
    let gives := fun source mid v after => s.disclose source mid = (v, after)
    ps ⊆ [creditCard, email, phone] ∧ AddressesLast ps ∧
      r.Redacted s ⟨fun _ => false, fun _ u => ∀ p ∈ ps, p.finds u = false, gives⟩ 0 result.1 result.2 ∧
      result.1.find? "to" = some (.text "REDACTED") := by
  intro s ps rules r result gives
  have hps : ps ⊆ [creditCard, email, phone] := by simp [ps]
  have hlast : AddressesLast ps := addressesLast_concat [creditCard, phone]
  -- the addresses come last, so nothing is left to find
  obtain ⟨hclean, -⟩ := (redact_shipped s hps r 0).2.2.2.2 hlast
  -- the number goes first, and with it the address is complete
  have htext : redactText rules "a@b.555-123-4567" = mask := by
    have hcard : creditCard.finds "a@b.555-123-4567" = false := creditCard_texts.2 _ (by simp)
    rw [redactText_cons, redact_of_finds hcard, redactText_cons, phone_texts.1, redactText_cons, email_texts.1.2,
      redactText_nil]
  have hfield : result.1.find? "to" = some (redactScalar rules "to" (.text "a@b.555-123-4567")) :=
    find?_redact_scalar rules (by decide) rfl rfl 0
  refine ⟨hps, hlast, hclean, ?_⟩
  rw [hfield, redactScalar, masks_map, if_neg Bool.false_ne_true]
  simp only [htext]
  rfl

open Redaction Pattern in
/-- Behind the pattern for addresses the one for cards leaves an address, which a second pass takes. -/
theorem Record.redact_shipped_leaves :
    let s : Suppliers Unit := ⟨fun _ => pure .null, fun _ => pure .null⟩
    let rules := [email, creditCard].map Rule.pattern
    let r := Record.empty.set "m" (.text "a@b.4111111111111111")
    let result := r.redact s rules ()
    result.1.find? "m" = some (.text "a@b.REDACTED") ∧ email.finds "a@b.REDACTED" = true ∧
      (result.1.redact s rules ()).1.find? "m" = some (.text "REDACTED") := by
  intro s rules r result
  have hscalar : ∀ {t : String} {r : Record}, r.find? "m" = some (.text t) →
      (r.redact s rules ()).1.find? "m" = some (.text (redactText rules t)) := by
    intro t r hr
    rw [find?_redact_scalar rules (by decide) hr rfl (), redactScalar, masks_map, if_neg Bool.false_ne_true]
  have hheld : r.find? "m" = some (.text "a@b.4111111111111111") := rfl
  -- the address is not complete before the number is gone
  have hfirst : result.1.find? "m" = some (.text halfAddress) := by
    have hemail : email.finds "a@b.4111111111111111" = false := email_texts.2 _ (by simp)
    rw [hscalar hheld, redactText_cons, redact_of_finds hemail, redactText_cons, creditCard_texts.1, redactText_nil]
  refine ⟨hfirst, email_texts.1.1, ?_⟩
  rw [hscalar hfirst, redactText_cons, email_texts.1.2, redactText_cons,
    redact_of_finds (finds_mask creditCard (by simp)), redactText_nil]
  rfl

end Logbook
