import Logbook.Proofs.Redaction.Email
import Logbook.Proofs.Regex.Replacing
import Logbook.Proofs.Regex.Sealed

/-!
# Redaction settles

A pattern replaces its matches until none is left, but gives up after some passes.  The patterns that come with the
library never give up: card numbers and telephone numbers are gone after one pass, since their expressions
are sealed by the marker, and addresses after two.

## Key results

- `Pattern.settle_of_noMatch`: a text without a match stays as it is
- `Pattern.settle_keeps`: what every pass keeps is kept
- `Pattern.settlesWithin_one_of_sealed` / `email_settlesWithin`: how many passes are enough
- `Pattern.redact_redact`: a text redacted by one of the library's patterns has no match, and redacting it
  again does nothing
-/

namespace Logbook.Redaction.Pattern

open Regex

variable {p : Pattern}

/-- A text without a match stays as it is, however many passes are left. -/
theorem settle_of_noMatch {text : List Char} (h : p.regex.NoMatch [] text) (n : Nat) :
    p.settle n text = text := by
  cases n with
  | zero => rfl
  | succ n => rw [settle, pass?, replaceAll?_eq_none_iff.2 h]

/-- Passes can be counted in two parts. -/
theorem settle_add (m n : Nat) (text : List Char) : p.settle (m + n) text = p.settle n (p.settle m text) := by
  induction m generalizing text with
  | zero => rw [Nat.zero_add, settle]
  | succ m ih =>
    rw [Nat.add_right_comm, settle, settle]
    cases hpass : p.pass? text with
    | none => exact (settle_of_noMatch (replaceAll?_eq_none_iff.1 hpass) n).symm
    | some next => exact ih next

/-- What every pass keeps is kept, however many passes are made. -/
theorem settle_keeps {P : List Char → Prop} (hpass : ∀ {xs ys : List Char}, p.pass? xs = some ys → P xs → P ys)
    {text : List Char} (h : P text) (n : Nat) : P (p.settle n text) := by
  induction n generalizing text with
  | zero => exact h
  | succ n ih =>
    rw [settle]
    cases hnext : p.pass? text with
    | none => exact h
    | some next => exact ih (hpass hnext h)

/-- Within `n` passes no match is left of any text. -/
def SettlesWithin (p : Pattern) (n : Nat) : Prop := ∀ text, p.regex.NoMatch [] (p.settle n text)

/-- More passes do no harm. -/
theorem SettlesWithin.mono {m n : Nat} (h : p.SettlesWithin m) (hmn : m ≤ n) : p.SettlesWithin n := by
  intro text
  rw [← Nat.add_sub_cancel' hmn, settle_add, settle_of_noMatch (h text)]
  exact h text

/-! ## The patterns of the library -/

/-- One pass is enough for a sealed expression. -/
theorem settlesWithin_one_of_sealed (h : p.regex.Sealed p.marker.toList) : p.SettlesWithin 1 := by
  intro text
  rw [settle]
  cases hpass : p.pass? text with
  | none => exact replaceAll?_eq_none_iff.1 hpass
  | some out =>
    have hsweep := sweep_of_replaceAll? (fun _ _ hreads => h.reads_ne_nil hreads rfl) hpass
    exact h.noMatch_of_sweep hsweep fun _ _ _ => rfl

/-- The matches of both patterns for numbers are sealed off from the mask. -/
theorem isSealed_cards_phones :
    [creditCard, phone].all (fun p => p.regex.isSealed p.marker.toList) = true := by
  decide +kernel

/-- The patterns for numbers settle in one pass. -/
theorem settlesWithin_one (h : p ∈ [creditCard, phone]) : p.SettlesWithin 1 :=
  settlesWithin_one_of_sealed (sealed_of_isSealed (List.all_eq_true.1 isSealed_cards_phones p h))

/-- The pattern for addresses settles in two passes. -/
theorem email_settlesWithin : email.SettlesWithin 2 := by
  have hpass : ∀ {text out : List Char}, email.pass? text = some out →
      Sweep Email.address Email.marker [] text out := by
    intro text out h
    rw [pass?, Email.regex_email] at h
    exact sweep_of_replaceAll? Email.not_reads_nil h
  intro text
  rw [settle]
  -- a pass that finds nothing ends the matter, and two that do leave no match
  cases hfirst : email.pass? text with
  | none => exact replaceAll?_eq_none_iff.1 hfirst
  | some first =>
    show email.regex.NoMatch [] (email.settle 1 first)
    rw [settle]
    cases hsecond : email.pass? first with
    | none => exact replaceAll?_eq_none_iff.1 hsecond
    | some second =>
      rw [Email.regex_email]
      exact Email.noMatch_of_two_sweeps (hpass hfirst) (hpass hsecond)

/-- All passes are enough for every pattern of the library. -/
theorem settlesWithin_passes (h : p ∈ [creditCard, email, phone]) : p.SettlesWithin passes := by
  simp only [List.mem_cons, List.not_mem_nil, or_false] at h
  rcases h with rfl | rfl | rfl
  · exact (settlesWithin_one (by simp)).mono (by decide)
  · exact email_settlesWithin.mono (by decide)
  · exact (settlesWithin_one (by simp)).mono (by decide)

/-! ## Redacting twice -/

/-- What is redacted has gone through all passes. -/
theorem redactList_fst (p : Pattern) (text : List Char) : (p.redactList text).1 = p.settle passes text := by
  rw [redactList, show passes = passes - 1 + 1 from rfl, settle]
  cases p.pass? text <;> rfl

/-- A list without a match is left alone. -/
theorem redactList_of_noMatch {text : List Char} (h : p.regex.NoMatch [] text) :
    p.redactList text = (text, false) := by
  rw [redactList, pass?, replaceAll?_eq_none_iff.2 h]

/-- A text redacted by one of the library's patterns has no match. -/
theorem noMatch_redact (h : p ∈ [creditCard, email, phone]) (text : String) :
    p.regex.NoMatch [] (p.redact text).1.toList := by
  rw [redact, String.toList_ofList, redactList_fst]
  exact settlesWithin_passes h text.toList

/-- A text without a match is left alone. -/
theorem redact_of_noMatch {text : String} (h : p.regex.NoMatch [] text.toList) : p.redact text = (text, false) := by
  rw [redact, redactList_of_noMatch h]
  show (String.ofList text.toList, false) = _
  rw [String.ofList_toList]

/-- **Redaction settles.**  In a text redacted by one of the library's patterns nothing is read by the pattern's
expression from any place, so the pattern finds no match in it and redacting it again leaves it as it is. -/
theorem redact_redact (p : Pattern) (h : p ∈ [creditCard, email, phone]) (text : String) :
    (∀ front m back, (p.redact text).1.toList = front ++ (m ++ back) →
      ¬ p.regex.Reads front.getLast? m back.head?) ∧
    p.regex.isMatch (p.redact text).1.toList.toArray = false ∧
    p.redact (p.redact text).1 = ((p.redact text).1, false) := by
  have hnone : p.regex.NoMatch [] (p.redact text).1.toList := noMatch_redact h text
  refine ⟨fun front m back hsplit => ?_, isMatch_eq_false_iff.2 hnone, redact_of_noMatch hnone⟩
  exact hnone front (m ++ back) hsplit m back rfl

/-- Of two addresses that share a label, the second one is found when the first has been replaced. -/
theorem redact_redact_email :
    email ∈ [creditCard, email, phone] ∧ email.redact "a@b.cc@d.ee" = ("REDACTED", true) ∧
      email.regex.isMatch "REDACTED".toList.toArray = false ∧ email.redact "REDACTED" = ("REDACTED", false) := by
  have hmem : email ∈ [creditCard, email, phone] := by simp
  have hredact : email.redact "a@b.cc@d.ee" = ("REDACTED", true) := by decide +kernel
  have hsettled := redact_redact email hmem "a@b.cc@d.ee"
  rw [hredact] at hsettled
  exact ⟨hmem, hredact, hsettled.2.1, hsettled.2.2⟩

end Logbook.Redaction.Pattern
