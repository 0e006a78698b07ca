import Logbook.Proofs.Redaction.Shipped
import Mathlib.Logic.Function.Iterate
import Mathlib.Order.Nat

/-!
# How often a pattern goes over a text

A pattern goes over a text until a pass finds nothing, but not more often than `Pattern.passes`.  A pass leaves a text
without a match as it is, so the passes that are not made would change nothing: the redacted text is that of all
passes, one after another (`redact_eq_iterate`).  When that text still has a match, redacting it again goes on.

This holds of every pattern.  That a pattern has been made by `Pattern.ofRegex` or `Pattern.parse` says just that it
does not match its own marker (`accepted_iff`), so a marker alone stays as it is; with its neighbours it can still
make new matches, and a new one in each pass.

## Key results

- `pass_eq_iff`: a pass replaces the matches from left to right, whatever the expression
- `accepted_iff`: which patterns can be made
- `redact_eq_iterate`: redaction is all passes, together with whether there was a match
- `redact_iterate_pass`: at which pass redaction stops, and when redacting again does nothing
- `not_settlesWithin`: no number of passes is enough for all patterns
-/

namespace Logbook.Redaction.Pattern

variable {p : Pattern} {text : String}

/-! ## One pass -/

/-- One pass: every match is replaced by the marker, and a text without a match stays. -/
def pass (p : Pattern) (text : String) : String := String.ofList ((p.pass? text.toList).getD text.toList)

/-- A pass has nothing to do if nothing is found. -/
theorem pass?_eq_none_iff : p.pass? text.toList = none ↔ p.finds text = false := by
  rw [finds_eq_false_iff, pass?, Regex.replaceAll?_eq_none_iff]

/-- A pass is what the expression determines: from left to right, the preferred match at each place. -/
theorem pass_eq_iff {out : String} :
    p.pass text = out ↔ p.regex.Replaced p.marker.toList false [] text.toList out.toList := by
  rw [Regex.replaced_iff, pass, ← pass?, ← String.toList_inj, String.toList_ofList, eq_comm]

/-- A pass that finds nothing changes nothing. -/
theorem pass_of_finds (h : p.finds text = false) : p.pass text = text := by
  rw [pass, pass?_eq_none_iff.2 h, Option.getD_none, String.ofList_toList]

/-- Once there is no match, further passes change nothing. -/
theorem iterate_pass_of_finds {m n : Nat} (hmn : m ≤ n) (h : p.finds (p.pass^[m] text) = false) :
    p.pass^[n] text = p.pass^[m] text := by
  rw [← Nat.sub_add_cancel hmn, Function.iterate_add_apply]
  exact Function.iterate_fixed (pass_of_finds h) _

/-! ## All passes -/

/-- To go on until nothing matches is to make all passes. -/
theorem ofList_settle (n : Nat) (text : String) : String.ofList (p.settle n text.toList) = p.pass^[n] text := by
  -- by induction on the passes: a pass without a match is the last, and all that would follow do nothing
  induction n generalizing text with
  | zero => exact String.ofList_toList
  | succ n ih =>
    rw [settle, Function.iterate_succ_apply]
    cases hpass : p.pass? text.toList with
    | none =>
      have hfinds := pass?_eq_none_iff.1 hpass
      rw [pass_of_finds hfinds, Function.iterate_fixed (pass_of_finds hfinds), String.ofList_toList]
    | some next =>
      have hnext : p.pass text = String.ofList next := by rw [pass, hpass, Option.getD_some]
      rw [hnext, ← ih, String.toList_ofList]

/-- Redaction makes all passes and tells whether there was a match. -/
theorem redact_eq_iterate (p : Pattern) (text : String) : p.redact text = (p.pass^[passes] text, p.finds text) := by
  have hmatched : (p.redactList text.toList).2 = p.finds text := by
    cases hfinds : p.finds text with
    | false => rw [redactList, pass?_eq_none_iff.2 hfinds]
    | true =>
      have hne : p.pass? text.toList ≠ none := by simp [pass?_eq_none_iff, hfinds]
      obtain ⟨next, hnext⟩ := Option.ne_none_iff_exists'.1 hne
      rw [redactList, hnext]
  show (String.ofList (p.redactList text.toList).1, (p.redactList text.toList).2) = _
  rw [redactList_fst, ofList_settle, hmatched]

/-- Redacting leaves a text alone exactly if nothing is found in it. -/
theorem redact_eq_self_iff : p.redact text = (text, false) ↔ p.finds text = false := by
  constructor
  · intro h
    rw [redact_eq_iterate] at h
    exact congrArg Prod.snd h
  · intro h
    rw [redact_eq_iterate, Function.iterate_fixed (pass_of_finds h), h]

/-- All passes leave no match exactly if some number of them does. -/
theorem finds_iterate_pass_iff {n : Nat} :
    p.finds (p.pass^[n] text) = false ↔ ∃ k ≤ n, p.finds (p.pass^[k] text) = false := by
  constructor
  · intro h
    exact ⟨n, Nat.le_refl n, h⟩
  · rintro ⟨k, hk, h⟩
    rw [iterate_pass_of_finds hk h, h]

/-! ## Patterns that can be made -/

/-- The pattern has been made from an expression or from its source, and its marker has been looked at. -/
inductive Accepted : Pattern → Prop where
  | ofRegex {source : String} {regex : Regex} {marker : String} {p : Pattern}
      (h : Pattern.ofRegex source regex marker = .ok p) : Accepted p
  | parse {source marker : String} {p : Pattern} (h : Pattern.parse source marker = .ok p) : Accepted p

theorem ofRegex_eq_ok_iff {source : String} {regex : Regex} {marker : String} :
    Pattern.ofRegex source regex marker = .ok p ↔ p = ⟨source, regex, marker⟩ ∧ p.finds p.marker = false := by
  rw [Pattern.ofRegex]
  split
  -- the marker is searched before the pattern is made
  next h =>
    constructor
    · rintro ⟨⟩
    · rintro ⟨rfl, hnone⟩
      exact absurd (hnone.symm.trans h) Bool.false_ne_true
  next h =>
    rw [Except.ok.injEq]
    constructor
    · rintro rfl
      exact ⟨rfl, Bool.eq_false_of_not_eq_true h⟩
    · rintro ⟨rfl, -⟩
      rfl

/-- A pattern is accepted if it does not find its own marker. -/
theorem accepted_iff : p.Accepted ↔ p.finds p.marker = false := by
  constructor
  · rintro (h | h)
    · exact (ofRegex_eq_ok_iff.1 h).2
    · rw [Pattern.parse] at h
      split at h
      next => cases h
      next => exact (ofRegex_eq_ok_iff.1 h).2
  · intro h
    exact .ofRegex (ofRegex_eq_ok_iff.2 ⟨rfl, h⟩)

/-! ## Where redaction stops -/

/-- **The passes of a redaction.**  Let a pattern be made in either way.  A text without a match stays as it is; any
other is gone over as often as it takes until there is no match, or eight times if that is never reached.  So what is
redacted is left alone when it is redacted again exactly if one of the texts on the way to the eighth pass has no
match.  The marker is always left alone. -/
theorem redact_iterate_pass (hp : p.Accepted) (text : String) :
    (∀ t out, p.pass t = out ↔ p.regex.Replaced p.marker.toList false [] t.toList out.toList) ∧
    (p.redact text = (text, false) ↔ p.finds text = false) ∧
    (p.finds text = true →
      ∃ n, p.redact text = (p.pass^[n] text, true) ∧
        (IsLeast {k | 1 ≤ k ∧ k ≤ 8 ∧ p.finds (p.pass^[k] text) = false} n ∨
          n = 8 ∧ ∀ k, 1 ≤ k → k ≤ 8 → p.finds (p.pass^[k] text) = true)) ∧
    (p.redact (p.redact text).1 = ((p.redact text).1, false) ↔ ∃ k ≤ 8, p.finds (p.pass^[k] text) = false) ∧
    p.redact p.marker = (p.marker, false) := by
  have hall : p.redact text = (p.pass^[8] text, p.finds text) := redact_eq_iterate p text
  refine ⟨fun _ _ => pass_eq_iff, redact_eq_self_iff, fun hfinds => ?_, ?_, redact_eq_self_iff.2 (accepted_iff.1 hp)⟩
  · rw [hall, hfinds]
    by_cases hclean : ∃ k, 1 ≤ k ∧ k ≤ 8 ∧ p.finds (p.pass^[k] text) = false
    · -- the passes behind the first text without a match change nothing
      obtain ⟨-, hle, hnone⟩ := Nat.find_spec hclean
      exact ⟨Nat.find hclean, by rw [iterate_pass_of_finds hle hnone], .inl (Nat.isLeast_find hclean)⟩
    · refine ⟨8, rfl, .inr ⟨rfl, fun k hpos hle => ?_⟩⟩
      exact Bool.eq_true_of_not_eq_false fun hnone => hclean ⟨k, hpos, hle, hnone⟩
  · rw [redact_eq_self_iff, hall, finds_iterate_pass_iff]

/-- The marker makes a new match with what follows it, and the second pass finds that one. -/
theorem redact_iterate_pass_boundary :
    let p : Pattern := ⟨"D1", .seq (.char 'D') (.char '1'), mask⟩
    Pattern.parse "D1" mask = .ok p ∧ p.finds "D11" = true ∧ p.redact "D11" = (p.pass^[2] "D11", true) ∧
      p.pass^[2] "D11" = "REDACTEREDACTED" ∧ p.redact "REDACTEREDACTED" = ("REDACTEREDACTED", false) ∧
      p.redact mask = (mask, false) := by
  intro p
  have hparse : Pattern.parse "D1" mask = .ok p := rfl
  have hfinds : p.finds "D11" = true ∧ p.finds (p.pass^[1] "D11") = true := by decide +kernel
  have hsecond : p.pass^[2] "D11" = "REDACTEREDACTED" ∧ p.finds "REDACTEREDACTED" = false := by decide +kernel
  have hclean : p.finds (p.pass^[2] "D11") = false := by rw [hsecond.1, hsecond.2]
  obtain ⟨-, -, hstop, hagain, hmarker⟩ := redact_iterate_pass (.parse hparse) "D11"
  have htwice : p.redact "D11" = (p.pass^[2] "D11", true) := by
    -- the second pass is the first that leaves nothing to find
    obtain ⟨n, hn, ⟨⟨hpos, -, hnone⟩, hleast⟩ | ⟨-, hall⟩⟩ := hstop hfinds.1
    · have hle : n ≤ 2 := hleast ⟨by decide, by decide, hclean⟩
      have hne : n ≠ 1 := by
        rintro rfl
        rw [hfinds.2] at hnone
        cases hnone
      obtain rfl : n = 2 := by omega
      exact hn
    · rw [hall 2 (by decide) (by decide)] at hclean
      cases hclean
  have hsettled := hagain.2 ⟨2, by decide, hclean⟩
  rw [htwice, hsecond.1] at hsettled
  exact ⟨hparse, hfinds.1, htwice, hsecond.1, hsettled, hmarker⟩

/-! ## No number of passes is enough -/

/-- An `x` that goes on a word, with itself as its marker: of `ax` a pass leaves `ax`. -/
def unending : Pattern := ⟨"\\Bx", .seq (.look .notWordBoundary Word.set) (.char 'x'), "x"⟩

-- the table is not opened while the pattern is read
seal Word.set in
/-- The pattern for an x within a word is accepted with the marker x. -/
theorem parse_unending : Pattern.parse "\\Bx" "x" = .ok unending := by
  have hregex : Regex.parse? "\\Bx" = some unending.regex := by rfl
  rw [Pattern.parse, hregex]
  exact ofRegex_eq_ok_iff.2 ⟨rfl, by decide +kernel⟩

/-- However many passes are made, a pattern can be made that still has a match in some text. -/
theorem not_settlesWithin (n : Nat) : ¬ ∀ p : Pattern, p.Accepted → p.SettlesWithin n := by
  intro h
  have hfixed : unending.pass "ax" = "ax" := by decide +kernel
  have hfinds : unending.finds "ax" = true := by decide +kernel
  have hsettle : unending.settle n "ax".toList = "ax".toList := by
    rw [← String.ofList_inj, ofList_settle, Function.iterate_fixed hfixed, String.ofList_toList]
  have hnone := h unending (.parse parse_unending) "ax".toList
  rw [hsettle, ← finds_eq_false_iff, hfinds] at hnone
  cases hnone

end Logbook.Redaction.Pattern
