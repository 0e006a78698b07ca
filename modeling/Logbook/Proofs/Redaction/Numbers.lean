import Logbook.Proofs.Regex.Words
import Logbook.Redaction.Pattern

/-!
# Card and telephone numbers

What the expressions of the two patterns for numbers mean.  Both go by word boundaries, so what they find in an ASCII
text is found with the word characters of ASCII.

## Key results

- `regex_creditCard` / `regex_phone`: the expressions
- `goesByWords`: their conditions go by the table of word characters
-/

namespace Logbook.Redaction.Numbers

open Regex

def boundary : Regex := .look .wordBoundary Word.set

def digit : Regex := .set Category.digit

/-- A part that may be missing. -/
def maybe (r : Regex) : Regex := .rep r 0 (some 1) true

def digits (n : Nat) : Regex := .rep digit n (some n) true

/-- A blank, a hyphen or a dot. -/
def separator : Regex := .set ⟨[(32, 32), (45, 46)]⟩

/-- A digit and perhaps a blank or a hyphen. -/
def spacedDigit : Regex := .seq digit (maybe (.set ⟨[(32, 32), (45, 45)]⟩))

def card : Regex := .seq boundary (.seq (.rep spacedDigit 12 (some 18) true) (.seq digit boundary))

/-- The country code. -/
def country : Regex := .seq (.char '+') (.seq (.char '1') (maybe separator))

def telephone : Regex :=
  .seq (maybe country) (.seq (maybe (.char '(')) (.seq boundary (.seq (digits 3) (.seq (maybe (.char ')'))
    (.seq separator (.seq (digits 3) (.seq separator (.seq (digits 4) boundary))))))))

/-- A pattern is read once its parts are, if it is neither too deep nor too large. -/
theorem parse?_of_read {source : String} {cs : List Char} {p : Piece} (hcs : source.toList = cs)
    (hread : readAlternatives (3 * cs.length + 3) .initial [] cs = some (p, []))
    (hfeasible : (p.depth ≤ nestLimit && p.names.eraseDups.length = p.names.length && p.regex.isFeasible p.marks)
      = true) :
    Regex.parse? source = some p.regex := by
  simp only [Bool.and_eq_true, decide_eq_true_eq] at hfeasible
  simp [Regex.parse?, hcs, hread, hfeasible]

-- the tables are not opened while the patterns are read
seal Word.set Category.digit

/-- The pattern for credit cards is what its text says. -/
theorem regex_creditCard : Pattern.creditCard.regex = card := by
  let cs := ['\\', 'b', '(', '?', ':', '\\', 'd', '[', ' ', '-', ']', '?', ')', '\x7b', '1', '2', ',', '1', '8', '\x7d',
    '\\', 'd', '\\', 'b']
  have hread : readAlternatives (3 * cs.length + 3) .initial [] cs = some (⟨card, 6, [], 0⟩, []) := by rfl
  have hparse : Regex.parse? Pattern.creditCard.source = some card :=
    parse?_of_read (by rfl) hread (by decide +kernel)
  simp only [Pattern.creditCard, Pattern.shipped] at hparse ⊢
  rw [hparse, Option.getD_some]

/-- The pattern for phone numbers is what its text says. -/
theorem regex_phone : Pattern.phone.regex = telephone := by
  let cs := ['(', '?', ':', '\\', '+', '1', '[', '-', '.', ' ', ']', '?', ')', '?', '\\', '(', '?', '\\', 'b',
    '\\', 'd', '\x7b', '3', '\x7d', '\\', ')', '?', '[', '-', '.', ' ', ']',
    '\\', 'd', '\x7b', '3', '\x7d', '[', '-', '.', ' ', ']', '\\', 'd', '\x7b', '4', '\x7d', '\\', 'b']
  have hread : readAlternatives (3 * cs.length + 3) .initial [] cs = some (⟨telephone, 6, [], 0⟩, []) := by rfl
  have hparse : Regex.parse? Pattern.phone.source = some telephone :=
    parse?_of_read (by rfl) hread (by decide +kernel)
  simp only [Pattern.phone, Pattern.shipped] at hparse ⊢
  rw [hparse, Option.getD_some]

/-- Both patterns for numbers look at words. -/
theorem goesByWords : ∀ p ∈ [Pattern.creditCard, Pattern.phone], p.regex.GoesByWords := by
  simp [regex_creditCard, regex_phone, card, telephone, spacedDigit, country, digits, digit, separator, maybe, boundary,
    GoesByWords, looks, Regex.char]

end Logbook.Redaction.Numbers
