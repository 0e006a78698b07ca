/-!
# Buffers

A buffer collects texts on their way to a file.  It passes on what it holds when the next text does not fit, and
texts as large as itself go straight through.  What it holds goes out before what comes after it, so nothing is
reordered.
-/

namespace Logbook

/-- Texts waiting to be passed on, in order. -/
structure Buffer where
  held : String
deriving DecidableEq

namespace Buffer

def empty : Buffer := ⟨""⟩

instance : Inhabited Buffer := ⟨empty⟩

/-- The bytes a buffer holds at most. -/
def capacity : Nat := 8192

/-- The bytes that still fit. -/
def room (b : Buffer) : Nat := capacity - b.held.utf8ByteSize

/-- Take in a text; what goes out because of it, and the buffer after it. -/
def write (b : Buffer) (text : String) : String × Buffer :=
  let (out, held) := if b.room < text.utf8ByteSize then (b.held, "") else ("", b.held)
  if capacity ≤ text.utf8ByteSize then (out ++ text, ⟨held⟩) else (out, ⟨held ++ text⟩)

/-- Pass on everything. -/
def flush (b : Buffer) : String × Buffer := (b.held, empty)

/-- A text fills the buffer and yet fits only if nothing is held. -/
theorem held_eq_empty_of_full {b : Buffer} {text : String} (hfit : ¬ b.room < text.utf8ByteSize)
    (hbig : capacity ≤ text.utf8ByteSize) : b.held = "" := by
  rw [← String.utf8ByteSize_eq_zero_iff]
  unfold room at hfit
  unfold capacity at *
  omega

end Buffer

end Logbook
