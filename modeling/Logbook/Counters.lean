import Logbook.Decimal.Binary64

/-!
# Counters

How many entries a logger has written, filtered out and lost.  The counts are words of 64 bits and wrap.
-/

namespace Logbook

structure Counters where
  /-- Entries that a sink took. -/
  logged : UInt64
  /-- Entries that the filter, or every sink, refused. -/
  filtered : UInt64
  /-- Entries lost because a sink failed. -/
  dropped : UInt64
deriving DecidableEq

namespace Counters

def zero : Counters := ⟨0, 0, 0⟩

instance : Inhabited Counters := ⟨zero⟩

def countLogged (c : Counters) : Counters := { c with logged := c.logged + 1 }

def countFiltered (c : Counters) : Counters := { c with filtered := c.filtered + 1 }

def countDropped (c : Counters) : Counters := { c with dropped := c.dropped + 1 }

/-- The percentage of lost entries among those that were not filtered out, in floating point; zero if there is
none. -/
def dropRate (c : Counters) : Binary64 :=
  let dropped := Binary64.ofNat c.dropped.toNat
  let total := (Binary64.ofNat c.logged.toNat).addNonneg dropped
  if total.isZero then .zero false else (dropped.div total).mul (.ofNat 100)

end Counters

end Logbook
