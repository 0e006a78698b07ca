import Logbook.Time.Instant

/-!
# Time stamps

Instants as text of the form `2025-01-08T10:30:45.123Z`.  `Stamp.write` takes how many digits of the second
are shown and how the zone is written.  A year outside 0 to 9999 has a sign.
-/

namespace Logbook.Stamp

/-- Decimal digits, with zeros in front up to a width. -/
def padded (width n : Nat) : List Char :=
  let digits := Nat.toDigits 10 n
  List.replicate (width - digits.length) '0' ++ digits

/-- Which digits of the second are written behind the point. -/
inductive Fraction where
  /-- The first three. -/
  | milli
  /-- All nine. -/
  | nano
  /-- As many groups of three as it takes, none for a whole second. -/
  | asNeeded

def fraction : Fraction → Nat → List Char
  | .milli, n => '.' :: padded 3 (n / 1000000)
  | .nano, n => '.' :: padded 9 n
  | .asNeeded, n =>
    if n = 0 then []
    else if n % 1000000 = 0 then '.' :: padded 3 (n / 1000000)
    else if n % 1000 = 0 then '.' :: padded 6 (n / 1000)
    else '.' :: padded 9 n

/-- Four digits, or more and a sign. -/
def year (y : Int) : List Char :=
  if 0 ≤ y ∧ y ≤ 9999 then padded 4 y.toNat
  else (if y < 0 then '-' else '+') :: padded 4 y.natAbs

def date (d : Date) : List Char :=
  year d.year ++ '-' :: padded 2 d.month ++ '-' :: padded 2 d.day

def clock (c : Clock) : List Char :=
  padded 2 c.hour ++ ':' :: padded 2 c.minute ++ ':' :: padded 2 c.second

/-- Date, clock, fraction of the second, zone. -/
def write (f : Fraction) (zone : List Char) (t : Instant) : List Char :=
  date t.date ++ 'T' :: clock t.clock ++ fraction f t.clock.nanosecond ++ zone

/-- The zone by its letter. -/
def letterZone : List Char := ['Z']

/-- The zone as an offset. -/
def offsetZone : List Char := "+00:00".toList

end Logbook.Stamp
