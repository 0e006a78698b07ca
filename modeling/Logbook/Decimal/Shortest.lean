import Logbook.Decimal.Binary64

/-!
# The shortest decimal that reads back

A finite double stands for all reals that round to it, an interval.  `shortest` tries 1, 2, … 17
significant digits and takes the first decimal grid that has a point in the interval; of two such points it
takes the one nearer to the number, of two equally near the even one.  `DecimalStyle` says how the digits
are laid out.
-/

namespace Logbook.Decimal

/-- `digits * 10 ^ exponent`. -/
structure Scientific where
  digits : Nat
  exponent : Int
deriving DecidableEq

/-- An open or closed interval of rationals around a number, everything over one denominator. -/
structure Interval where
  low : Nat
  value : Nat
  high : Nat
  denominator : Nat
  closed : Bool

/-- The reals that round to a finite number that is not zero.  Below a power of two the neighbour is only
half as far away.  The ends belong to the interval when the mantissa is even. -/
def roundingInterval (x : Binary64) : Interval :=
  let m := x.mantissa
  let (up, down) := if 0 ≤ x.scale then (Nat.pow 2 x.scale.toNat, 1) else (1, Nat.pow 2 (-x.scale).toNat)
  let below := if m = Nat.pow 2 52 ∧ 1 < x.exponentBits then 1 else 2
  ⟨(4 * m - below) * up, 4 * m * up, (4 * m + 2) * up, 4 * down, m % 2 = 0⟩

/-- Whether `num / den` lies in the interval. -/
def Interval.holds (i : Interval) (num den : Nat) : Bool :=
  let low := i.low * den
  let mid := num * i.denominator
  let high := i.high * den
  if i.closed then decide (low ≤ mid) && decide (mid ≤ high) else decide (low < mid) && decide (mid < high)

/-- `n * 10 ^ e` as a quotient. -/
def asRatio (n : Nat) (e : Int) : Nat × Nat :=
  if 0 ≤ e then (n * Nat.pow 10 e.toNat, 1) else (n, Nat.pow 10 (-e).toNat)

/-- The best point of the grid of step `10 ^ e` that lies in the interval. -/
def onGrid? (i : Interval) (e : Int) : Option Nat :=
  let (num, den) :=
    if 0 ≤ e then (i.value, i.denominator * Nat.pow 10 e.toNat)
    else (i.value * Nat.pow 10 (-e).toNat, i.denominator)
  let floor := num / den
  let rest := num % den
  let holds (n : Nat) : Bool :=
    let (a, b) := asRatio n e
    i.holds a b
  let preferFloor := if 2 * rest = den then floor % 2 = 0 else 2 * rest < den
  match holds floor && decide (0 < floor), holds (floor + 1) with
  | true, true => some (if preferFloor then floor else floor + 1)
  | true, false => some floor
  | false, true => some (floor + 1)
  | false, false => none

/-- The exponent of the leading decimal digit of `num / den`, neither of them zero. -/
def leadingExponent (num den : Nat) : Int :=
  let guess : Int := ((Nat.toDigits 10 num).length : Int) - ((Nat.toDigits 10 den).length : Int)
  let (a, b) := asRatio 1 guess
  if a * den ≤ num * b then guess else guess - 1

/-- Drop the zeros at the end of the digits, at most `fuel` of them. -/
def stripZeros : Nat → Scientific → Scientific
  | 0, s => s
  | fuel + 1, s =>
    if s.digits ≠ 0 ∧ s.digits % 10 = 0 then stripZeros fuel ⟨s.digits / 10, s.exponent + 1⟩ else s

/-- The first of the grids of `count`, `count + 1`, … digits that has a point in the interval. -/
def search (i : Interval) (top : Int) : Nat → Nat → Scientific
  | 0, _ => ⟨0, 0⟩
  | fuel + 1, count =>
    let e := top - (count : Int) + 1
    match onGrid? i e with
    | some n => stripZeros 20 ⟨n, e⟩
    | none => search i top fuel (count + 1)

/-- The shortest decimal that reads back as the number, of those the nearest. -/
def shortest (x : Binary64) : Scientific :=
  if x.isZero then ⟨0, 0⟩
  else
    let i := roundingInterval x
    search i (leadingExponent i.value i.denominator) 18 1

/-- How decimals are laid out: from `10 ^ lowExponent` up to below `10 ^ highExponent` with a point and at
least one digit behind it, else with an exponent, which shows its sign when positive if `plusSign`. -/
structure Style where
  lowExponent : Int
  highExponent : Int
  plusSign : Bool

def digitList (n : Nat) : List Char := Nat.toDigits 10 n

/-- The digits with a point in them. -/
def positional (digits : List Char) (exponent : Int) : List Char :=
  let top := (digits.length : Int) + exponent
  if top ≤ 0 then '0' :: '.' :: List.replicate (-top).toNat '0' ++ digits
  else if 0 ≤ exponent then digits ++ List.replicate exponent.toNat '0' ++ ['.', '0']
  else digits.take top.toNat ++ '.' :: digits.drop top.toNat

/-- The digits with a point behind the first of them, and an exponent. -/
def exponential (style : Style) (digits : List Char) (exponent : Int) : List Char :=
  let top := (digits.length : Int) + exponent - 1
  let sign := if top < 0 then ['-'] else if style.plusSign then ['+'] else []
  let fraction := match digits.drop 1 with
    | [] => []
    | rest => '.' :: rest
  digits.take 1 ++ fraction ++ 'e' :: sign ++ digitList top.natAbs

/-- The text of a finite number. -/
def write (style : Style) (x : Binary64) : List Char :=
  let s := shortest x
  let digits := digitList s.digits
  let top := (digits.length : Int) + s.exponent - 1
  let body :=
    if x.isZero then ['0', '.', '0']
    else if style.lowExponent ≤ top ∧ top < style.highExponent then positional digits s.exponent
    else exponential style digits s.exponent
  if x.isNegative then '-' :: body else body

/-- The words for the numbers that no decimal stands for. -/
def nonFiniteWord (x : Binary64) : String :=
  if x.isNaN then "NaN" else if x.isNegative then "-inf" else "inf"

end Logbook.Decimal
