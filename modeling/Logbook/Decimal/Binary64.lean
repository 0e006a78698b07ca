/-!
# Double precision numbers

A `Binary64` is the 64 bits of a double: sign, eleven bits of exponent, 52 bits of fraction.  A finite
number is read as `mantissa * 2 ^ scale`; `ofRatio` goes the other way and takes a quotient of natural
numbers to the nearest double, ties to the even mantissa.  Arithmetic is exact arithmetic followed by one
such rounding.  `eq` is numeric equality: zeros are equal whatever their sign, and a NaN equals nothing.
-/

namespace Logbook

/-- The bits of a double precision number. -/
structure Binary64 where
  bits : UInt64
deriving DecidableEq, Inhabited

namespace Binary64

def isNegative (x : Binary64) : Bool := decide (Nat.pow 2 63 ≤ x.bits.toNat)

/-- The eleven exponent bits. -/
def exponentBits (x : Binary64) : Nat := x.bits.toNat / Nat.pow 2 52 % Nat.pow 2 11

/-- The 52 fraction bits. -/
def fraction (x : Binary64) : Nat := x.bits.toNat % Nat.pow 2 52

def isNaN (x : Binary64) : Bool := x.exponentBits = 2047 && x.fraction ≠ 0

def isInfinite (x : Binary64) : Bool := x.exponentBits = 2047 && x.fraction = 0

def isFinite (x : Binary64) : Bool := x.exponentBits ≠ 2047

def isZero (x : Binary64) : Bool := x.exponentBits = 0 && x.fraction = 0

/-- The integer that a power of two scales to the absolute value of a finite number. -/
def mantissa (x : Binary64) : Nat :=
  if x.exponentBits = 0 then x.fraction else Nat.pow 2 52 + x.fraction

/-- The exponent of that power of two. -/
def scale (x : Binary64) : Int :=
  if x.exponentBits = 0 then -1074 else (x.exponentBits : Int) - 1075

/-- Numeric equality. -/
def eq (x y : Binary64) : Bool :=
  !x.isNaN && !y.isNaN && (decide (x.bits = y.bits) || (x.isZero && y.isZero))

/-- Only a number that is none differs from itself. -/
theorem eq_self_iff (x : Binary64) : x.eq x = true ↔ x.isNaN = false := by
  simp [eq]

/-- Assemble sign, exponent bits and fraction. -/
def ofParts (negative : Bool) (exponentBits fraction : Nat) : Binary64 :=
  ⟨UInt64.ofNat ((if negative then Nat.pow 2 63 else 0) + exponentBits * Nat.pow 2 52 + fraction)⟩

def zero (negative : Bool) : Binary64 := ofParts negative 0 0

def infinity (negative : Bool) : Binary64 := ofParts negative 2047 0

/-- The integer nearest to `num / den`, ties to the even one. -/
def roundDiv (num den : Nat) : Nat :=
  let q := num / den
  let r := num % den
  if 2 * r < den then q
  else if den < 2 * r then q + 1
  else if q % 2 = 0 then q else q + 1

/-- `num / den` times two to the `-e`, as a quotient. -/
def scaled (num den : Nat) (e : Int) : Nat × Nat :=
  if 0 ≤ e then (num, den * Nat.pow 2 e.toNat) else (num * Nat.pow 2 (-e).toNat, den)

/-- The double nearest to `num / den`; infinite when that is out of range. -/
def ofRatio (negative : Bool) (num den : Nat) : Binary64 :=
  if num = 0 ∨ den = 0 then zero negative
  else
    let guess : Int := (num.log2 : Int) - (den.log2 : Int) - 52
    let e₀ :=
      let (n, d) := scaled num den guess
      if n / d < Nat.pow 2 52 then guess - 1 else guess
    let e := max e₀ (-1074)
    let (n, d) := scaled num den e
    let m := roundDiv n d
    let (m, e) := if m = Nat.pow 2 53 then (Nat.pow 2 52, e + 1) else (m, e)
    if 971 < e then infinity negative
    else if m < Nat.pow 2 52 then ofParts negative 0 m
    else ofParts negative (e + 1075).toNat (m - Nat.pow 2 52)

/-- Numerator and denominator of the absolute value of a finite number. -/
def toRatio (x : Binary64) : Nat × Nat :=
  if 0 ≤ x.scale then (x.mantissa * Nat.pow 2 x.scale.toNat, 1) else (x.mantissa, Nat.pow 2 (-x.scale).toNat)

def ofNat (n : Nat) : Binary64 := ofRatio false n 1

/-- The rounded product of finite numbers. -/
def mul (x y : Binary64) : Binary64 :=
  let (a, b) := x.toRatio
  let (c, d) := y.toRatio
  ofRatio (x.isNegative != y.isNegative) (a * c) (b * d)

/-- The rounded quotient of finite numbers, the divisor not zero. -/
def div (x y : Binary64) : Binary64 :=
  let (a, b) := x.toRatio
  let (c, d) := y.toRatio
  ofRatio (x.isNegative != y.isNegative) (a * d) (b * c)

/-- The rounded sum of finite numbers that are not negative. -/
def addNonneg (x y : Binary64) : Binary64 :=
  let (a, b) := x.toRatio
  let (c, d) := y.toRatio
  ofRatio false (a * d + c * b) (b * d)

/-- The number with the sign turned. -/
def neg (x : Binary64) : Binary64 := ⟨x.bits ^^^ 0x8000000000000000⟩

/-- Widen the 32 bits of a single precision number: one of sign, eight of exponent, 23 of fraction. -/
def ofSingle (bits : Nat) : Binary64 :=
  let negative := decide (Nat.pow 2 31 ≤ bits)
  let exponent := bits / Nat.pow 2 23 % Nat.pow 2 8
  let fraction := bits % Nat.pow 2 23
  if exponent = 255 then
    -- A NaN keeps its payload and becomes quiet.
    ofParts negative 2047 (if fraction = 0 then 0 else fraction % Nat.pow 2 22 * Nat.pow 2 29 + Nat.pow 2 51)
  else if exponent = 0 then ofRatio negative fraction (Nat.pow 2 149)
  else if 150 ≤ exponent then ofRatio negative ((Nat.pow 2 23 + fraction) * Nat.pow 2 (exponent - 150)) 1
  else ofRatio negative (Nat.pow 2 23 + fraction) (Nat.pow 2 (150 - exponent))

end Binary64

end Logbook
