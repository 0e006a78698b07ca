import Logbook.Decimal.Binary64
import Mathlib.Algebra.Order.Field.Power
import Mathlib.Data.Rat.Cast.Order
import Mathlib.Tactic.FieldSimp
import Mathlib.Tactic.Linarith
import Mathlib.Tactic.NormNum
import Mathlib.Tactic.Positivity
import Mathlib.Tactic.Ring

/-!
# Rounding to doubles

A quotient is rounded by choosing an exponent, so that the mantissa has 53 bits or the exponent is the lowest there
is, and rounding the mantissa to an integer.  The double stands for what was rounded as long as that stays below a
limit, half a unit above the largest double (`Binary64.overflow`); only from there on it is infinite.

## Key results

- `Binary64.ofRatio_spec`: what rounding a quotient gives
- `Binary64.isFinite_ofRatio`: below the limit nothing becomes infinite
- `Binary64.magnitude_ofNat`: the double of a natural number
- `Binary64.isFinite_mul_ofNat`: a word times a power of ten
-/

namespace Logbook.Binary64

/-! ## Magnitudes -/

/-- The absolute value of a finite number. -/
def magnitude (x : Binary64) : ℚ := x.mantissa * 2 ^ x.scale

/-- From here on numbers become infinite when they are rounded. -/
def overflow : Nat := (Nat.pow 2 54 - 1) * Nat.pow 2 970

/-- The magnitude is the quotient that is rounded to a decimal. -/
theorem toRatio_eq (x : Binary64) : (x.toRatio.1 : ℚ) / x.toRatio.2 = x.magnitude := by
  rw [toRatio, magnitude]
  split
  next h =>
    obtain ⟨n, hn⟩ := Int.eq_ofNat_of_zero_le h
    rw [hn]
    simp
  next h =>
    obtain ⟨n, hn⟩ := Int.eq_ofNat_of_zero_le (show 0 ≤ -x.scale by omega)
    rw [hn, show x.scale = -(n : Int) by omega]
    simp [div_eq_mul_inv]

/-! ## Bits -/

section Parts

variable (negative : Bool) {exponent fraction : Nat}

/-- The bits of a number are the sign, then the exponent, then the fraction. -/
theorem toNat_ofParts (he : exponent < 2048) (hf : fraction < Nat.pow 2 52) :
    (ofParts negative exponent fraction).bits.toNat
      = (if negative then Nat.pow 2 63 else 0) + exponent * Nat.pow 2 52 + fraction := by
  rw [ofParts, UInt64.toNat_ofNat']
  apply Nat.mod_eq_of_lt
  norm_num at hf ⊢
  split <;> omega

/-- The exponent is read from the bits. -/
theorem exponentBits_ofParts (he : exponent < 2048) (hf : fraction < Nat.pow 2 52) :
    (ofParts negative exponent fraction).exponentBits = exponent := by
  rw [exponentBits, toNat_ofParts negative he hf]
  norm_num at hf ⊢
  split <;> omega

/-- The fraction is read from the bits. -/
theorem fraction_ofParts (he : exponent < 2048) (hf : fraction < Nat.pow 2 52) :
    (ofParts negative exponent fraction).fraction = fraction := by
  rw [Binary64.fraction, toNat_ofParts negative he hf]
  norm_num at hf ⊢
  split <;> omega

end Parts

/-- The double of a mantissa and an exponent.  A mantissa of 54 bits is halved. -/
def assemble (negative : Bool) (m : Nat) (e : Int) : Binary64 :=
  let (m, e) := if m = Nat.pow 2 53 then (Nat.pow 2 52, e + 1) else (m, e)
  if 971 < e then infinity negative
  else if m < Nat.pow 2 52 then ofParts negative 0 m
  else ofParts negative (e + 1075).toNat (m - Nat.pow 2 52)

/-- Without a carry the parts of the double are the mantissa and the exponent. -/
theorem ofParts_spec (negative : Bool) {m : Nat} {e : Int} (hlow : -1074 ≤ e) (hhigh : e ≤ 971)
    (hm : m < Nat.pow 2 53) (hnormal : e = -1074 ∨ Nat.pow 2 52 ≤ m) :
    let x := if m < Nat.pow 2 52 then ofParts negative 0 m
      else ofParts negative (e + 1075).toNat (m - Nat.pow 2 52)
    x.isFinite = true ∧ x.magnitude = m * 2 ^ e := by
  intro x
  by_cases hsmall : m < Nat.pow 2 52
  · -- the leading bit is missing, and the exponent is the lowest there is
    have hx : x = ofParts negative 0 m := if_pos hsmall
    have hexp := exponentBits_ofParts negative (by omega : 0 < 2048) hsmall
    have hfrac := fraction_ofParts negative (by omega : 0 < 2048) hsmall
    obtain rfl : e = -1074 := hnormal.resolve_right (by omega)
    rw [hx, isFinite, magnitude, mantissa, scale, hexp, hfrac]
    simp
  · -- the leading bit is not stored
    have hx : x = ofParts negative (e + 1075).toNat (m - Nat.pow 2 52) := if_neg hsmall
    have hfraction : m - Nat.pow 2 52 < Nat.pow 2 52 := by
      norm_num at hm hsmall ⊢
      omega
    have hexp := exponentBits_ofParts negative (by omega : (e + 1075).toNat < 2048) hfraction
    have hfrac := fraction_ofParts negative (by omega : (e + 1075).toNat < 2048) hfraction
    have hmantissa : Nat.pow 2 52 + (m - Nat.pow 2 52) = m := by omega
    have hscale : ((e + 1075).toNat : Int) - 1075 = e := by omega
    rw [hx, isFinite, magnitude, mantissa, scale, hexp, hfrac, if_neg (by omega), if_neg (by omega), hmantissa, hscale]
    exact ⟨decide_eq_true (by omega), rfl⟩

/-- In range the double is finite and stands for the mantissa times the power of two. -/
theorem assemble_spec (negative : Bool) {m : Nat} {e : Int} (hlow : -1074 ≤ e) (hhigh : e ≤ 971)
    (hm : m ≤ Nat.pow 2 53) (hnormal : e = -1074 ∨ Nat.pow 2 52 ≤ m) (hcarry : m = Nat.pow 2 53 → e < 971) :
    (assemble negative m e).isFinite = true ∧ (assemble negative m e).magnitude = m * 2 ^ e := by
  by_cases h : m = Nat.pow 2 53
  · -- half the mantissa at the next exponent is the same number
    have hlast := hcarry h
    obtain ⟨hfinite, hvalue⟩ := ofParts_spec negative (show -1074 ≤ e + 1 by omega) (show e + 1 ≤ 971 by omega)
      (show Nat.pow 2 52 < Nat.pow 2 53 by decide) (.inr (Nat.le_refl _))
    rw [assemble, if_pos h]
    simp only
    rw [if_neg (by omega)]
    refine ⟨hfinite, hvalue.trans ?_⟩
    rw [h, zpow_add₀ (by norm_num)]
    norm_num
    ring
  · rw [assemble, if_neg h]
    simp only
    rw [if_neg (by omega)]
    exact ofParts_spec negative hlow hhigh (by omega) hnormal

/-! ## Rounding to integers -/

/-- Rounding goes down if the remainder is less than a half, up if it is more, and one of both ways if it is a half. -/
theorem roundDiv_cases (num den : Nat) :
    (roundDiv num den = num / den ∧ 2 * (num % den) ≤ den) ∨
      (roundDiv num den = num / den + 1 ∧ den ≤ 2 * (num % den)) := by
  unfold roundDiv
  simp only
  split
  · omega
  · split
    · omega
    · split <;> omega

/-- Rounding leaves at least the quotient. -/
theorem div_le_roundDiv (num den : Nat) : num / den ≤ roundDiv num den := by
  rcases roundDiv_cases num den with ⟨hround, -⟩ | ⟨hround, -⟩ <;> omega

/-- Rounding adds at most one. -/
theorem roundDiv_le (num den : Nat) : roundDiv num den ≤ num / den + 1 := by
  rcases roundDiv_cases num den with ⟨hround, -⟩ | ⟨hround, -⟩ <;> omega

/-- The quotient is rounded by at most a half. -/
theorem two_mul_roundDiv_le (num den : Nat) : 2 * (roundDiv num den * den) ≤ 2 * num + den := by
  have hdiv : num / den * den + num % den = num := Nat.div_add_mod' num den
  -- rounded down there is nothing to add, and rounded up at most half of the divisor
  rcases roundDiv_cases num den with ⟨hround, -⟩ | ⟨hround, hrest⟩
  · rw [hround]
    omega
  · have hnext : (num / den + 1) * den = num / den * den + den := Nat.succ_mul _ _
    rw [hround]
    omega

/-- Rounding keeps the order. -/
theorem roundDiv_mono {num num' : Nat} (h : num ≤ num') (den : Nat) : roundDiv num den ≤ roundDiv num' den := by
  have hle : num / den ≤ num' / den := Nat.div_le_div_right h
  rcases Nat.lt_or_eq_of_le hle with hlt | heq
  · exact (roundDiv_le num den).trans (Nat.le_trans hlt (div_le_roundDiv num' den))
  · -- the quotients are the same, so the remainders are in order
    have hrest : num % den ≤ num' % den := by
      have h₁ := Nat.div_add_mod num den
      have h₂ := Nat.div_add_mod num' den
      rw [heq] at h₁
      omega
    unfold roundDiv
    simp only [heq]
    repeat' split
    all_goals omega

/-- Nothing is rounded if nothing is divided. -/
@[simp] theorem roundDiv_one (n : Nat) : roundDiv n 1 = n := by
  simp [roundDiv, Nat.mod_one]

/-! ## The exponent of a quotient -/

/-- A scaled divisor is positive. -/
theorem scaled_pos (num : Nat) {den : Nat} (hden : 0 < den) (e : Int) : 0 < (scaled num den e).2 := by
  rw [scaled]
  split
  · exact Nat.mul_pos hden (Nat.two_pow_pos _)
  · exact hden

/-- Scaling divides the quotient by a power of two. -/
theorem scaled_eq (num den : Nat) (e : Int) :
    ((scaled num den e).1 : ℚ) / (scaled num den e).2 = (num : ℚ) / den / 2 ^ e := by
  rw [scaled]
  split
  next h =>
    obtain ⟨n, hn⟩ := Int.eq_ofNat_of_zero_le h
    rw [hn]
    simp [div_div]
  next h =>
    obtain ⟨n, hn⟩ := Int.eq_ofNat_of_zero_le (show 0 ≤ -e by omega)
    rw [hn, show e = -(n : Int) by omega]
    simp
    ring

/-- The exponent by which a quotient is rounded. -/
def ratioExponent (num den : Nat) : Int :=
  let guess : Int := (num.log2 : Int) - (den.log2 : Int) - 52
  max (if (scaled num den guess).1 / (scaled num den guess).2 < Nat.pow 2 52 then guess - 1 else guess) (-1074)

/-- A quotient is put together from its exponent and the rounded mantissa. -/
theorem ofRatio_eq_assemble (negative : Bool) {num den : Nat} (hnum : num ≠ 0) (hden : den ≠ 0) :
    ofRatio negative num den
      = let r := scaled num den (ratioExponent num den)
        assemble negative (roundDiv r.1 r.2) (ratioExponent num den) := by
  rw [ofRatio, if_neg (not_or.2 ⟨hnum, hden⟩)]
  rfl

/-- The numbers of digits tell a quotient up to a factor of four. -/
theorem quotient_bounds {num den : Nat} (hnum : num ≠ 0) (hden : den ≠ 0) :
    let guess : Int := (num.log2 : Int) - (den.log2 : Int) - 52
    2 ^ 52 * 2 ^ (guess - 1) ≤ (num : ℚ) / den ∧ (num : ℚ) / den < 2 ^ 53 * 2 ^ guess := by
  intro guess
  have hdenpos : (0 : ℚ) < den := Nat.cast_pos.2 (Nat.pos_of_ne_zero hden)
  have hnum₁ : (2 : ℚ) ^ num.log2 ≤ num := by exact_mod_cast Nat.log2_self_le hnum
  have hnum₂ : (num : ℚ) < 2 ^ (num.log2 + 1) := by exact_mod_cast Nat.lt_log2_self
  have hden₁ : (2 : ℚ) ^ den.log2 ≤ den := by exact_mod_cast Nat.log2_self_le hden
  have hden₂ : (den : ℚ) ≤ 2 ^ (den.log2 + 1) := by exact_mod_cast Nat.lt_log2_self.le
  -- the logarithms bound both numbers by powers of two, and these bound the quotient
  constructor
  · have hpower : (2 : ℚ) ^ num.log2 = 2 ^ 52 * 2 ^ (guess - 1) * 2 ^ (den.log2 + 1) := by
      rw [← zpow_natCast, ← zpow_natCast, ← zpow_natCast, ← zpow_add₀ (by norm_num), ← zpow_add₀ (by norm_num)]
      congr 1
      simp only [guess]
      push_cast
      ring
    rw [le_div_iff₀ hdenpos]
    calc (2 : ℚ) ^ 52 * 2 ^ (guess - 1) * den
        ≤ 2 ^ 52 * 2 ^ (guess - 1) * 2 ^ (den.log2 + 1) := by gcongr
      _ = 2 ^ num.log2 := hpower.symm
      _ ≤ num := hnum₁
  · have hpower : (2 : ℚ) ^ (num.log2 + 1) = 2 ^ 53 * 2 ^ guess * 2 ^ den.log2 := by
      rw [← zpow_natCast, ← zpow_natCast, ← zpow_natCast, ← zpow_add₀ (by norm_num), ← zpow_add₀ (by norm_num)]
      congr 1
      simp only [guess]
      push_cast
      ring
    rw [div_lt_iff₀ hdenpos]
    calc (num : ℚ) < 2 ^ 53 * 2 ^ guess * 2 ^ den.log2 := by rwa [← hpower]
      _ ≤ 2 ^ 53 * 2 ^ guess * den := by gcongr

/-- Comparing the integer part of a scaled quotient compares the quotient. -/
theorem scaled_div_lt_iff (num : Nat) {den : Nat} (hden : 0 < den) (e : Int) (n : Nat) :
    (scaled num den e).1 / (scaled num den e).2 < n ↔ (num : ℚ) / den < n * 2 ^ e := by
  have hpos := scaled_pos num hden e
  have hcast : (0 : ℚ) < (scaled num den e).2 := Nat.cast_pos.2 hpos
  rw [Nat.div_lt_iff_lt_mul hpos, ← div_lt_iff₀ (by positivity : (0 : ℚ) < 2 ^ e), ← scaled_eq, div_lt_iff₀ hcast]
  exact_mod_cast Iff.rfl

/-- The mantissa has 53 bits, or less if the exponent is the lowest there is. -/
theorem ratioExponent_spec {num den : Nat} (hnum : num ≠ 0) (hden : den ≠ 0) :
    -1074 ≤ ratioExponent num den ∧ (num : ℚ) / den < 2 ^ 53 * 2 ^ ratioExponent num den ∧
      (ratioExponent num den = -1074 ∨ 2 ^ 52 * 2 ^ ratioExponent num den ≤ (num : ℚ) / den) := by
  let guess : Int := (num.log2 : Int) - (den.log2 : Int) - 52
  obtain ⟨hlow, hhigh⟩ := quotient_bounds hnum hden
  replace hlow : 2 ^ 52 * 2 ^ (guess - 1) ≤ (num : ℚ) / den := hlow
  -- the test of the guess is a test of the quotient
  have htest : (scaled num den guess).1 / (scaled num den guess).2 < Nat.pow 2 52 ↔
      (num : ℚ) / den < 2 ^ 52 * 2 ^ guess := by
    rw [scaled_div_lt_iff num (Nat.pos_of_ne_zero hden), Nat.pow_eq, Nat.cast_pow, Nat.cast_ofNat]
  -- one of two exponents fits, and the test finds it
  obtain ⟨e, he, hup, hdown⟩ : ∃ e : Int, ratioExponent num den = max e (-1074) ∧
      (num : ℚ) / den < 2 ^ 53 * 2 ^ e ∧ 2 ^ 52 * 2 ^ e ≤ (num : ℚ) / den := by
    by_cases h : (scaled num den guess).1 / (scaled num den guess).2 < Nat.pow 2 52
    · refine ⟨guess - 1, congrArg (max · (-1074)) (if_pos h), ?_, hlow⟩
      have hstep : (2 : ℚ) ^ guess = 2 * 2 ^ (guess - 1) := by
        rw [← zpow_one_add₀ (by norm_num)]
        congr 1
        ring
      have hless := htest.1 h
      rw [hstep] at hless
      linarith
    · exact ⟨guess, congrArg (max · (-1074)) (if_neg h), hhigh, not_lt.1 (mt htest.2 h)⟩
  rw [he]
  -- raising the exponent to the lowest one leaves fewer bits
  refine ⟨le_max_right _ _, hup.trans_le ?_, ?_⟩
  · have hmono : (2 : ℚ) ^ e ≤ 2 ^ max e (-1074) := zpow_le_zpow_right₀ (by norm_num) (le_max_left _ _)
    linarith
  · rcases le_total e (-1074) with hsmall | hlarge
    · exact .inl (max_eq_right hsmall)
    · rw [max_eq_left hlarge]
      exact .inr hdown

/-! ## Rounding quotients -/

/-- The limit is half a step above the largest number. -/
theorem cast_overflow : (overflow : ℚ) = (2 ^ 54 - 1) * 2 ^ (970 : Int) := by
  have hone : 1 ≤ 2 ^ 54 := by decide
  have hpower : (2 : ℚ) ^ (970 : Int) = 2 ^ 970 := zpow_natCast 2 970
  simp only [overflow, Nat.pow_eq, Nat.cast_mul, Nat.cast_sub hone, Nat.cast_pow, Nat.cast_ofNat, Nat.cast_one,
    hpower]

attribute [irreducible] overflow

/-- A quotient below the limit whose exponent fits becomes a finite double, with the mantissa rounded. -/
theorem assemble_roundDiv (negative : Bool) {n d : Nat} {e : Int} {v : ℚ} (hd : 0 < d)
    (hvalue : (n : ℚ) / d = v / 2 ^ e) (hlow : -1074 ≤ e) (hup : v < 2 ^ 53 * 2 ^ e)
    (hdown : e = -1074 ∨ 2 ^ 52 * 2 ^ e ≤ v) (h : v < overflow) :
    (assemble negative (roundDiv n d) e).isFinite = true ∧
      (assemble negative (roundDiv n d) e).magnitude = roundDiv n d * 2 ^ e := by
  have hcast : (0 : ℚ) < d := Nat.cast_pos.2 hd
  have hpower : (0 : ℚ) < 2 ^ e := by positivity
  rw [div_eq_div_iff hcast.ne' hpower.ne'] at hvalue
  rw [cast_overflow] at h
  -- rounding can carry the mantissa to 54 bits, but no further
  have hmantissa : roundDiv n d ≤ Nat.pow 2 53 := by
    have hless : (n : ℚ) < 2 ^ 53 * d := by
      rw [← mul_lt_mul_iff_left₀ hpower, hvalue]
      calc v * d < 2 ^ 53 * 2 ^ e * d := by gcongr
        _ = 2 ^ 53 * d * 2 ^ e := by ring
    exact (roundDiv_le n d).trans ((Nat.div_lt_iff_lt_mul hd).2 (by exact_mod_cast hless))
  -- rounding does not lose the leading bit
  have hnormal : e = -1074 ∨ Nat.pow 2 52 ≤ roundDiv n d := by
    refine hdown.imp_right fun hdown => ?_
    have hle : (2 : ℚ) ^ 52 * d ≤ n := by
      rw [← mul_le_mul_iff_left₀ hpower, hvalue]
      calc (2 : ℚ) ^ 52 * d * 2 ^ e = 2 ^ 52 * 2 ^ e * d := by ring
        _ ≤ v * d := by gcongr
    exact Nat.le_trans ((Nat.le_div_iff_mul_le hd).2 (by exact_mod_cast hle)) (div_le_roundDiv n d)
  -- beyond the highest exponent, and where a carry leads there, the quotient is too large
  have hlimit : (0 : ℚ) < 2 ^ (970 : Int) := by positivity
  have hhigh : e ≤ 971 := by
    by_contra hlarge
    have hle : (2 : ℚ) ^ (970 + 2 : Int) ≤ 2 ^ e := zpow_le_zpow_right₀ (by norm_num) (by omega)
    rw [zpow_add₀ (by norm_num)] at hle
    have hdown := hdown.resolve_left (by omega)
    generalize (2 : ℚ) ^ e = p at *
    generalize (2 : ℚ) ^ (970 : Int) = q at *
    norm_num at hle h hdown
    linarith
  have hcarry : roundDiv n d = Nat.pow 2 53 → e < 971 := by
    intro hround
    by_contra hlast
    obtain rfl : e = 970 + 1 := by omega
    have hhalf := two_mul_roundDiv_le n d
    rw [hround] at hhalf
    have hcasthalf : (2 : ℚ) * (2 ^ 53 * d) ≤ 2 * n + d := by exact_mod_cast hhalf
    have hless : v * d < (2 ^ 54 - 1) * 2 ^ (970 : Int) * d := by gcongr
    rw [← hvalue, zpow_add₀ (by norm_num)] at hless
    generalize (2 : ℚ) ^ (970 : Int) = q at *
    -- twice the quotient would be below the limit and, with the half by which it was rounded, not below it
    have hbound : (n : ℚ) * 2 < (2 ^ 54 - 1) * d := by
      rw [← mul_lt_mul_iff_left₀ hlimit]
      linarith
    norm_num at hbound hcasthalf
    linarith
  exact assemble_spec negative hlow hhigh hmantissa hnormal hcarry

/-- What rounding a quotient gives as long as it is below the limit. -/
theorem ofRatio_spec (negative : Bool) {num den : Nat} (hnum : num ≠ 0) (hden : den ≠ 0)
    (h : (num : ℚ) / den < overflow) :
    let e := ratioExponent num den
    (ofRatio negative num den).isFinite = true ∧
      (ofRatio negative num den).magnitude = roundDiv (scaled num den e).1 (scaled num den e).2 * 2 ^ e := by
  intro e
  obtain ⟨hlow, hup, hdown⟩ := ratioExponent_spec hnum hden
  rw [ofRatio_eq_assemble negative hnum hden]
  exact assemble_roundDiv negative (scaled_pos num (Nat.pos_of_ne_zero hden) e) (scaled_eq num den e) hlow hup hdown h

/-- Below the limit nothing becomes infinite. -/
theorem isFinite_ofRatio (negative : Bool) {num den : Nat} (h : (num : ℚ) / den < overflow) :
    (ofRatio negative num den).isFinite = true := by
  by_cases hzero : num = 0 ∨ den = 0
  · rw [ofRatio, if_pos hzero]
    cases negative <;> decide
  · rw [not_or] at hzero
    exact (ofRatio_spec negative hzero.1 hzero.2 h).1

/-! ## Natural numbers -/

/-- The natural number nearest to another one that has no more than 53 binary digits and zeros behind them. -/
def nearest (n : Nat) : Nat := roundDiv n (Nat.pow 2 (n.log2 - 52)) * Nat.pow 2 (n.log2 - 52)

/-- A number of 53 digits at most is the nearest one itself. -/
theorem nearest_eq_self {n : Nat} (h : n.log2 ≤ 52) : nearest n = n := by
  rw [nearest, show n.log2 - 52 = 0 by omega]
  simp

/-- Zero is zero. -/
theorem magnitude_zero : (zero false).magnitude = 0 := by
  have hmantissa : (zero false).mantissa = 0 := by decide
  rw [magnitude, hmantissa, Nat.cast_zero, zero_mul]

/-- The double of a natural number is the nearest one. -/
theorem magnitude_ofNat {n : Nat} (h : n < overflow) : (ofNat n).magnitude = nearest n := by
  -- zero is a case of its own
  by_cases hn : n = 0
  · have hzero : nearest 0 = 0 := by decide
    rw [hn, hzero, ofNat, ofRatio, if_pos (.inl rfl), magnitude_zero, Nat.cast_zero]
  obtain ⟨-, hup, hdown⟩ := ratioExponent_spec hn Nat.one_ne_zero
  obtain ⟨-, hvalue⟩ := ofRatio_spec false hn Nat.one_ne_zero (by simpa using h)
  rw [ofNat, hvalue]
  generalize ratioExponent n 1 = e at *
  rw [Nat.cast_one, div_one] at hup hdown
  have hone : (1 : ℚ) ≤ n := by exact_mod_cast Nat.one_le_iff_ne_zero.2 hn
  have hlower : (2 : ℚ) ^ 52 * 2 ^ e ≤ n := by
    refine hdown.resolve_left fun he => ?_
    -- with the lowest exponent the number would be less than one
    have hsmall : (2 : ℚ) ^ e ≤ 2 ^ (-53 : Int) := zpow_le_zpow_right₀ (by norm_num) (by omega)
    norm_num at hup hsmall
    linarith
  cases e with
  | ofNat k =>
    -- the exponent is the number of digits beyond the 53
    rw [Int.ofNat_eq_natCast, zpow_natCast] at hlower hup
    have hlow : 2 ^ (52 + k) ≤ n := by
      rw [pow_add]
      exact_mod_cast hlower
    have hhigh : n < 2 ^ (52 + k + 1) := by
      rw [show 52 + k + 1 = 53 + k by omega, pow_add]
      exact_mod_cast hup
    have hlog : n.log2 = 52 + k := (Nat.log2_eq_iff hn).2 ⟨hlow, hhigh⟩
    have hscaled : scaled n 1 (Int.ofNat k) = (n, Nat.pow 2 k) := by
      rw [scaled, if_pos (show 0 ≤ Int.ofNat k from Int.natCast_nonneg k), Nat.one_mul]
      rfl
    rw [hscaled, nearest, hlog, Nat.add_sub_cancel_left, Int.ofNat_eq_natCast, zpow_natCast, Nat.cast_mul, Nat.pow_eq,
      Nat.cast_pow, Nat.cast_ofNat]
  | negSucc k =>
    -- the number has no more than 53 digits, and zeros are written behind them
    have hlog : n.log2 ≤ 52 := by
      have hpower : (2 : ℚ) ^ Int.negSucc k ≤ 1 := zpow_le_one_of_nonpos₀ (by norm_num) (Int.negSucc_lt_zero k).le
      have hsmall : (n : ℚ) < 2 ^ 53 := by linarith
      exact Nat.le_of_lt_succ ((Nat.log2_lt hn).2 (by exact_mod_cast hsmall))
    have hscaled : scaled n 1 (Int.negSucc k) = (n * Nat.pow 2 (k + 1), 1) := by
      rw [scaled, if_neg (by omega)]
      rfl
    have hpower : (2 : ℚ) ^ Int.negSucc k = (2 ^ (k + 1))⁻¹ := zpow_negSucc 2 k
    rw [hscaled, roundDiv_one, nearest_eq_self hlog, hpower, Nat.cast_mul, Nat.pow_eq, Nat.cast_pow, Nat.cast_ofNat,
      mul_inv_cancel_right₀ (by positivity)]

/-- A power of two lies between a number and the nearest one only if it lies between their numbers of digits. -/
theorem two_pow_le_nearest {n : Nat} (hn : n ≠ 0) : 2 ^ n.log2 ≤ nearest n := by
  rcases Nat.le_total n.log2 52 with hsmall | hlarge
  · rw [nearest_eq_self hsmall]
    exact Nat.log2_self_le hn
  · -- the digits behind the 53 are cut off, and the power of two has none
    obtain ⟨k, hk⟩ := Nat.exists_eq_add_of_le hlarge
    have hlow : 2 ^ 52 ≤ n / 2 ^ k := by
      rw [Nat.le_div_iff_mul_le (Nat.two_pow_pos k), ← Nat.pow_add, ← hk]
      exact Nat.log2_self_le hn
    rw [nearest, hk, Nat.add_sub_cancel_left, Nat.pow_add]
    exact Nat.mul_le_mul_right _ (hlow.trans (div_le_roundDiv n _))

/-- The next power of two bounds what is nearest. -/
theorem nearest_le_two_pow {n : Nat} : nearest n ≤ 2 ^ (n.log2 + 1) := by
  rcases Nat.le_total n.log2 52 with hsmall | hlarge
  · rw [nearest_eq_self hsmall]
    exact Nat.lt_log2_self.le
  · obtain ⟨k, hk⟩ := Nat.exists_eq_add_of_le hlarge
    -- the quotient has 53 digits, so that rounding ends at the next power at most
    have hhigh : n / 2 ^ k < 2 ^ 53 := by
      rw [Nat.div_lt_iff_lt_mul (Nat.two_pow_pos k), ← Nat.pow_add, show 53 + k = n.log2 + 1 by omega]
      exact Nat.lt_log2_self
    rw [nearest, hk, Nat.add_sub_cancel_left, show 52 + k + 1 = 53 + k by omega, Nat.pow_add]
    exact Nat.mul_le_mul_right _ ((roundDiv_le n _).trans hhigh)

/-- Rounding natural numbers keeps their order. -/
theorem nearest_mono {m n : Nat} (h : m ≤ n) : nearest m ≤ nearest n := by
  by_cases hm : m = 0
  · have hzero : nearest 0 = 0 := by decide
    rw [hm, hzero]
    exact Nat.zero_le _
  have hn : n ≠ 0 := by omega
  have hlog : m.log2 ≤ n.log2 := (Nat.le_log2 hn).2 ((Nat.log2_self_le hm).trans h)
  rcases Nat.lt_or_eq_of_le hlog with hlt | heq
  · -- a power of two separates them
    calc nearest m ≤ 2 ^ (m.log2 + 1) := nearest_le_two_pow
      _ ≤ 2 ^ n.log2 := Nat.pow_le_pow_right (by decide) hlt
      _ ≤ nearest n := two_pow_le_nearest hn
  · rw [nearest, nearest, heq]
    exact Nat.mul_le_mul_right _ (roundDiv_mono h _)

/-! ## Products -/

/-- A product below the limit is finite. -/
theorem isFinite_mul {x y : Binary64} (h : x.magnitude * y.magnitude < overflow) : (x.mul y).isFinite = true := by
  rw [← toRatio_eq, ← toRatio_eq, div_mul_div_comm, ← Nat.cast_mul, ← Nat.cast_mul] at h
  exact isFinite_ofRatio _ h

/-- Numbers from here on are rounded to the largest double, if they do not become infinite. -/
def lastStep : Nat := (Nat.pow 2 54 - 3) * Nat.pow 2 970

/-- The last step ends half a step below the limit. -/
theorem cast_lastStep : (lastStep : ℚ) = (2 ^ 54 - 3) * 2 ^ (970 : Int) := by
  have hthree : 3 ≤ 2 ^ 54 := by decide
  have hpower : (2 : ℚ) ^ (970 : Int) = 2 ^ 970 := zpow_natCast 2 970
  simp only [lastStep, Nat.pow_eq, Nat.cast_mul, Nat.cast_sub hthree, Nat.cast_pow, Nat.cast_ofNat, hpower]

attribute [irreducible] lastStep

/-- The largest significands at each power of ten still make products below the limit. -/
theorem nearest_mul_nearest_lt :
    ∀ e < 309, nearest (min (lastStep / Nat.pow 10 e) 0xffffffffffffffff) * nearest (Nat.pow 10 e) < overflow := by
  decide +kernel

/-- A word times a power of ten stays finite although both are rounded before they are multiplied, as long as the
product itself is not rounded to the largest double. -/
theorem isFinite_mul_ofNat {n e : Nat} (hn : n ≤ 0xffffffffffffffff) (he : e ≤ 308)
    (h : n * Nat.pow 10 e ≤ lastStep) : ((ofNat n).mul (ofNat (Nat.pow 10 e))).isFinite = true := by
  have hword : 0xffffffffffffffff < overflow := by decide +kernel
  have hpower : ∀ e < 309, Nat.pow 10 e < overflow := by decide +kernel
  -- rounding keeps the order, so that one product has to be computed for each power
  have hquotient : n ≤ lastStep / Nat.pow 10 e := (Nat.le_div_iff_mul_le (Nat.pow_pos (by decide))).2 h
  have hbound : nearest n * nearest (Nat.pow 10 e) < overflow :=
    calc nearest n * nearest (Nat.pow 10 e)
        ≤ nearest (min (lastStep / Nat.pow 10 e) 0xffffffffffffffff) * nearest (Nat.pow 10 e) :=
          Nat.mul_le_mul_right _ (nearest_mono (Nat.le_min.2 ⟨hquotient, hn⟩))
      _ < overflow := nearest_mul_nearest_lt e (by omega)
  refine isFinite_mul ?_
  rw [magnitude_ofNat (Nat.lt_of_le_of_lt hn hword), magnitude_ofNat (hpower e (by omega))]
  exact_mod_cast hbound

end Logbook.Binary64
