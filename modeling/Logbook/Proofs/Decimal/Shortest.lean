import Logbook.Decimal.Shortest
import Logbook.Proofs.Decimal.Rounding

/-!
# The size of the shortest decimal

The shortest decimal of a double is a point of the interval of reals that round to it, so it is no larger than the upper
end of the interval.  The largest double apart, this end lies below the interval of the largest one.

## Key results

- `shortest_cases`: the shortest decimal is no larger than the interval
- `shortest_le_lastStep`: a bound for all doubles but the largest
-/

namespace Logbook

namespace Binary64

/-! ## The parts of a finite number -/

/-- A mantissa has 53 bits. -/
theorem mantissa_lt (x : Binary64) : x.mantissa < Nat.pow 2 53 := by
  have hfraction : x.fraction < Nat.pow 2 52 := Nat.mod_lt _ (by decide)
  rw [mantissa]
  norm_num at hfraction ⊢
  split <;> omega

/-- A number that is finite has no larger exponent. -/
theorem scale_le {x : Binary64} (h : x.isFinite = true) : x.scale ≤ 971 := by
  have hbits : x.exponentBits < Nat.pow 2 11 := Nat.mod_lt _ (by decide)
  have hne : x.exponentBits ≠ 2047 := of_decide_eq_true h
  rw [scale]
  norm_num at hbits
  split <;> omega

/-- The largest finite numbers, of both signs. -/
def IsLargest (x : Binary64) : Prop := x.exponentBits = 2046 ∧ x.fraction = Nat.pow 2 52 - 1

instance (x : Binary64) : Decidable x.IsLargest := inferInstanceAs (Decidable (_ ∧ _))

/-- Only the largest numbers have the largest mantissa at the highest exponent. -/
theorem mantissa_lt_of_not_isLargest {x : Binary64} (h : ¬ x.IsLargest) (hscale : x.scale = 971) :
    x.mantissa < Nat.pow 2 53 - 1 := by
  have hfraction : x.fraction < Nat.pow 2 52 := Nat.mod_lt _ (by decide)
  -- the exponent is the highest one of a number that is finite
  have hexponent : x.exponentBits = 2046 := by
    rw [scale] at hscale
    split at hscale <;> omega
  have hne : x.fraction ≠ Nat.pow 2 52 - 1 := fun hlast => h ⟨hexponent, hlast⟩
  rw [mantissa, if_neg (by omega)]
  norm_num at hfraction hne ⊢
  omega

/-- There is one of each sign. -/
theorem IsLargest.eq {x : Binary64} (h : x.IsLargest) : x = ⟨0x7fefffffffffffff⟩ ∨ x = ⟨0xffefffffffffffff⟩ := by
  obtain ⟨hexponent, hfraction⟩ := h
  obtain ⟨bits⟩ := x
  have hlt : bits.toNat < 2 ^ 64 := bits.toNat_lt
  simp only [exponentBits, fraction] at hexponent hfraction
  norm_num at hexponent hfraction
  have hcases : bits.toNat = 0x7fefffffffffffff ∨ bits.toNat = 0xffefffffffffffff := by omega
  rcases hcases with hbits | hbits
  · exact .inl (congrArg Binary64.mk (UInt64.toNat_inj.1 hbits))
  · exact .inr (congrArg Binary64.mk (UInt64.toNat_inj.1 hbits))

/-- Only the sign tells the two zeros apart. -/
theorem eq_of_isZero {x : Binary64} (h : x.isZero = true) : x = ⟨0⟩ ∨ x = ⟨0x8000000000000000⟩ := by
  obtain ⟨bits⟩ := x
  have hlt : bits.toNat < 2 ^ 64 := bits.toNat_lt
  simp only [isZero, exponentBits, fraction, Bool.and_eq_true] at h
  norm_num at h
  -- the sign is all that is left
  have hcases : bits.toNat = 0 ∨ bits.toNat = 0x8000000000000000 := by omega
  rcases hcases with hbits | hbits
  · exact .inl (congrArg Binary64.mk (UInt64.toNat_inj.1 hbits))
  · exact .inr (congrArg Binary64.mk (UInt64.toNat_inj.1 hbits))

end Binary64

namespace Decimal

/-! ## Points of the grid -/

/-- The number that digits and exponent stand for. -/
def Scientific.value (s : Scientific) : ℚ := s.digits * 10 ^ s.exponent

/-- The divisor is positive. -/
theorem asRatio_pos (n : Nat) (e : Int) : 0 < (asRatio n e).2 := by
  rw [asRatio]
  split
  · exact Nat.one_pos
  · exact Nat.pow_pos (by decide)

/-- The quotient is the number with its power of ten. -/
theorem asRatio_eq (n : Nat) (e : Int) : ((asRatio n e).1 : ℚ) / (asRatio n e).2 = n * 10 ^ e := by
  rw [asRatio]
  split
  next h =>
    obtain ⟨k, rfl⟩ := Int.eq_ofNat_of_zero_le h
    simp
  next h =>
    obtain ⟨k, hk⟩ := Int.eq_ofNat_of_zero_le (show 0 ≤ -e by omega)
    rw [hk, show e = -(k : Int) by omega]
    simp [div_eq_mul_inv]

/-- What lies in an interval is no larger than its upper end. -/
theorem Interval.le_of_holds {i : Interval} {num den : Nat} (hi : 0 < i.denominator) (hden : 0 < den)
    (h : i.holds num den = true) : (num : ℚ) / den ≤ (i.high : ℚ) / i.denominator := by
  -- the test is strict where the end does not belong to the interval
  have hle : num * i.denominator ≤ i.high * den := by
    rw [holds] at h
    split at h
    · exact of_decide_eq_true (Bool.and_eq_true_iff.1 h).2
    · exact (of_decide_eq_true (Bool.and_eq_true_iff.1 h).2).le
  rw [div_le_div_iff₀ (Nat.cast_pos.2 hden) (Nat.cast_pos.2 hi)]
  exact_mod_cast hle

/-- A point that is found is not zero, and it lies in the interval. -/
theorem onGrid?_eq_some {i : Interval} {e : Int} {n : Nat} (h : onGrid? i e = some n) :
    0 < n ∧ i.holds (asRatio n e).1 (asRatio n e).2 = true := by
  rw [onGrid?] at h
  generalize (if 0 ≤ e then (i.value, i.denominator * Nat.pow 10 e.toNat)
    else (i.value * Nat.pow 10 (-e).toNat, i.denominator)) = quotient at h
  obtain ⟨num, den⟩ := quotient
  -- the two neighbours are tried, and either may lie in the interval, or both
  simp only at h
  split at h
  next hfloor hnext =>
    obtain ⟨hholds, hpos⟩ := Bool.and_eq_true_iff.1 hfloor
    -- whichever of the two is preferred
    have hn : n = num / den ∨ n = num / den + 1 := by
      rw [Option.some.injEq] at h
      subst h
      exact ite_eq_or_eq _ _ _
    rcases hn with rfl | rfl
    · exact ⟨of_decide_eq_true hpos, hholds⟩
    · exact ⟨Nat.succ_pos _, hnext⟩
  next hfloor _ =>
    obtain ⟨hholds, hpos⟩ := Bool.and_eq_true_iff.1 hfloor
    cases h
    exact ⟨of_decide_eq_true hpos, hholds⟩
  next _ hnext =>
    cases h
    exact ⟨Nat.succ_pos _, hnext⟩
  next => cases h

/-! ## The search -/

/-- Without its last zeros a decimal stands for the same number. -/
theorem stripZeros_spec (fuel : Nat) {s : Scientific} (hs : 0 < s.digits) :
    0 < (stripZeros fuel s).digits ∧ (stripZeros fuel s).value = s.value := by
  -- by induction on the steps: one zero is dropped for one more power of ten
  induction fuel generalizing s with
  | zero => exact ⟨hs, rfl⟩
  | succ fuel ih =>
    rw [stripZeros]
    split
    next hzero =>
      obtain ⟨-, hmod⟩ := hzero
      obtain ⟨hpos, hvalue⟩ := ih (s := ⟨s.digits / 10, s.exponent + 1⟩) (Nat.div_pos (by omega) (by decide))
      refine ⟨hpos, hvalue.trans ?_⟩
      have hdigits : ((s.digits / 10 : Nat) : ℚ) * 10 = s.digits := by
        exact_mod_cast Nat.div_mul_cancel (Nat.dvd_of_mod_eq_zero hmod)
      rw [Scientific.value, Scientific.value, zpow_add_one₀ (by norm_num), ← hdigits]
      ring
    next => exact ⟨hs, rfl⟩

/-- Unless nothing is found, the decimal is no larger than the interval. -/
theorem search_cases {i : Interval} (hi : 0 < i.denominator) (top : Int) (fuel count : Nat) :
    search i top fuel count = ⟨0, 0⟩ ∨
      0 < (search i top fuel count).digits ∧ (search i top fuel count).value ≤ (i.high : ℚ) / i.denominator := by
  -- by induction on the steps, each of which tries one digit more
  induction fuel generalizing count with
  | zero => exact .inl rfl
  | succ fuel ih =>
    rw [search]
    split
    next n hn =>
      -- what is found lies in the interval, and dropping its zeros does not move it
      obtain ⟨hpos, hholds⟩ := onGrid?_eq_some hn
      obtain ⟨hdigits, hvalue⟩ := stripZeros_spec 20 (s := ⟨n, top - count + 1⟩) hpos
      refine .inr ⟨hdigits, ?_⟩
      rw [hvalue, Scientific.value, ← asRatio_eq]
      exact Interval.le_of_holds hi (asRatio_pos n _) hholds
    next => exact ih (count + 1)

/-- The interval has a positive denominator. -/
theorem denominator_roundingInterval (x : Binary64) : 0 < (roundingInterval x).denominator := by
  rw [roundingInterval]
  simp only
  split
  · exact Nat.mul_pos (by decide) Nat.one_pos
  · exact Nat.mul_pos (by decide) (Nat.two_pow_pos _)

/-- The interval ends half a unit above the number. -/
theorem high_roundingInterval (x : Binary64) :
    ((roundingInterval x).high : ℚ) / (roundingInterval x).denominator = (x.mantissa + 1 / 2) * 2 ^ x.scale := by
  rw [roundingInterval]
  simp only
  -- the power of two stands above or below the fraction line
  split
  next h =>
    obtain ⟨k, hk⟩ := Int.eq_ofNat_of_zero_le h
    rw [hk]
    simp
    ring
  next h =>
    obtain ⟨k, hk⟩ := Int.eq_ofNat_of_zero_le (show 0 ≤ -x.scale by omega)
    rw [hk, show x.scale = -(k : Int) by omega]
    simp
    field_simp
    ring

/-- The shortest decimal is zero, or it is no larger than the interval. -/
theorem shortest_cases (x : Binary64) :
    shortest x = ⟨0, 0⟩ ∨
      0 < (shortest x).digits ∧ (shortest x).value ≤ (x.mantissa + 1 / 2) * 2 ^ x.scale := by
  rw [shortest]
  split
  · exact .inl rfl
  · rw [← high_roundingInterval]
    exact search_cases (denominator_roundingInterval x) _ 18 1

/-- The largest numbers apart, the shortest decimal does not come near the limit of doubles. -/
theorem shortest_le_lastStep {x : Binary64} (hfinite : x.isFinite = true) (hlargest : ¬ x.IsLargest) :
    (shortest x).value ≤ Binary64.lastStep := by
  -- the upper end of the interval is below the last step
  have hend : (x.mantissa + 1 / 2) * 2 ^ x.scale ≤ ((Binary64.lastStep : Nat) : ℚ) := by
    have hlimit : (0 : ℚ) < 2 ^ (970 : Int) := by positivity
    rw [Binary64.cast_lastStep]
    rcases Int.lt_or_eq_of_le (Binary64.scale_le hfinite) with hlow | htop
    · -- below the highest exponent any mantissa will do
      have hmantissa : (x.mantissa : ℚ) + 1 ≤ 2 ^ 53 := by
        exact_mod_cast (show x.mantissa + 1 ≤ 2 ^ 53 from x.mantissa_lt)
      have hscale : (2 : ℚ) ^ x.scale ≤ 2 ^ (970 : Int) := zpow_le_zpow_right₀ (by norm_num) (by omega)
      generalize (2 : ℚ) ^ (970 : Int) = q at *
      calc (x.mantissa + 1 / 2) * (2 : ℚ) ^ x.scale
          ≤ (x.mantissa + 1 / 2) * q := by gcongr
        _ ≤ (2 ^ 54 - 3) * q := by gcongr; linarith
    · -- at the highest exponent the mantissa is not the largest one
      have hmantissa : (x.mantissa : ℚ) + 2 ≤ 2 ^ 53 := by
        exact_mod_cast (show x.mantissa + 2 ≤ 2 ^ 53 by
          have := Binary64.mantissa_lt_of_not_isLargest hlargest htop
          norm_num at this ⊢
          omega)
      have hscale : (2 : ℚ) ^ x.scale = 2 ^ (970 : Int) * 2 := by
        rw [htop, show (971 : Int) = 970 + 1 from rfl, zpow_add_one₀ (by norm_num)]
      rw [hscale]
      generalize (2 : ℚ) ^ (970 : Int) = q at *
      calc (x.mantissa + 1 / 2) * (q * 2)
          = (2 * x.mantissa + 1) * q := by ring
        _ ≤ (2 ^ 54 - 3) * q := by gcongr; linarith
  rcases shortest_cases x with hzero | ⟨-, hvalue⟩
  · rw [hzero, Scientific.value]
    simp
  · exact hvalue.trans hend

end Decimal

end Logbook
