import Logbook.Proofs.Decimal.Shortest
import Logbook.Proofs.Json.Range

/-!
# Reading doubles

The text of a finite double is read as a double, if not always as the same one.  Reading fails only where the number
gets too large, and no text is that large.  With a point the digits make no larger a number than they do without it.
With an exponent the digits that are kept, times the power of ten that is left, are no more than the number that was
written (`extendSignificand_spec`), and this lies below the limit (`Binary64.isFinite_mul_ofNat`).  Only the largest
doubles come too close to it, and these are read one by one.

## Key results

- `exists_scaleDigits`: digits that make no larger a number than the limit allows are read
- `IsFront.readNumber_point` / `IsFront.readNumber_power`: both ways to lay out a number
- `exists_readsAs` / `readsAs_reread`: every finite double is read as a double
-/

namespace Logbook

/-- A finite double is not infinite. -/
theorem Binary64.isInfinite_of_isFinite {x : Binary64} (h : x.isFinite = true) : x.isInfinite = false := by
  have hne : x.exponentBits ≠ 2047 := of_decide_eq_true h
  simp [isInfinite, hne]

namespace Json

open Binary64 (lastStep)

/-! ## Digits -/

/-- The digits of a number that is not zero are as many as its size tells. -/
theorem pow_length_toDigits_le {n : Nat} (hn : 0 < n) : 10 ^ ((Nat.toDigits 10 n).length - 1) ≤ n := by
  rcases Nat.eq_zero_or_pos ((Nat.toDigits 10 n).length - 1) with hone | hmore
  · rw [hone]
    exact hn
  · by_contra hless
    have hlength := (Nat.length_toDigits_le_iff (by decide) hmore).2 (Nat.lt_of_not_le hless)
    omega

/-- What the reader does with the digits of an exponent is to read them as a number. -/
theorem foldl_digits (cs : List Char) (n : Nat) :
    cs.foldl (fun n c => n * 10 + (c.toNat - 48)) n = Nat.ofDigitChars 10 cs n := by
  induction cs generalizing n with
  | nil => rfl
  | cons c cs ih =>
    rw [List.foldl_cons, ih, Nat.ofDigitChars_cons, Nat.mul_comm]
    rfl

/-- The digits that are kept, with zeros for those left over, are no more than all digits. -/
theorem extendSignificand_spec (cs : List Char) (n : Nat) :
    (extendSignificand n cs).2.length ≤ cs.length ∧
      (extendSignificand n cs).1 * 10 ^ (extendSignificand n cs).2.length ≤ Nat.ofDigitChars 10 cs n := by
  -- by induction on the digits, with the number that is kept so far
  induction cs generalizing n with
  | nil => exact ⟨Nat.le_refl 0, by simp [extendSignificand, Nat.ofDigitChars]⟩
  | cons c cs ih =>
    rw [extendSignificand]
    split
    · -- the word is full, and all digits are left over
      refine ⟨Nat.le_refl _, ?_⟩
      rw [Nat.ofDigitChars_eq_ofDigitChars_zero, Nat.mul_comm]
      exact Nat.le_add_right _ _
    · obtain ⟨hlength, hvalue⟩ := ih (n * 10 + (c.toNat - 48))
      refine ⟨Nat.le_succ_of_le hlength, ?_⟩
      rw [Nat.ofDigitChars_cons, Nat.mul_comm 10 n]
      exact hvalue

/-- Digits stand for less than a power of ten. -/
theorem ofDigitChars_lt {cs : List Char} (h : ∀ c ∈ cs, c.isDigit = true) :
    Nat.ofDigitChars 10 cs 0 < 10 ^ cs.length := by
  -- by induction on the digits: the first counts nine times the power of those behind it at most
  induction cs with
  | nil => exact Nat.one_pos
  | cons c cs ih =>
    have hrest := ih fun d hd => h d (List.mem_cons_of_mem c hd)
    have hc : c.toNat - '0'.toNat ≤ 9 := by
      have hdigit := h c List.mem_cons_self
      simp only [Char.isDigit, Bool.and_eq_true, decide_eq_true_eq] at hdigit
      have hnine : c.toNat ≤ '9'.toNat := hdigit.2
      have hvalues : '9'.toNat = 57 ∧ '0'.toNat = 48 := ⟨rfl, rfl⟩
      omega
    rw [Nat.ofDigitChars_cons, Nat.ofDigitChars_eq_ofDigitChars_zero, List.length_cons, Nat.pow_succ]
    calc 10 ^ cs.length * (10 * 0 + (c.toNat - '0'.toNat)) + Nat.ofDigitChars 10 cs 0
        ≤ 10 ^ cs.length * 9 + Nat.ofDigitChars 10 cs 0 := by gcongr; omega
      _ < 10 ^ cs.length * 9 + 10 ^ cs.length := by gcongr
      _ = 10 ^ cs.length * 10 := by ring

/-- No zero stands in front of a number that is not zero. -/
theorem toDigits_ne_zero_cons {n : Nat} (hn : 0 < n) (cs : List Char) : Nat.toDigits 10 n ≠ '0' :: cs := by
  intro h
  have hvalue := Nat.ofDigitChars_ten_toDigits (n := n)
  have hleading := hasLeadingZero_toDigits n
  -- zero is the only number with a leading zero
  rw [h] at hvalue hleading
  cases cs with
  | nil =>
    have hzero : Nat.ofDigitChars 10 ['0'] 0 = 0 := rfl
    omega
  | cons c cs => cases hleading

/-! ## Scaling -/

/-- The numbers that are kept are below the last step. -/
theorem maxSignificand_le_lastStep : maxSignificand ≤ lastStep := by
  decide +kernel

/-- Powers of ten from the 309th on are above the last step. -/
theorem lastStep_lt {k : Nat} (hk : 308 < k) : lastStep < 10 ^ k :=
  calc lastStep < 10 ^ 309 := by decide +kernel
    _ ≤ 10 ^ k := Nat.pow_le_pow_right (by decide) hk

/-- The last step is below the 309th power of ten. -/
theorem cast_lastStep_lt : (lastStep : ℚ) < 10 ^ (309 : Int) := by
  have hlimit (k : Nat) (hk : 308 < k) : (lastStep : ℚ) < 10 ^ (k : Int) := by
    rw [zpow_natCast]
    exact_mod_cast lastStep_lt hk
  exact hlimit 309 (by decide)

/-- Digits are read as a double unless they stand for a number beyond the limit. -/
theorem exists_scaleDigits (negative : Bool) {d : Digits} (hword : d.significand ≤ maxSignificand)
    (h : (d.significand : ℚ) * 10 ^ d.exponent ≤ lastStep) : ∃ y, scaleDigits negative d = .ok y := by
  obtain ⟨n, e⟩ := d
  simp only at hword h
  rw [scaleDigits]
  simp only
  split
  next hup =>
    -- a number without negative exponent is multiplied up
    obtain ⟨k, rfl⟩ := Int.eq_ofNat_of_zero_le hup
    have hvalue : n * 10 ^ k ≤ lastStep := by
      rw [zpow_natCast] at h
      exact_mod_cast h
    split
    next hlarge =>
      -- only zero can be multiplied by so large a power
      have hzero : n = 0 := by
        by_contra hn
        have hlimit : lastStep < 10 ^ k := lastStep_lt (by omega)
        have hle : 10 ^ k ≤ n * 10 ^ k := Nat.le_mul_of_pos_left _ (Nat.pos_of_ne_zero hn)
        omega
      have hisZero : (Binary64.ofNat 0).isZero = true := by decide
      rw [hzero, hisZero, if_pos rfl]
      exact ⟨_, rfl⟩
    next hsmall =>
      have hfinite := Binary64.isFinite_mul_ofNat hword (by omega) hvalue
      rw [Int.toNat_natCast, Binary64.isInfinite_of_isFinite hfinite]
      exact ⟨_, rfl⟩
  -- and dividing never overflows
  next => exact ⟨_, rfl⟩

/-- A negative exponent does not make the number larger. -/
theorem exists_scaleDigits_of_nonpos (negative : Bool) {d : Digits} (hword : d.significand ≤ maxSignificand)
    (hexponent : d.exponent ≤ 0) : ∃ y, scaleDigits negative d = .ok y := by
  refine exists_scaleDigits negative hword ?_
  have hpower : (10 : ℚ) ^ d.exponent ≤ 1 := zpow_le_one_of_nonpos₀ (by norm_num) hexponent
  calc (d.significand : ℚ) * 10 ^ d.exponent ≤ d.significand * 1 := by gcongr
    _ = d.significand := mul_one _
    _ ≤ lastStep := by exact_mod_cast hword.trans maxSignificand_le_lastStep

/-- A number with an exponent of any digits. -/
theorem exists_scalePower (negative : Bool) {d : Digits} {top : Int} (hword : d.significand ≤ maxSignificand)
    (htop : top ≤ maxExponent) (h : (d.significand : ℚ) * 10 ^ (d.exponent + top) ≤ lastStep) :
    ∃ y, scalePower negative d (decide (top < 0)) (Nat.toDigits 10 top.natAbs) = .ok y := by
  rw [scalePower, foldl_digits, Nat.ofDigitChars_ten_toDigits]
  split
  next hlarge =>
    -- so large an exponent has a minus
    have hminus : decide (top < 0) = true := decide_eq_true (by omega)
    rw [hminus, if_neg (by simp)]
    exact ⟨_, rfl⟩
  next =>
    have hsum : (if decide (top < 0) = true then d.exponent - top.natAbs else d.exponent + top.natAbs)
        = d.exponent + top := by
      simp only [decide_eq_true_eq]
      split <;> omega
    rw [hsum]
    exact exists_scaleDigits (d := ⟨d.significand, d.exponent + top⟩) negative hword h

/-- What is written behind the `e` is read as the exponent. -/
theorem exists_readExponent (negative : Bool) {d : Digits} {top : Int} (hword : d.significand ≤ maxSignificand)
    (htop : top ≤ maxExponent) (h : (d.significand : ℚ) * 10 ^ (d.exponent + top) ≤ lastStep) :
    ∃ y, readExponent negative d ((if top < 0 then '-' else '+') :: Nat.toDigits 10 top.natAbs) = .ok (y, []) := by
  obtain ⟨y, hy⟩ := exists_scalePower negative hword htop h
  have hdigits : readDigits (Nat.toDigits 10 top.natAbs ++ []) = .ok (Nat.toDigits 10 top.natAbs, []) :=
    readDigits_of_head isDigit_of_mem_toDigits Nat.toDigits_ne_nil nofun
  rw [List.append_nil] at hdigits
  have hpower : readPower negative d (decide (top < 0)) (Nat.toDigits 10 top.natAbs) = .ok (y, []) := by
    rw [readPower, bind_of_ok hdigits]
    show (scalePower negative d (decide (top < 0)) (Nat.toDigits 10 top.natAbs) >>= fun y => .ok (y, [])) = _
    rw [hy]
    rfl
  refine ⟨y, ?_⟩
  -- the sign of the exponent is read off its first character
  split
  next hneg =>
    rw [decide_eq_true hneg] at hpower
    exact hpower
  next hpos =>
    rw [decide_eq_false hpos] at hpower
    exact hpower

/-! ## Numbers with a point or an exponent -/

/-- The digits in front of a point or an `e`. -/
structure IsFront (front : List Char) : Prop where
  digits : ∀ c ∈ front, c.isDigit = true
  ne_nil : front ≠ []
  leading : hasLeadingZero front = false
  word : Nat.ofDigitChars 10 front 0 ≤ maxSignificand

namespace IsFront

variable {front fraction rest : List Char}

/-- Behind the digits in front a number goes on with its point. -/
theorem readNumber (h : IsFront front) (negative : Bool) (hrest : ∀ c ∈ rest.head?, c.isDigit = false) :
    Json.readNumber negative (front ++ rest) = readPoint negative front rest := by
  rw [Json.readNumber, bind_of_ok (readDigits_of_head h.digits h.ne_nil hrest)]
  show (if hasLeadingZero front then Except.error ReadError.malformed else readPoint negative front rest) = _
  rw [h.leading, if_neg Bool.false_ne_true]

/-- A number without a fraction hands its digits on to what reads the exponent. -/
theorem readNumber_power (h : IsFront front) (negative : Bool) :
    Json.readNumber negative (front ++ 'e' :: rest)
      = Reader.map .real (readExponent negative ⟨Nat.ofDigitChars 10 front 0, 0⟩) rest := by
  rw [h.readNumber negative (by rintro c ⟨⟩; rfl), readPoint, extendSignificand_eq h.word]
  rfl

/-- A number with a fraction hands on the digits that are kept, less the places behind the point. -/
theorem readNumber_point (h : IsFront front) (negative : Bool) (hfraction : ∀ c ∈ fraction, c.isDigit = true)
    (hne : fraction ≠ []) (hrest : ∀ c ∈ rest.head?, c.isDigit = false) :
    let kept := extendSignificand (Nat.ofDigitChars 10 front 0) fraction
    Json.readNumber negative (front ++ '.' :: (fraction ++ rest))
      = Reader.map .real (readTail negative ⟨kept.1, 0 - (fraction.length - kept.2.length : Nat)⟩) rest := by
  intro kept
  have hread : readFraction negative ⟨Nat.ofDigitChars 10 front 0, 0⟩ (fraction ++ rest)
      = readTail negative ⟨kept.1, 0 - (fraction.length - kept.2.length : Nat)⟩ rest := by
    rw [readFraction, bind_of_ok (readDigits_of_head hfraction hne hrest)]
  rw [h.readNumber negative (by rintro c ⟨⟩; rfl), readPoint, extendSignificand_eq h.word, Reader.map, ← hread]
  rfl

/-- What has a digit other than zero in front. -/
theorem of_head {c : Char} {cs : List Char} (h : ∀ d ∈ c :: cs, d.isDigit = true) (hc : c ≠ '0')
    (hlength : (c :: cs).length ≤ 19) : IsFront (c :: cs) := by
  refine ⟨h, List.cons_ne_nil _ _, ?_, ?_⟩
  · unfold hasLeadingZero
    split
    next heq => exact absurd (List.cons.inj heq).1 hc
    next => rfl
  · -- nineteen digits fit the word
    calc Nat.ofDigitChars 10 (c :: cs) 0 ≤ 10 ^ (c :: cs).length := (ofDigitChars_lt h).le
      _ ≤ 10 ^ 19 := Nat.pow_le_pow_right (by decide) hlength
      _ ≤ maxSignificand := by decide

/-- A digit can stand in front of a point. -/
theorem singleton {c : Char} (hc : c.isDigit = true) : IsFront [c] := by
  have hdigits : ∀ d ∈ [c], d.isDigit = true := List.forall_mem_singleton.2 hc
  refine ⟨hdigits, List.cons_ne_nil _ _, by simp [hasLeadingZero], ?_⟩
  calc Nat.ofDigitChars 10 [c] 0 ≤ 10 ^ 1 := (ofDigitChars_lt hdigits).le
    _ ≤ maxSignificand := by decide

end IsFront

/-! ## The text of a double -/

section Texts

variable {n : Nat} {e : Int}

/-- With a point there are digits on both sides of it. -/
theorem exists_positional (hn : 0 < n) (htop : (Nat.toDigits 10 n).length + e ≤ 16) :
    ∃ front fraction, Decimal.positional (Decimal.digitList n) e = front ++ '.' :: fraction ∧ IsFront front ∧
      (∀ c ∈ fraction, c.isDigit = true) ∧ fraction ≠ [] := by
  have hdigits : ∀ c ∈ Nat.toDigits 10 n, c.isDigit = true := isDigit_of_mem_toDigits
  -- the zeros that are written are digits as well
  have hzeros : ∀ k, ∀ c ∈ List.replicate k '0', c.isDigit = true := by
    intro k c hc
    rw [List.eq_of_mem_replicate hc]
    rfl
  obtain ⟨c, cs, hcons⟩ := List.exists_cons_of_ne_nil (Nat.toDigits_ne_nil (n := n) (b := 10))
  have hc : c ≠ '0' := by
    rintro rfl
    exact toDigits_ne_zero_cons hn cs hcons
  rw [Decimal.positional, Decimal.digitList]
  split
  next =>
    -- zeros behind the point make up for a small number
    refine ⟨['0'], List.replicate _ '0' ++ Nat.toDigits 10 n, rfl, .singleton rfl, ?_, ?_⟩
    · exact List.forall_mem_append.2 ⟨hzeros _, hdigits⟩
    · exact fun hnil => Nat.toDigits_ne_nil (List.append_eq_nil_iff.1 hnil).2
  next =>
    split
    -- zeros are added to an integer, and there is one behind the point
    next hup =>
      refine ⟨Nat.toDigits 10 n ++ List.replicate e.toNat '0', ['0'], rfl, ?_, List.forall_mem_singleton.2 rfl,
        List.cons_ne_nil _ _⟩
      have hall := List.forall_mem_append.2 ⟨hdigits, hzeros e.toNat⟩
      have hlength : (Nat.toDigits 10 n ++ List.replicate e.toNat '0').length ≤ 19 := by
        rw [List.length_append, List.length_replicate]
        omega
      rw [hcons, List.cons_append] at hall hlength ⊢
      exact .of_head hall hc hlength
    next hpos hdown =>
      -- the point is among the digits
      generalize hk : ((Nat.toDigits 10 n).length + e).toNat = k
      obtain ⟨k, rfl⟩ := Nat.exists_eq_add_one_of_ne_zero (show k ≠ 0 by omega)
      refine ⟨_, _, rfl, ?_, fun d hd => hdigits d (List.mem_of_mem_drop hd), ?_⟩
      · have hall : ∀ d ∈ (Nat.toDigits 10 n).take (k + 1), d.isDigit = true :=
          fun d hd => hdigits d (List.mem_of_mem_take hd)
        have hlength : ((Nat.toDigits 10 n).take (k + 1)).length ≤ 19 := by
          rw [List.length_take]
          omega
        rw [hcons, List.take_succ_cons] at hall hlength ⊢
        exact .of_head hall hc hlength
      · rw [ne_eq, List.drop_eq_nil_iff]
        omega

/-- A number with its digits in place is read as a double. -/
theorem exists_readNumber_positional (negative : Bool) (hn : 0 < n) (htop : (Nat.toDigits 10 n).length + e ≤ 16) :
    ∃ y, readNumber negative (Decimal.positional (Decimal.digitList n) e) = .ok (.real y, []) := by
  obtain ⟨front, fraction, htext, hfront, hfraction, hne⟩ := exists_positional hn htop
  let kept := extendSignificand (Nat.ofDigitChars 10 front 0) fraction
  -- the digits behind the point lower the exponent, and so it cannot be positive
  obtain ⟨y, hy⟩ := exists_scaleDigits_of_nonpos negative
    (d := ⟨kept.1, 0 - (fraction.length - kept.2.length : Nat)⟩) (extendSignificand_le fraction hfront.word)
    (by show (0 : Int) - _ ≤ 0; omega)
  have hread := @IsFront.readNumber_point front fraction [] hfront negative hfraction hne nofun
  rw [List.append_nil] at hread
  refine ⟨y, ?_⟩
  rw [htext, hread]
  apply Reader.map_eq_ok
  show (scaleDigits negative _ >>= fun y => .ok (y, [])) = _
  rw [hy]
  rfl

/-- The exponent of a number below the limit is small. -/
theorem top_le (hn : 0 < n) (h : (n : ℚ) * 10 ^ e ≤ lastStep) : (Nat.toDigits 10 n).length + e - 1 ≤ 308 := by
  have hlength : 0 < (Nat.toDigits 10 n).length := Nat.length_toDigits_pos
  have hdigits : (10 : ℚ) ^ ((Nat.toDigits 10 n).length - 1) ≤ n := by exact_mod_cast pow_length_toDigits_le hn
  have hlimit : (n : ℚ) * 10 ^ e < 10 ^ (309 : Int) := h.trans_lt cast_lastStep_lt
  have hpower : (10 : ℚ) ^ ((Nat.toDigits 10 n).length + e - 1) < 10 ^ (309 : Int) := by
    calc (10 : ℚ) ^ ((Nat.toDigits 10 n).length + e - 1)
        = 10 ^ ((Nat.toDigits 10 n).length - 1) * 10 ^ e := by
          rw [← zpow_natCast, ← zpow_add₀ (by norm_num)]
          congr 1
          omega
      _ ≤ n * 10 ^ e := by gcongr
      _ < 10 ^ (309 : Int) := hlimit
  -- powers of ten are in the order of their exponents
  have hlt := (zpow_lt_zpow_iff_right₀ (by norm_num)).1 hpower
  omega

/-- What is behind the first digit: nothing, or the point and the other digits. -/
def fractionOf : List Char → List Char
  | [] => []
  | c :: cs => '.' :: c :: cs

/-- The digits of a number with an exponent, as they are kept, are no more than the digits that were written. -/
theorem exists_kept (negative : Bool) {c : Char} {cs : List Char} (h : ∀ d ∈ c :: cs, d.isDigit = true) :
    ∃ d : Digits, d.significand ≤ maxSignificand ∧
      (d.significand : ℚ) * 10 ^ (d.exponent + cs.length) ≤ Nat.ofDigitChars 10 (c :: cs) 0 ∧
      ∀ rest, readNumber negative ([c] ++ fractionOf cs ++ 'e' :: rest)
        = Reader.map .real (readExponent negative d) rest := by
  obtain ⟨hc, hcs⟩ := List.forall_mem_cons.1 h
  have hfront : IsFront [c] := .singleton hc
  cases cs with
  -- one digit alone, without a point
  | nil =>
    refine ⟨⟨Nat.ofDigitChars 10 [c] 0, 0⟩, hfront.word, ?_, fun rest => hfront.readNumber_power negative⟩
    simp
  -- what is left of the digits behind the point is more digits of the exponent
  | cons c' cs =>
    let kept := extendSignificand (Nat.ofDigitChars 10 [c] 0) (c' :: cs)
    obtain ⟨hlength, hvalue⟩ := extendSignificand_spec (c' :: cs) (Nat.ofDigitChars 10 [c] 0)
    refine ⟨⟨kept.1, 0 - ((c' :: cs).length - kept.2.length : Nat)⟩, extendSignificand_le _ hfront.word, ?_,
      fun rest => ?_⟩
    · have hexponent : (0 - ((c' :: cs).length - kept.2.length : Nat) : Int) + (c' :: cs).length = kept.2.length := by
        have : kept.2.length ≤ (c' :: cs).length := hlength
        omega
      show (kept.1 : ℚ) * 10 ^ ((0 - ((c' :: cs).length - kept.2.length : Nat) : Int) + (c' :: cs).length) ≤ _
      rw [hexponent, zpow_natCast]
      exact_mod_cast hvalue
    · rw [fractionOf, List.append_assoc]
      exact hfront.readNumber_point negative hcs (List.cons_ne_nil _ _) (by rintro d ⟨⟩; rfl)

/-- With an exponent the number is read unless it lies beyond the limit. -/
theorem exists_readNumber_exponential (negative : Bool) (hn : 0 < n) (h : (n : ℚ) * 10 ^ e ≤ lastStep) :
    ∃ y, readNumber negative (Decimal.exponential numberStyle (Decimal.digitList n) e) = .ok (.real y, []) := by
  have htop : (Nat.toDigits 10 n).length + e - 1 ≤ maxExponent := (top_le hn h).trans (by decide)
  have hdigits : ∀ c ∈ Nat.toDigits 10 n, c.isDigit = true := isDigit_of_mem_toDigits
  have hvalue : Nat.ofDigitChars 10 (Nat.toDigits 10 n) 0 = n := Nat.ofDigitChars_ten_toDigits
  obtain ⟨c, cs, hcons⟩ := List.exists_cons_of_ne_nil (Nat.toDigits_ne_nil (n := n) (b := 10))
  rw [hcons, List.length_cons] at htop
  rw [hcons] at hdigits hvalue
  obtain ⟨d, hword, hkept, hread⟩ := exists_kept negative hdigits
  -- digits that are not kept only make the number smaller
  have hlimit : (d.significand : ℚ) * 10 ^ (d.exponent + (((cs.length + 1 : Nat) : Int) + e - 1)) ≤ lastStep := by
    calc (d.significand : ℚ) * 10 ^ (d.exponent + (((cs.length + 1 : Nat) : Int) + e - 1))
        = d.significand * 10 ^ (d.exponent + cs.length) * 10 ^ e := by
          rw [mul_assoc, ← zpow_add₀ (by norm_num)]
          congr 2
          omega
      _ ≤ n * 10 ^ e := by
          rw [hvalue] at hkept
          gcongr
      _ ≤ lastStep := h
  obtain ⟨y, hy⟩ := exists_readExponent negative hword htop hlimit
  -- the exponent is printed with its sign
  have htext : Decimal.exponential numberStyle (Decimal.digitList n) e
      = [c] ++ fractionOf cs ++ 'e' :: ((if ((cs.length + 1 : Nat) : Int) + e - 1 < 0 then '-' else '+')
        :: Nat.toDigits 10 (((cs.length + 1 : Nat) : Int) + e - 1).natAbs) := by
    rw [Decimal.exponential, Decimal.digitList, Decimal.digitList, hcons, List.length_cons]
    generalize ((cs.length + 1 : Nat) : Int) + e - 1 = top
    show [c] ++ _ ++ 'e' :: (if top < 0 then ['-'] else ['+']) ++ Nat.toDigits 10 top.natAbs = _
    rw [List.append_assoc]
    by_cases htop : top < 0
    · rw [if_pos htop, if_pos htop]
      cases cs <;> rfl
    · rw [if_neg htop, if_neg htop]
      cases cs <;> rfl
  rw [htext, hread]
  exact ⟨y, Reader.map_eq_ok hy _⟩

end Texts

/-! ## All doubles -/

/-- The largest doubles are read back. -/
theorem readsAs_of_isLargest {x : Binary64} (h : x.IsLargest) : ReadsAs x x := by
  -- the text is read by computing, and a computed result is compared in parts that can be decided
  have hread (negative : Bool) (y : Binary64)
      (h : (readNumber negative "1.7976931348623157e+308".toList).toOption = some (.real y, [])) :
      readNumber negative "1.7976931348623157e+308".toList = .ok (.real y, []) := by
    cases hcs : readNumber negative "1.7976931348623157e+308".toList with
    | error e =>
      rw [hcs] at h
      cases h
    | ok found =>
      rw [hcs] at h
      cases h
      rfl
  rcases h.eq with rfl | rfl
  · refine .of_readNumber (by decide) ?_
    have htext : unsignedText numberStyle ⟨0x7fefffffffffffff⟩ = "1.7976931348623157e+308".toList := by decide +kernel
    rw [htext]
    exact hread _ _ (by decide +kernel)
  · refine .of_readNumber (by decide) ?_
    have htext : unsignedText numberStyle ⟨0xffefffffffffffff⟩ = "1.7976931348623157e+308".toList := by decide +kernel
    rw [htext]
    exact hread _ _ (by decide +kernel)

/-- The text of a finite double is read, as a double. -/
theorem exists_readsAs {x : Binary64} (hfinite : x.isFinite = true) : ∃ y, ReadsAs x y := by
  by_cases hlargest : x.IsLargest
  · exact ⟨x, readsAs_of_isLargest hlargest⟩
  -- what the text of zero is, the search that finds nothing gives, too
  have hzero : ∃ y, readNumber x.isNegative ['0', '.', '0'] = .ok (.real y, []) := by
    cases x.isNegative <;> exact ⟨_, rfl⟩
  -- all others stay below the limit, whichever way they are laid out
  have hvalue := Decimal.shortest_le_lastStep hfinite hlargest
  have hread : ∃ y, readNumber x.isNegative (unsignedText numberStyle x) = .ok (.real y, []) := by
    rw [unsignedText]
    split
    · exact hzero
    · rcases Decimal.shortest_cases x with hnone | ⟨hn, -⟩
      · rw [hnone]
        exact hzero
      · split
        next htop =>
          have hlast : ((Nat.toDigits 10 (Decimal.shortest x).digits).length : Int)
              + (Decimal.shortest x).exponent - 1 < 16 := htop.2
          exact exists_readNumber_positional _ hn (by omega)
        next => exact exists_readNumber_exponential _ hn hvalue
  obtain ⟨y, hy⟩ := hread
  exact ⟨y, .of_readNumber hfinite hy⟩

/-- What the text of a double is read as. -/
def reread (x : Binary64) : Binary64 :=
  match parse (render (.number (.real x))) with
  | .ok (.number (.real y)) => y
  | _ => x

theorem readsAs_reread {x : Binary64} (hfinite : x.isFinite = true) : ReadsAs x (reread x) := by
  obtain ⟨y, hy⟩ := exists_readsAs hfinite
  have heq : reread x = y := by rw [reread, hy]
  rw [heq]
  exact hy

/-- A double that is read as an equal one is read as itself: the two zeros are equal, but each is read as itself. -/
theorem ReadsBack.of_eq {x : Binary64} (hfinite : x.isFinite = true) (heq : (reread x).eq x = true) : ReadsBack x := by
  have hreads := readsAs_reread hfinite
  simp only [Binary64.eq, Bool.and_eq_true, Bool.or_eq_true, decide_eq_true_eq] at heq
  -- equal doubles have the same bits, or both are a zero
  obtain ⟨-, hbits | ⟨-, hzero⟩⟩ := heq
  · have hsame : reread x = x := congrArg Binary64.mk hbits
    rwa [hsame] at hreads
  · rcases Binary64.eq_of_isZero hzero with rfl | rfl
    · rw [ReadsBack]
      rfl
    · rw [ReadsBack]
      rfl

end Json

end Logbook
