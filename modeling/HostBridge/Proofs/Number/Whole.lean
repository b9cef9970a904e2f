import HostBridge.Number.Rounding
import Mathlib.Algebra.Group.Nat.Defs

set_option autoImplicit false

namespace HostBridge.Binary64

section Fields

variable (x y : Binary64)

theorem word_lt : x.word < 2 ^ 64 := x.bits.toNat_lt

theorem fraction_lt : x.fraction < 2 ^ 52 := Nat.mod_lt _ (by decide)

theorem word_parts :
    x.word = (if x.isNegative then 2 ^ 63 else 0) + x.biased * 2 ^ 52 + x.fraction := by
  have bound := x.word_lt
  simp only [isNegative, biased, fraction, Nat.shiftRight_eq_div_pow, Nat.one_shiftLeft,
    decide_eq_true_eq]
  split <;> omega

theorem ext_word (same : x.word = y.word) : x = y := by
  obtain ⟨bits⟩ := x
  obtain ⟨others⟩ := y
  exact congrArg mk (UInt64.toNat_inj.1 same)

-- Small numbers count grains; with all others the exponent says how large they are.
theorem magnitude_parts :
    x.biased = 0 ∧ x.magnitude = x.fraction ∨
      0 < x.biased ∧ x.magnitude = (2 ^ 52 + x.fraction) * 2 ^ (x.biased - 1) := by
  by_cases small : x.biased = 0
  · refine Or.inl ⟨small, ?_⟩
    simp [magnitude, significand, unit, small]
  · refine Or.inr ⟨Nat.pos_of_ne_zero small, ?_⟩
    simp [magnitude, significand, unit, small, Nat.shiftLeft_eq]

theorem biased_of_magnitude (same : x.magnitude = y.magnitude) : ¬ x.biased < y.biased := by
  intro less
  have small := x.fraction_lt
  have pos : 1 ≤ 2 ^ (y.biased - 1) := Nat.one_le_two_pow
  obtain ⟨none, _⟩ | ⟨_, large⟩ := y.magnitude_parts
  · omega
  obtain ⟨_, grains⟩ | ⟨some, size⟩ := x.magnitude_parts
  · have least : 2 ^ 52 * 1 ≤ (2 ^ 52 + y.fraction) * 2 ^ (y.biased - 1) :=
      Nat.mul_le_mul (Nat.le_add_right _ _) pos
    omega
  · have step : 2 ^ (x.biased - 1) * 2 ≤ 2 ^ (y.biased - 1) := by
      rw [← Nat.pow_succ]
      exact Nat.pow_le_pow_right (by decide) (by omega)
    have below : x.magnitude < 2 ^ 53 * 2 ^ (x.biased - 1) := by
      rw [size]
      exact Nat.mul_lt_mul_of_pos_right (by omega) (Nat.two_pow_pos _)
    have above : 2 ^ 52 * 2 ^ (y.biased - 1) ≤ y.magnitude := by
      rw [large]
      exact Nat.mul_le_mul_right _ (Nat.le_add_right _ _)
    omega

theorem ext_magnitude (sign : x.isNegative = y.isNegative) (same : x.magnitude = y.magnitude) :
    x = y := by
  have biased : x.biased = y.biased :=
    Nat.le_antisymm (Nat.le_of_not_lt (y.biased_of_magnitude x same.symm))
      (Nat.le_of_not_lt (x.biased_of_magnitude y same))
  have fraction : x.fraction = y.fraction := by
    obtain ⟨none, grains⟩ | ⟨some, size⟩ := x.magnitude_parts <;>
      obtain ⟨none', grains'⟩ | ⟨some', size'⟩ := y.magnitude_parts
    · omega
    · omega
    · omega
    · rw [size, size', biased] at same
      have equal := Nat.eq_of_mul_eq_mul_right (Nat.two_pow_pos _) same
      omega
  refine x.ext_word y ?_
  rw [x.word_parts, y.word_parts, sign, biased, fraction]

end Fields

section Parts

variable (negative : Bool) (significand unit : Nat)

theorem of_parts_word (low : 2 ^ 52 ≤ significand) (high : significand < 2 ^ 53)
    (small : unit ≤ 2045) : (ofParts negative significand unit).word =
      (if negative then 2 ^ 63 else 0) + ((unit + 1) * 2 ^ 52 + (significand - 2 ^ 52)) := by
  have normal : ¬ significand < 1 <<< 52 := by
    rw [Nat.one_shiftLeft]
    omega
  rw [word, ofParts, if_neg normal, UInt64.toNat_ofNat']
  simp only [Nat.shiftLeft_eq]
  refine Nat.mod_eq_of_lt ?_
  split <;> omega

theorem of_parts_number (low : 2 ^ 52 ≤ significand) (high : significand < 2 ^ 53)
    (small : unit ≤ 2045) :
    (ofParts negative significand unit).isNegative = negative ∧
      (ofParts negative significand unit).isFinite = true ∧
      (ofParts negative significand unit).magnitude = significand * 2 ^ unit := by
  have whole := of_parts_word negative significand unit low high small
  have exponent : (ofParts negative significand unit).biased = unit + 1 := by
    rw [biased, whole, Nat.shiftRight_eq_div_pow]
    split <;> omega
  have rest : (ofParts negative significand unit).fraction = significand - 2 ^ 52 := by
    rw [fraction, whole, Nat.one_shiftLeft]
    split <;> omega
  refine ⟨?_, ?_, ?_⟩
  · rw [isNegative, whole, Nat.one_shiftLeft]
    cases negative with
    | false => exact decide_eq_false (by simp only [Bool.false_eq_true, if_false]; omega)
    | true => exact decide_eq_true (by simp only [if_true]; omega)
  · simp only [isFinite, exponent, bne_iff_ne]
    omega
  · obtain ⟨none, _⟩ | ⟨_, size⟩ := (ofParts negative significand unit).magnitude_parts
    · omega
    · rw [size, exponent, rest, Nat.add_sub_cancel, Nat.add_sub_cancel' low]

theorem unit_of_product (low : 2 ^ 52 ≤ significand) (high : significand < 2 ^ 53) :
    unitOfQuotient (significand * 2 ^ unit) 1 = unit := by
  have least : 2 ^ (unit + 52) ≤ significand * 2 ^ unit := by
    rw [Nat.pow_add, Nat.mul_comm]
    exact Nat.mul_le_mul_right _ low
  have most : significand * 2 ^ unit < 2 ^ (unit + 52 + 1) := by
    rw [Nat.add_assoc, Nat.pow_add, Nat.mul_comm]
    exact Nat.mul_lt_mul_of_pos_left high (Nat.two_pow_pos _)
  have some : significand * 2 ^ unit ≠ 0 :=
    Nat.ne_of_gt (Nat.lt_of_lt_of_le (Nat.two_pow_pos _) least)
  have size : (significand * 2 ^ unit).log2 = unit + 52 :=
    (Nat.log2_eq_iff some).2 ⟨least, most⟩
  have one : Nat.log2 1 = 0 := by decide
  simp only [unitOfQuotient, size, one, Nat.zero_add, Nat.add_sub_cancel, Nat.one_shiftLeft]
  exact if_neg fun both => Nat.not_le.2 both.2 least

theorem round_product : roundQuotient (significand * 2 ^ unit) (2 ^ unit) = significand := by
  have pos : 0 < 2 ^ unit := Nat.two_pow_pos unit
  simp only [roundQuotient, Nat.mul_div_cancel _ pos, Nat.mul_mod_left, Nat.mul_zero, if_pos pos]

theorem of_grains_product (low : 2 ^ 52 ≤ significand) (high : significand < 2 ^ 53)
    (small : unit ≤ 2045) :
    ofGrains negative (significand * 2 ^ unit) 1 = ofParts negative significand unit := by
  have carried : (significand == 2 ^ 53) = false := by
    simpa using Nat.ne_of_lt high
  simp only [ofGrains, unit_of_product significand unit low high, Nat.one_shiftLeft,
    round_product, carried, Bool.false_eq_true, if_false, if_pos small]

end Parts

section Integers

variable (i : Int)

theorem fits_safe (fits : fitsInt32 i = true) : i.natAbs ≤ maxSafe := by
  simp only [fitsInt32, decide_eq_true_eq] at fits
  simp only [maxSafe, Nat.one_shiftLeft]
  omega

theorem of_int_zero : ofInt 0 = ⟨0⟩ := by decide

theorem of_int_number (nonzero : i ≠ 0) (safe : i.natAbs ≤ maxSafe) :
    (ofInt i).isNegative = decide (i < 0) ∧ (ofInt i).isFinite = true ∧
      (ofInt i).magnitude = i.natAbs * grainsPerOne := by
  have some : i.natAbs ≠ 0 := by omega
  have least := Nat.log2_self_le some
  have most := Nat.lt_log2_self (n := i.natAbs)
  have short : i.natAbs.log2 ≤ 52 := by
    refine Nat.le_of_lt_succ ((Nat.log2_lt some).2 ?_)
    simp only [maxSafe, Nat.one_shiftLeft] at safe
    omega
  have shift : 2 ^ i.natAbs.log2 * 2 ^ (52 - i.natAbs.log2) = 2 ^ 52 := by
    rw [← Nat.pow_add, Nat.add_sub_cancel' short]
  have low : 2 ^ 52 ≤ i.natAbs * 2 ^ (52 - i.natAbs.log2) := by
    rw [← shift]
    exact Nat.mul_le_mul_right _ least
  have high : i.natAbs * 2 ^ (52 - i.natAbs.log2) < 2 ^ 53 := by
    have above := Nat.mul_lt_mul_of_pos_right most (Nat.two_pow_pos (52 - i.natAbs.log2))
    rw [Nat.pow_succ, Nat.mul_right_comm, shift] at above
    omega
  have grains : i.natAbs * grainsPerOne =
      i.natAbs * 2 ^ (52 - i.natAbs.log2) * 2 ^ (i.natAbs.log2 + 1022) := by
    have exponent : 52 - i.natAbs.log2 + (i.natAbs.log2 + 1022) = 1074 := by omega
    rw [grainsPerOne, Nat.one_shiftLeft, Nat.mul_assoc, ← Nat.pow_add, exponent]
  rw [ofInt, grains, of_grains_product _ _ _ low high (by omega)]
  exact of_parts_number _ _ _ low high (by omega)

end Integers

def canonical (x : Binary64) : Binary64 := if x.isZero then ⟨0⟩ else x

section SafeIntegers

variable (x : Binary64) (i : Int)

theorem grains_pos : 0 < grainsPerOne := by decide

theorem integral_iff :
    x.isIntegral = true ↔ x.isFinite = true ∧ ∃ whole, x.magnitude = whole * grainsPerOne := by
  simp only [isIntegral, Bool.and_eq_true, beq_iff_eq]
  refine and_congr_right fun _ => ⟨fun even => ?_, ?_⟩
  · exact ⟨_, (Nat.div_mul_cancel (Nat.dvd_of_mod_eq_zero even)).symm⟩
  · rintro ⟨whole, exact⟩
    rw [exact, Nat.mul_mod_left]

theorem safe_of_whole (whole : Nat) (finite : x.isFinite = true)
    (exact : x.magnitude = whole * grainsPerOne) :
    x.safeInteger? = if whole ≤ maxSafe then
      some (if x.isNegative then -(whole : Int) else whole) else none := by
  have integral : x.isIntegral = true := x.integral_iff.2 ⟨finite, whole, exact⟩
  have size : (if x.isNegative then -(whole : Int) else whole).natAbs = whole := by
    split <;> simp
  simp only [safeInteger?, if_pos integral, truncated?, if_pos finite, exact,
    Nat.mul_div_cancel _ grains_pos, Option.filter_some, size, decide_eq_true_eq]

theorem integral_of_safe (safe : x.safeInteger? = some i) : x.isIntegral = true := by
  cases whole : x.isIntegral with
  | true => rfl
  | false => simp [safeInteger?, whole] at safe

theorem safe_integer_iff :
    x.safeInteger? = some i ↔ x.isFinite = true ∧ x.magnitude = i.natAbs * grainsPerOne ∧
      i.natAbs ≤ maxSafe ∧ (i ≠ 0 → x.isNegative = decide (i < 0)) := by
  constructor
  · intro safe
    obtain ⟨finite, whole, exact⟩ := x.integral_iff.1 (x.integral_of_safe i safe)
    rw [x.safe_of_whole whole finite exact] at safe
    split at safe
    · next small =>
      obtain rfl := Option.some.inj safe
      cases sign : x.isNegative <;> simp [finite, exact, small]
      omega
    · cases safe
  · rintro ⟨finite, exact, small, sign⟩
    rw [x.safe_of_whole i.natAbs finite exact, if_pos small]
    by_cases zero : i = 0
    · simp [zero]
    · rw [sign zero]
      congr 1
      by_cases negative : i < 0
      · rw [if_pos (decide_eq_true negative)]
        omega
      · rw [if_neg (Bool.not_eq_true _ ▸ decide_eq_false negative)]
        omega

theorem safe_none_iff (finite : x.isFinite = true) :
    x.safeInteger? = none ↔
      x.isIntegral = false ∨ maxSafe * grainsPerOne < x.magnitude := by
  by_cases integral : x.isIntegral = true
  · obtain ⟨_, whole, exact⟩ := x.integral_iff.1 integral
    rw [x.safe_of_whole whole finite exact, exact, Nat.mul_lt_mul_right grains_pos]
    simp [integral]
  · simp [safeInteger?, integral]

theorem safe_of_int (safe : i.natAbs ≤ maxSafe) : (ofInt i).safeInteger? = some i := by
  refine (safe_integer_iff _ i).2 ?_
  by_cases zero : i = 0
  · subst zero
    rw [of_int_zero]
    decide
  · obtain ⟨sign, finite, size⟩ := of_int_number i zero safe
    exact ⟨finite, size, safe, fun _ => sign⟩

theorem of_safe_int (safe : x.safeInteger? = some i) : ofInt i = x.canonical := by
  obtain ⟨finite, size, small, sign⟩ := (x.safe_integer_iff i).1 safe
  by_cases zero : i = 0
  · subst zero
    have none : x.isZero = true := by simp [isZero, finite, size]
    rw [of_int_zero, canonical, if_pos none]
  · have some : x.isZero = false := by
      have pos : 0 < x.magnitude := by
        rw [size]
        exact Nat.mul_pos (by omega) grains_pos
      simp [isZero, Nat.ne_of_gt pos]
    obtain ⟨sign', _, size'⟩ := of_int_number i zero small
    rw [canonical, some, if_neg Bool.false_ne_true]
    exact ext_magnitude _ _ (sign'.trans (sign zero).symm) (size'.trans size.symm)

theorem of_int_finite (safe : i.natAbs ≤ maxSafe) : (ofInt i).isFinite = true :=
  ((safe_integer_iff _ i).1 (safe_of_int i safe)).1

theorem of_int_canonical (safe : i.natAbs ≤ maxSafe) : (ofInt i).canonical = ofInt i :=
  (of_safe_int _ i (safe_of_int i safe)).symm

theorem canonical_of_unsafe (other : x.safeInteger? = none) : x.canonical = x := by
  rw [canonical, if_neg]
  intro zero
  simp only [isZero, Bool.and_eq_true, beq_iff_eq] at zero
  have safe := (x.safe_integer_iff 0).2 ⟨zero.1, by simp [zero.2], by decide, by simp⟩
  cases other.symm.trans safe

theorem canonical_finite (finite : x.isFinite = true) : x.canonical.isFinite = true := by
  rw [canonical]
  split
  · decide
  · exact finite

theorem canonical_twice : x.canonical.canonical = x.canonical := by
  by_cases zero : x.isZero = true
  · rw [canonical, canonical, if_pos zero]
    decide
  · simp [canonical, zero]

theorem safe_canonical : x.canonical.safeInteger? = x.safeInteger? := by
  cases safe : x.safeInteger? with
  | none => rw [x.canonical_of_unsafe safe, safe]
  | some i =>
    have small := ((x.safe_integer_iff i).1 safe).2.2.1
    rw [← of_safe_int x i safe, safe_of_int i small]

end SafeIntegers

end HostBridge.Binary64
