import HostBridge.Proofs.Decode.Codec
import HostBridge.Proofs.Value.Retraction

set_option autoImplicit false

namespace HostBridge

namespace Binary64

section Truncation

variable (x : Binary64) (k : Int)

theorem truncated_of_finite (finite : x.isFinite = true) :
    x.truncated? = some (x.scaled.tdiv grainsPerOne) := by
  unfold truncated? scaled
  rw [if_pos finite]
  cases x.isNegative with
  | true => simp only [if_true, Int.neg_tdiv, Int.ofNat_tdiv]
  | false => simp only [Bool.false_eq_true, if_false, Int.ofNat_tdiv]

def CutsTo : Prop :=
  x.isFinite = true ∧ x.scaled.tdiv grainsPerOne = k ∧ -2147483648 ≤ k ∧ k ≤ 2147483647

instance : Decidable (x.CutsTo k) := inferInstanceAs (Decidable (_ ∧ _ ∧ _ ∧ _))

theorem int32_some_iff : x.toInt32? = some k ↔ x.CutsTo k := by
  unfold toInt32? CutsTo
  cases finite : x.isFinite with
  | false => simp [truncated?, finite]
  | true =>
    rw [x.truncated_of_finite finite, Option.filter_eq_some_iff, Option.some.injEq, fitsInt32,
      decide_eq_true_eq]
    simp only [true_and]
    refine and_congr_right fun _ => ?_
    omega

theorem cut_iff_safe (integral : x.isIntegral = true) :
    x.CutsTo k ↔ x.safeInteger? = some k ∧ fitsInt32 k = true := by
  rw [← int32_some_iff, toInt32?, safeInteger?, if_pos integral, Option.filter_eq_some_iff,
    Option.filter_eq_some_iff, and_assoc]
  refine and_congr_right fun _ => ?_
  constructor
  · intro fits
    exact ⟨decide_eq_true (fits_safe k fits), fits⟩
  · exact And.right

theorem finite_of_integral (integral : x.isIntegral = true) : x.isFinite = true :=
  (x.integral_iff.1 integral).1

end Truncation

theorem equal_of_canonical (x y : Binary64) (finite : x.isFinite = true)
    (finite' : y.isFinite = true) (same : x.canonical = y.canonical) : x.equal y = true := by
  have defined := x.defined_of_finite finite
  have defined' := y.defined_of_finite finite'
  have zero : (⟨0⟩ : Binary64).isZero = true := by decide
  unfold canonical at same
  by_cases none : x.isZero = true <;> by_cases none' : y.isZero = true <;>
    simp only [none, none', if_true, Bool.false_eq_true, if_false] at same
  · simp [equal, defined, defined', none, none']
  · subst same
    exact absurd zero none'
  · subst same
    exact absurd zero none
  · rw [same]
    exact y.equal_self defined'

theorem equal_of_cut (x y : Binary64) (k : Int) (integral : x.isIntegral = true)
    (integral' : y.isIntegral = true) (cut : x.CutsTo k) (cut' : y.CutsTo k) :
    x.equal y = true := by
  obtain ⟨safe, _⟩ := (x.cut_iff_safe k integral).1 cut
  obtain ⟨safe', _⟩ := (y.cut_iff_safe k integral').1 cut'
  apply x.equal_of_canonical y (x.finite_of_integral integral) (y.finite_of_integral integral')
  rw [← of_safe_int x k safe, ← of_safe_int y k safe']

theorem cut_of_int (k : Int) (fits : fitsInt32 k = true) : (ofInt k).CutsTo k := by
  have safe := safe_of_int k (fits_safe k fits)
  exact (cut_iff_safe _ k (integral_of_safe _ k safe)).2 ⟨safe, fits⟩

section Json

variable (x : Binary64)

theorem to_json_null (endless : x.isFinite = false) : x.toJson = .null := by
  simp [toJson, safeInteger?, isIntegral, endless]

theorem to_json_given (finite : x.isFinite = true) : x.toJson ≠ .null := by
  unfold toJson
  cases x.safeInteger? <;> simp [finite]

theorem to_json_fraction (finite : x.isFinite = true) (broken : x.isIntegral = false) :
    x.toJson = .float x := by
  simp [toJson, safeInteger?, broken, finite]

theorem int32_reads_iff (k : Int) : Codec.int32.decode x.toJson = .ok k ↔
    x.safeInteger? = some k ∧ fitsInt32 k = true := by
  unfold toJson
  cases x.safeInteger? with
  | none => cases x.isFinite <;> simp [Codec.int32]
  | some i =>
    rw [Codec.int32_decode, Option.some.injEq]
    constructor
    · intro read
      split at read
      · next fits =>
        cases read
        exact ⟨rfl, fits⟩
      · cases read
    · intro ⟨same, fits⟩
      rw [same, if_pos fits]

theorem int32_reads_cut (k : Int) (integral : x.isIntegral = true) :
    Codec.int32.decode x.toJson = .ok k ↔ x.CutsTo k := by
  rw [int32_reads_iff, x.cut_iff_safe k integral]

end Json

end Binary64

end HostBridge
