set_option autoImplicit false

namespace HostBridge.Text

def bytes (s : String) : List UInt8 := s.toUTF8.data.toList

def BytesBefore (s t : String) : Prop := bytes s < bytes t

section Bytes

theorem byte_lt {a b : Nat} (left : a < 256) (right : b < 256) :
    UInt8.ofNat a < UInt8.ofNat b ↔ a < b := by
  rw [UInt8.lt_iff_toNat_lt, UInt8.toNat_ofNat', UInt8.toNat_ofNat', Nat.mod_eq_of_lt left,
    Nat.mod_eq_of_lt right]

def Ordered (limit : Nat) (encode : Nat → List UInt8) : Prop :=
  ∀ v w s t, v < w → w < limit → encode v ++ s < encode w ++ t

theorem lead_ordered (limit mark : Nat) (fits : limit + mark ≤ 256) :
    Ordered limit fun v => [UInt8.ofNat (v % limit + mark)] := by
  intro v w s t less bound
  apply List.cons_lt_cons_iff.2 (.inl _)
  rw [Nat.mod_eq_of_lt bound, Nat.mod_eq_of_lt (Nat.lt_trans less bound)]
  exact (byte_lt (by omega) (by omega)).2 (by omega)

theorem Ordered.continued {limit : Nat} {encode : Nat → List UInt8}
    (ordered : Ordered limit encode) :
    Ordered (limit * 64) fun v => encode (v / 64) ++ [UInt8.ofNat (v % 64 + 128)] := by
  intro v w s t less bound
  simp only [List.append_assoc]
  by_cases same : v / 64 = w / 64
  · rw [same]
    apply List.append_left_lt
    apply List.cons_lt_cons_iff.2 (.inl _)
    exact (byte_lt (by omega) (by omega)).2 (by omega)
  · exact ordered (v / 64) (w / 64) _ _ (by omega) (by omega)

end Bytes

section Characters

open String (utf8EncodeChar)

theorem code_lt (c : Char) : c.val.toNat < 0x110000 := by
  rcases c.valid with low | high
  · exact Nat.lt_trans low (by decide)
  · exact high.2

theorem encode_char_lt (c d : Char) (less : c < d) (s t : List UInt8) :
    utf8EncodeChar c ++ s < utf8EncodeChar d ++ t := by
  have codes : c.val.toNat < d.val.toNat := less
  have bound := code_lt d
  simp only [utf8EncodeChar]
  generalize c.val.toNat = v at codes
  generalize d.val.toNat = w at codes bound
  have two := (lead_ordered 32 192 (by decide)).continued v w s t codes
  have three := (lead_ordered 16 224 (by decide)).continued.continued v w s t codes
  have four := (lead_ordered 8 240 (by decide)).continued.continued.continued v w s t codes
  simp only [Nat.div_div_eq_div_mul] at two three four
  repeat' split
  case isFalse.isTrue.isFalse.isTrue => exact two (by omega)
  case isFalse.isFalse.isTrue.isFalse.isFalse.isTrue => exact three (by omega)
  case isFalse.isFalse.isFalse.isFalse.isFalse.isFalse => exact four (by omega)
  -- A character of more bytes begins with a greater one.
  all_goals exact List.cons_lt_cons_iff.2 (.inl ((byte_lt (by omega) (by omega)).2 (by omega)))

theorem chars_lt (left right : List Char) (less : left < right) :
    left.flatMap utf8EncodeChar < right.flatMap utf8EncodeChar := by
  induction left generalizing right with
  | nil =>
    cases right with
    | nil => cases less
    | cons d others =>
      rw [List.flatMap_cons]
      obtain ⟨first, rest, same⟩ := List.exists_cons_of_ne_nil (@String.utf8EncodeChar_ne_nil d)
      rw [same]
      exact List.nil_lt_cons first _
  | cons c rest ih =>
    cases right with
    | nil => cases less
    | cons d others =>
      rw [List.flatMap_cons, List.flatMap_cons]
      rcases List.cons_lt_cons_iff.1 less with first | ⟨rfl, later⟩
      · exact encode_char_lt c d first _ _
      · exact List.append_left_lt (ih others later)

theorem bytes_eq (s : String) : bytes s = s.toList.flatMap utf8EncodeChar := by
  rw [bytes, String.toUTF8_eq_toByteArray, ← String.utf8Encode_toList, List.utf8Encode,
    List.toList_data_toByteArray]

theorem lt_iff_bytes_before (s t : String) : s < t ↔ BytesBefore s t := by
  have forward : ∀ s t : String, s < t → BytesBefore s t := fun s t less => by
    rw [BytesBefore, bytes_eq, bytes_eq]
    exact chars_lt s.toList t.toList less
  refine ⟨forward s t, fun before => String.not_le.1 fun notLess => ?_⟩
  by_cases same : s = t
  · subst same
    exact List.lt_irrefl _ before
  · have greater : t < s := String.not_le.1 fun also => same (String.le_antisymm also notLess)
    exact List.lt_asymm (forward t s greater) before

end Characters

end HostBridge.Text
