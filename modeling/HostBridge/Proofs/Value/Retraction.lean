import HostBridge.Proofs.Value.Crossing

set_option autoImplicit false

namespace HostBridge

namespace Binary64

variable (x : Binary64)

theorem defined_of_finite (finite : x.isFinite = true) : x.isNaN = false := by
  simp only [isFinite, bne_iff_ne] at finite
  simp [isNaN, finite]

theorem equal_self (defined : x.isNaN = false) : x.equal x = true := by
  simp [equal, defined]

theorem equal_canonical (defined : x.isNaN = false) : x.canonical.equal x = true := by
  unfold canonical
  split
  · next zero =>
    have plain : (⟨0⟩ : Binary64).isNaN = false ∧ (⟨0⟩ : Binary64).isZero = true := by decide
    simp [equal, defined, zero, plain]
  · exact x.equal_self defined

theorem to_json_int (i : Int) : x.toJson = .int i ↔ x.safeInteger? = some i := by
  unfold toJson
  cases x.safeInteger? with
  | some other => simp
  | none => cases x.isFinite <;> simp

theorem scaled_of_safe (i : Int) (safe : x.safeInteger? = some i) :
    x.scaled = i * grainsPerOne := by
  obtain ⟨_, size, _, sign⟩ := (x.safe_integer_iff i).1 safe
  by_cases zero : i = 0
  · subst zero
    simp [scaled, size]
  · rw [scaled, size, sign zero, Int.natCast_mul]
    by_cases negative : i < 0
    · rw [if_pos (decide_eq_true negative), ← Int.neg_mul]
      congr 1
      omega
    · rw [if_neg (by simpa using negative)]
      congr 1
      omega

theorem to_json_whole_iff : (∃ i, x.toJson = .int i) ↔
    x.isIntegral = true ∧ x.magnitude ≤ maxSafe * grainsPerOne := by
  simp only [to_json_int, ← Option.isSome_iff_exists, ← Option.ne_none_iff_isSome]
  cases finite : x.isFinite with
  | true =>
    rw [ne_eq, x.safe_none_iff finite, not_or, Bool.not_eq_false, Nat.not_lt]
  | false => simp [safeInteger?, isIntegral, finite]

theorem to_json_kept_iff :
    (Value.ofJson x.toJson).equal (.number x) = true ↔ x.isFinite = true := by
  cases safe : x.safeInteger? with
  | some i =>
    have finite := ((x.safe_integer_iff i).1 safe).1
    have back : Value.ofJson x.toJson = .number x.canonical := by
      rw [(x.to_json_int i).2 safe, ← of_safe_int x i safe]
      rfl
    rw [back, Value.equal]
    exact iff_of_true (x.equal_canonical (x.defined_of_finite finite)) finite
  | none =>
    cases finite : x.isFinite with
    | true =>
      have back : Value.ofJson x.toJson = .number x := by
        simp only [toJson, safe, finite, if_true, Value.ofJson]
      rw [back, Value.equal]
      exact iff_of_true (x.equal_self (x.defined_of_finite finite)) rfl
    | false =>
      have back : Value.ofJson x.toJson = .null := by
        simp only [toJson, safe, finite, Bool.false_eq_true, if_false, Value.ofJson]
      simp [back, Value.equal]

end Binary64

namespace Value

mutual

def Sayable : Value → Prop
  | .undefined => False
  | .null => True
  | .bool _ => True
  | .number x => x.isFinite = true
  | .string _ => True
  | .array items => SayableItems items
  | .object fields => SayableFields fields

def SayableItems : List Value → Prop
  | [] => True
  | item :: rest => Sayable item ∧ SayableItems rest

def SayableFields : List (String × Value) → Prop
  | [] => True
  | (_, value) :: rest => Sayable value ∧ SayableFields rest

end

theorem equal_fields_length (fields others : List (String × Value))
    (equal : equalFields fields others = true) : fields.length = others.length := by
  induction fields generalizing others with
  | nil =>
    cases others with
    | nil => rfl
    | cons other later => simp [equalFields] at equal
  | cons field rest ih =>
    cases others with
    | nil => simp [equalFields] at equal
    | cons other later =>
      simp only [equalFields, Bool.and_eq_true] at equal
      rw [List.length_cons, List.length_cons, ih later equal.2]

theorem fields_from_json_length (fields : List (String × Json)) :
    (fieldsOfJson fields).length = fields.length := by
  induction fields with
  | nil => rfl
  | cons field rest ih =>
    obtain ⟨name, value⟩ := field
    rw [fieldsOfJson, List.length_cons, List.length_cons, ih]

theorem fields_to_json_length (fields : List (String × Value)) :
    (fieldsToJson fields).length ≤ fields.length := by
  induction fields with
  | nil => exact Nat.le_refl _
  | cons field rest ih =>
    obtain ⟨name, value⟩ := field
    rw [fieldsToJson]
    split
    · exact Nat.le_succ_of_le ih
    · exact Nat.succ_le_succ ih

theorem undefined_of_absent (v : Value) (absent : v.isUndefined = true) : v = undefined := by
  cases v with
  | undefined => rfl
  | _ => cases absent

-- A field that is absent is missed: without it there are too few of them.
theorem absent_field_missed (name : String) (rest : List (String × Value)) :
    equalFields (fieldsOfJson (fieldsToJson ((name, undefined) :: rest)))
      ((name, undefined) :: rest) = false := by
  refine Bool.eq_false_iff.2 fun equal => ?_
  have same := equal_fields_length _ _ equal
  have fewer := fields_to_json_length rest
  rw [fields_from_json_length, fieldsToJson, isUndefined, if_pos rfl, List.length_cons] at same
  omega

mutual

theorem kept_iff (v : Value) : (ofJson v.toJson).equal v = true ↔ v.Sayable := by
  cases v with
  | undefined => simp [toJson, ofJson, equal, Sayable]
  | null => simp [toJson, ofJson, equal, Sayable]
  | bool b => simp [toJson, ofJson, equal, Sayable]
  | number x => exact x.to_json_kept_iff
  | string s => simp [toJson, ofJson, equal, Sayable]
  | array items =>
    rw [toJson, ofJson, equal, Sayable]
    exact items_kept_iff items
  | object fields =>
    rw [toJson, ofJson, equal, Sayable]
    exact fields_kept_iff fields

theorem items_kept_iff (items : List Value) :
    equalItems (itemsOfJson (itemsToJson items)) items = true ↔ SayableItems items := by
  cases items with
  | nil => simp [itemsToJson, itemsOfJson, equalItems, SayableItems]
  | cons item rest =>
    rw [itemsToJson, itemsOfJson, equalItems, SayableItems, Bool.and_eq_true, kept_iff item,
      items_kept_iff rest]

theorem fields_kept_iff (fields : List (String × Value)) :
    equalFields (fieldsOfJson (fieldsToJson fields)) fields = true ↔ SayableFields fields := by
  cases fields with
  | nil => simp [fieldsToJson, fieldsOfJson, equalFields, SayableFields]
  | cons field rest =>
    obtain ⟨name, value⟩ := field
    cases absent : value.isUndefined with
    | true =>
      obtain rfl := undefined_of_absent value absent
      rw [absent_field_missed, SayableFields, Sayable]
      simp
    | false =>
      rw [fieldsToJson, absent, if_neg Bool.false_ne_true, fieldsOfJson, equalFields,
        SayableFields, Bool.and_eq_true, Bool.and_eq_true, kept_iff value, fields_kept_iff rest]
      simp

end

end Value

theorem Json.crossed_iff (j : Json) : j.crossed = j ↔ j.Carried :=
  ⟨fun same => same ▸ (Value.ofJson j).to_json_carried, j.crossed_carried⟩

open Binary64 in
theorem json_keeps_what_it_can_say :
    (∀ v : Value, (Value.ofJson v.toJson).toJson = v.toJson) ∧
      (∀ v : Value, (Value.ofJson v.toJson).equal v = true ↔ v.Sayable) ∧
      (∀ j : Json, (Value.ofJson j).toJson = j ↔ j.Carried) ∧
      ∀ x : Binary64,
        ((∃ i, (Value.number x).toJson = .int i) ↔
          x.isIntegral = true ∧ x.magnitude ≤ maxSafe * grainsPerOne) ∧
        ∀ i, (Value.number x).toJson = .int i → x.scaled = i * grainsPerOne := by
  refine ⟨fun v => ?_, Value.kept_iff, Json.crossed_iff, fun x => ?_⟩
  · exact v.toJson.crossed_carried v.to_json_carried
  · exact ⟨x.to_json_whole_iff, fun i whole => x.scaled_of_safe i ((x.to_json_int i).1 whole)⟩

-- What is absent becomes empty in a list and disappears from an object.
example : (Value.object [("a", .undefined), ("b", .array [.undefined])]).toJson =
    .object [("b", .array [.null])] := rfl

end HostBridge
