import HostBridge.Arguments
import HostBridge.Proofs.Decode.Record

set_option autoImplicit false

namespace HostBridge

section Reading

variable {T : Type} [Decodable T] {args : Arguments} {index : Nat}

theorem Arguments.decode_object {fields : KeyMap Value} {x : T}
    (given : args[index]? = some (.object fields))
    (decoded : Decodable.decode (Value.fieldsToJson fields) = .ok x) :
    args.decode T index = .ok x := by
  simp only [decode, optional, isAbsent, given, Argument.isAbsent, Bool.false_eq_true, if_false,
    object, Except.map, bind, Except.bind, decoded]

theorem Arguments.decode_given (fields : KeyMap Value)
    (given : args[index]? = some (.object fields)) : args.decode T index =
      match Decodable.decode (Value.fieldsToJson fields) with
      | .ok x => .ok x
      | .error e => .error (.invalidOptions s!"argument {index}: {e.message}") := by
  cases decoded : Decodable.decode (T := T) (Value.fieldsToJson fields) with
  | ok x => exact decode_object given decoded
  | error e =>
    simp only [decode, optional, isAbsent, given, Argument.isAbsent, Bool.false_eq_true, if_false,
      object, Except.map, bind, Except.bind, decoded]

theorem Arguments.decode_ok_iff (fields : KeyMap Value)
    (given : args[index]? = some (.object fields)) (x : T) :
    args.decode T index = .ok x ↔ Decodable.decode (Value.fieldsToJson fields) = .ok x := by
  rw [decode_given fields given]
  cases Decodable.decode (T := T) (Value.fieldsToJson fields) with
  | ok y => simp only [Except.ok.injEq]
  | error e => exact iff_of_false nofun nofun

theorem Arguments.decode_error_iff (fields : KeyMap Value)
    (given : args[index]? = some (.object fields)) (f : Failure) :
    args.decode T index = .error f ↔
      ∃ e, Decodable.decode (T := T) (Value.fieldsToJson fields) = .error e ∧
        f = .invalidOptions s!"argument {index}: {e.message}" := by
  rw [decode_given fields given]
  cases Decodable.decode (T := T) (Value.fieldsToJson fields) with
  | ok y => exact iff_of_false nofun nofun
  | error e =>
    simp only [Except.error.injEq, exists_eq_left']
    exact eq_comm

theorem Arguments.decode_ok {x : T} (read : args.decode T index = .ok x) :
    x = Decodable.blank ∨ ∃ fields : KeyMap Value,
      Decodable.decode (Value.fieldsToJson fields) = .ok x := by
  obtain ⟨given, found, read⟩ := bind_ok read
  cases given with
  | none =>
    cases read
    exact .inl rfl
  | some fields =>
    refine .inr ⟨fields, ?_⟩
    cases decoded : Decodable.decode (T := T) (Value.fieldsToJson fields) with
    | ok y =>
      simp only [decoded] at read
      cases read
      rfl
    | error e =>
      simp only [decoded] at read
      cases read

end Reading

def ReadsAs {T : Type} [Decodable T] (x y : T) : Prop :=
  ∀ (fields : KeyMap Value) (args : Arguments) (index : Nat),
    Decodable.toValue x = .object fields → args[index]? = some (.object fields) →
    args.decode T index = .ok y

/-- Records of a type cross the bridge: each becomes an object with the given fields, those that are
fit are read as what they settle to, and every record that is ever read is fit and settled. -/
structure Crosses (T : Type) [Decodable T] (names : List String) (Fit : T → Prop)
    (settle : T → T) : Prop where
  whole : ∀ x : T, ∃ fields : KeyMap Value, Decodable.toValue x = .object fields ∧
    ∀ name, fields.contains name = true ↔ name ∈ names
  returns : ∀ x : T, Fit x → ReadsAs x (settle x)
  accepts : ∀ (args : Arguments) (index : Nat) (x : T), args.decode T index = .ok x →
    Fit x ∧ settle x = x ∧ ReadsAs x x

section Crossing

variable {T : Type} [Decodable T]

theorem to_value_entries {x : T} {entries : List (String × Json)}
    (encoded : Decodable.encode x = .object (KeyMap.ofList entries)) :
    Decodable.toValue x = .object (Value.fieldsOfJson (KeyMap.ofList entries)) := by
  rw [Decodable.toValue, encoded]
  rfl

theorem contains_of_json (fields : KeyMap Json) (name : String) :
    KeyMap.contains (Value.fieldsOfJson fields) name = fields.contains name := by
  induction fields with
  | nil => rfl
  | cons entry rest ih =>
    obtain ⟨other, value⟩ := entry
    simp only [KeyMap.contains] at ih
    simp only [KeyMap.contains, Value.fieldsOfJson, List.lookup_cons]
    split
    · rfl
    · exact ih

theorem Crosses.of_entries (entries : T → List (String × Json)) {names : List String}
    {Fit : T → Prop} {settle : T → T} (distinct : names.Nodup)
    (named : ∀ x, (entries x).map Prod.fst = names)
    (encoded : ∀ x : T, Decodable.encode x = .object (KeyMap.ofList (entries x)))
    (fresh : Fit Decodable.blank ∧ settle Decodable.blank = Decodable.blank)
    (returns : ∀ x, Fit x →
      Decodable.decode (Json.crossedFields (KeyMap.ofList (entries x))) = .ok (settle x))
    (accepts : ∀ m x, Json.CarriedFields m → Decodable.decode m = .ok x →
      Fit x ∧ settle x = x) : Crosses T names Fit settle := by
  have back : ∀ x, Fit x → ReadsAs x (settle x) := by
    intro x fits fields args index shown given
    rw [to_value_entries (encoded x)] at shown
    cases shown
    apply Arguments.decode_object given
    rw [Json.fields_crossed]
    exact returns x fits
  refine ⟨fun x => ?_, back, fun args index x read => ?_⟩
  · refine ⟨_, to_value_entries (encoded x), fun name => ?_⟩
    rw [contains_of_json, ← named x]
    exact KeyMap.contains_of_list (entries x) (named x ▸ distinct) name
  · have fits : Fit x ∧ settle x = x := by
      obtain rfl | ⟨fields, decoded⟩ := Arguments.decode_ok read
      · exact fresh
      · exact accepts _ x (Value.fields_carried fields) decoded
    have again := back x fits.1
    rw [fits.2] at again
    exact ⟨fits.1, fits.2, again⟩

theorem Crosses.of_record (t : Record T) {Fit : T → Prop} (survives : t.Survives Fit)
    (blank : Decodable.blank = t.blank) (encoded : ∀ x, Decodable.encode x = t.encode x)
    (decoded : ∀ m, Decodable.decode m = t.decodeFields m) :
    Crosses T (t.fields.map Field.name) Fit id := by
  apply Crosses.of_entries t.encodeFields survives.distinct t.encoded_names encoded
  · rw [blank]
    exact ⟨survives.fresh, rfl⟩
  · intro x fits
    rw [decoded]
    exact (survives.arrives x).decode (survives.copied x fits)
  · intro m x carried found
    rw [decoded] at found
    exact ⟨survives.accepts carried found, rfl⟩

end Crossing

end HostBridge
