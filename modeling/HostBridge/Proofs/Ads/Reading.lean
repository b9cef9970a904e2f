import HostBridge.Ads.FullScreen
import HostBridge.Proofs.Bridge.Lookup

set_option autoImplicit false

namespace HostBridge.Ads

def IsOptions (a : Argument) : Prop := a = .absent ∨ ∃ fields, a = .object fields

def decoded (T : Type) [Decodable T] (index : Nat) : Argument → Except Failure T
  | .object fields =>
    match Decodable.decode (Value.fieldsToJson fields) with
    | .ok x => .ok x
    | .error e => .error ⟨"googleMobileAds/invalid-options", s!"argument {index}: {e.message}"⟩
  | _ => .ok Decodable.blank

def requestIdOf (x : Binary64) : Except Failure Int :=
  match x.toInt32? with
  | some requestId => .ok requestId
  | none => .error ⟨"bridge/argument", s!"argument 0 is not a 32-bit integer: {x.text .plain}"⟩

theorem request_id_some (x : Binary64) (requestId : Int)
    (truncated : requestIdOf x = .ok requestId) : x.toInt32? = some requestId := by
  unfold requestIdOf at truncated
  cases found : x.toInt32? <;> rw [found] at truncated <;> cases truncated
  rfl

theorem request_id_error (x : Binary64) (f : Failure) (failed : requestIdOf x = .error f) :
    f.code = "bridge/argument" := by
  unfold requestIdOf at failed
  split at failed <;> cases failed
  rfl

theorem decoded_error (T : Type) [Decodable T] (index : Nat) (a : Argument) (f : Failure)
    (failed : decoded T index a = .error f) : f.code = "googleMobileAds/invalid-options" := by
  unfold decoded at failed
  split at failed
  · split at failed <;> cases failed
    rfl
  · cases failed

theorem options_read (T : Type) [Decodable T] (args : Arguments) (index : Nat) (a : Argument)
    (given : args[index]? = some a) (options : IsOptions a) :
    optionsOf T args index = decoded T index a := by
  rcases options with rfl | ⟨fields, rfl⟩
  · simp [optionsOf, Arguments.decode, Arguments.optional, Arguments.isAbsent, given, decoded,
      Argument.isAbsent, bind, Except.bind]
  · simp only [optionsOf, Arguments.decode, Arguments.optional, Arguments.isAbsent, given,
      Argument.isAbsent, Arguments.object, decoded, bind, Except.bind, Except.map,
      Bool.false_eq_true, if_false]
    cases Decodable.decode (T := T) (Value.fieldsToJson fields) with
    | ok x => rfl
    | error e => rfl

theorem request_id_read (x : Binary64) (rest : Arguments) :
    Arguments.int (.number x :: rest) 0 = requestIdOf x := by
  unfold requestIdOf
  simp only [Arguments.int, Arguments.number, List.getElem?_cons_zero, bind, Except.bind]
  cases x.toInt32? with
  | some requestId => rfl
  | none => rfl

theorem string_read (args : Arguments) (index : Nat) (s : String)
    (given : args[index]? = some (.string s)) : args.string index = .ok s := by
  simp [Arguments.string, given]

theorem load_binds (args : List Value) (bound : Arguments)
    (fits : loadSignature.bind args = .ok bound) :
    ∃ x adUnitId fields rest, args = .number x :: .string adUnitId :: .object fields :: rest ∧
      bound = [.number x, .string adUnitId, .object fields] := by
  obtain ⟨_, _, first, others, rfl⟩ := Signature.bindParams_cons _ _ _ _ _ fits
  obtain ⟨_, _, second, last, rfl⟩ := Signature.bindParams_cons _ _ _ _ _ others
  obtain ⟨_, _, third, none, rfl⟩ := Signature.bindParams_cons _ _ _ _ _ last
  obtain ⟨x, isNumber, rfl⟩ := Param.bind_number _ _ _ first
  obtain ⟨adUnitId, isString, rfl⟩ := Param.bind_string _ _ _ second
  obtain ⟨fields, isObject, rfl⟩ := Param.bind_object _ _ _ third
  cases none
  obtain ⟨rest, rfl⟩ := List.head?_eq_some_iff.1 isNumber
  obtain ⟨rest, rfl⟩ := List.head?_eq_some_iff.1 isString
  obtain ⟨rest, rfl⟩ := List.head?_eq_some_iff.1 isObject
  exact ⟨x, adUnitId, fields, rest, rfl, rfl⟩

theorem optional_object_binds (position : Nat) (v : Option Value) (a : Argument)
    (fits : (⟨.object, true⟩ : Param).bind position v = .ok a) : IsOptions a := by
  rcases Param.bind_optional_object _ _ _ fits with absent | ⟨fields, _, present⟩
  · exact Or.inl absent
  · exact Or.inr ⟨fields, present⟩

theorem show_binds (args : List Value) (bound : Arguments)
    (fits : showSignature.bind args = .ok bound) :
    ∃ x adUnitId options, bound = [.number x, .string adUnitId, options] ∧ IsOptions options := by
  obtain ⟨_, _, first, others, rfl⟩ := Signature.bindParams_cons _ _ _ _ _ fits
  obtain ⟨_, _, second, last, rfl⟩ := Signature.bindParams_cons _ _ _ _ _ others
  obtain ⟨options, _, third, none, rfl⟩ := Signature.bindParams_cons _ _ _ _ _ last
  obtain ⟨x, _, rfl⟩ := Param.bind_number _ _ _ first
  obtain ⟨adUnitId, _, rfl⟩ := Param.bind_string _ _ _ second
  cases none
  exact ⟨x, adUnitId, options, rfl, optional_object_binds _ _ _ third⟩

theorem options_bind (args : List Value) (bound : Arguments)
    (fits : ((Signature.requiring [] .promise).withOptional .object).bind args = .ok bound) :
    ∃ options, bound = [options] ∧ IsOptions options := by
  obtain ⟨options, _, only, none, rfl⟩ := Signature.bindParams_cons _ _ _ _ _ fits
  cases none
  exact ⟨options, rfl, optional_object_binds _ _ _ only⟩

theorem native_binds (args : List Value) (bound : Arguments)
    (fits : (Signature.requiring [.string, .object] .promise).bind args = .ok bound) :
    ∃ adUnitId fields, bound = [.string adUnitId, .object fields] := by
  obtain ⟨_, _, first, others, rfl⟩ := Signature.bindParams_cons _ _ _ _ _ fits
  obtain ⟨_, _, second, none, rfl⟩ := Signature.bindParams_cons _ _ _ _ _ others
  obtain ⟨adUnitId, _, rfl⟩ := Param.bind_string _ _ _ first
  obtain ⟨fields, _, rfl⟩ := Param.bind_object _ _ _ second
  cases none
  exact ⟨adUnitId, fields, rfl⟩

end HostBridge.Ads
