import HostBridge.Proofs.Ads.Members
import HostBridge.Proofs.Decode.Setting
import HostBridge.Proofs.Number.Truncation

set_option autoImplicit false

namespace HostBridge

section Arguments

variable {x : Binary64} {args : Arguments} {index : Nat}
  (given : args[index]? = some (.number x))

include given

theorem Arguments.int_of_number : args.int index = match x.toInt32? with
    | some k => .ok k
    | none => .error (.argument s!"argument {index} is not a 32-bit integer: {x.text .plain}") := by
  rw [int, number, given]
  rfl

theorem Arguments.int_ok_iff (k : Int) : args.int index = .ok k ↔ x.CutsTo k := by
  rw [int_of_number given, ← x.int32_some_iff]
  cases x.toInt32? <;> simp

theorem Arguments.int_refused (unfit : ∀ k, ¬ x.CutsTo k) : args.int index =
    .error (.argument s!"argument {index} is not a 32-bit integer: {x.text .plain}") := by
  have none : x.toInt32? = none :=
    Option.eq_none_iff_forall_ne_some.2 fun k cut => unfit k ((x.int32_some_iff k).1 cut)
  rw [int_of_number given, none]

end Arguments

namespace Ads

structure Slot (T : Type) where
  name : String
  put : Int → T → Except DecodeError T

namespace Slot

def placement : Slot NativeAdRequestOptions :=
  ⟨"adChoicesPlacement", fun k r => .ok { r with adChoicesPlacement := some k }⟩

def ratio : Slot NativeAdRequestOptions :=
  ⟨"aspectRatio", fun k r => .ok { r with aspectRatio := some k }⟩

def geography : Slot ConsentRequestOptions where
  name := "debugGeography"
  put k r := match DebugGeography.ofCode? k with
    | some g => .ok { r with debugGeography := g }
    | none => .error (.unknownCode "debug geography" k)

structure Takes {T : Type} [Decodable T] (slot : Slot T) (x : Binary64) (id : Except Failure Int)
    (options : Arguments) (index : Nat) (fields : KeyMap Value) : Prop where
  whole : x.isIntegral = true → ∀ r, options.decode T index = .ok r ↔ ∃ k rest, id = .ok k ∧
    Arguments.decode T [.object (fields.without slot.name)] 0 = .ok rest ∧ slot.put k rest = .ok r
  told : x.isIntegral = true → ∀ k rest, id = .ok k →
    Arguments.decode T [.object (fields.without slot.name)] 0 = .ok rest →
    options.decode T index = Arguments.report index (slot.put k rest)
  fraction : x.isFinite = true → x.isIntegral = false →
    (∃ message, options.decode T index = .error (.invalidOptions message)) ∧
    ∀ rest, Arguments.decode T [.object (fields.without slot.name)] 0 = .ok rest →
      options.decode T index = Arguments.report index (.error (.wrongType (.float x) "i32"))
  endless : x.isFinite = false → (Value.fieldsToJson fields).lookup slot.name = some .null

def Agrees {T : Type} [Decodable T] (slot : Slot T) (x : Binary64) (id : Except Failure Int) :
    Prop :=
  ∀ (options : Arguments) (index : Nat) (fields : KeyMap Value),
    options[index]? = some (.object fields) → fields.lookup slot.name = some (.number x) →
    slot.Takes x id options index fields

section Filling

variable {T : Type} (slot : Slot T)

structure FilledBy (p : Member T) (members : List (Member T)) (set : p.Part → T → T) : Prop where
  name : p.name = slot.name
  sets : p.Sets members set
  reads : ∀ j r, j ≠ .null →
    (p.codec.decode j).map (set · r) = Codec.int32.decode j >>= (slot.put · r)

variable {slot} [Decodable T] {p : Member T} {stages : List (List (Member T))}
  {set : p.Part → T → T} (filled : slot.FilledBy p stages.flatten set)
  (staged : Staged (Decodable.decode (T := T)) Decodable.blank stages) {x : Binary64}
  {options : Arguments} {index : Nat} {fields : KeyMap Value}
  (given : options[index]? = some (.object fields))
  (held : fields.lookup slot.name = some (.number x))

include filled staged given

theorem FilledBy.read_without (r : T) (read : options.decode T index = .ok r) :
    ∃ rest, Arguments.decode T [.object (fields.without slot.name)] 0 = .ok rest :=
  filled.name ▸ filled.sets.read_without staged fields given r read

include held

theorem FilledBy.read_rest (finite : x.isFinite = true) (rest : T)
    (others : Arguments.decode T [.object (fields.without slot.name)] 0 = .ok rest) :
    options.decode T index =
      Arguments.report index (Codec.int32.decode x.toJson >>= (slot.put · rest)) := by
  rw [← filled.reads _ rest (x.to_json_given finite)]
  rw [← filled.name] at held others
  exact filled.sets.read_rest staged fields given (.number x) held rfl rest others

theorem FilledBy.takes (id : Except Failure Int) (cut : ∀ k, id = .ok k ↔ x.CutsTo k) :
    slot.Takes x id options index fields where
  whole integral r := by
    have finite := x.finite_of_integral integral
    constructor
    · intro read
      obtain ⟨rest, others⟩ := filled.read_without staged given r read
      rw [filled.read_rest staged given held finite rest others, Arguments.report_ok_iff] at read
      obtain ⟨k, taken, stored⟩ := bind_ok read
      exact ⟨k, rest, (cut k).2 ((x.int32_reads_cut k integral).1 taken), others, stored⟩
    · intro ⟨k, rest, same, others, stored⟩
      have taken := (x.int32_reads_cut k integral).2 ((cut k).1 same)
      rw [filled.read_rest staged given held finite rest others, Arguments.report_ok_iff, taken]
      exact stored
  told integral k rest same others := by
    have taken := (x.int32_reads_cut k integral).2 ((cut k).1 same)
    rw [filled.read_rest staged given held (x.finite_of_integral integral) rest others, taken]
    rfl
  fraction finite broken := by
    have refused : ∀ rest,
        Arguments.decode T [.object (fields.without slot.name)] 0 = .ok rest →
          options.decode T index =
            Arguments.report index (.error (.wrongType (.float x) "i32")) := by
      intro rest others
      rw [filled.read_rest staged given held finite rest others, x.to_json_fraction finite broken]
      rfl
    refine ⟨?_, refused⟩
    cases read : options.decode T index with
    | ok r =>
      obtain ⟨rest, others⟩ := filled.read_without staged given r read
      cases read.symm.trans (refused rest others)
    | error f =>
      obtain ⟨e, _, same⟩ := (Arguments.decode_error_iff fields given f).1 read
      exact ⟨_, congrArg Except.error same⟩
  endless endless := by
    have shown := Value.view_of_held fields slot.name (.number x) held rfl
    rw [← x.to_json_null endless]
    exact shown

end Filling

theorem optional_int32_reads {T : Type} (set : Option Int → T → T) (j : Json) (r : T)
    (given : j ≠ .null) : ((Codec.optional .int32).decode j).map (set · r) =
      Codec.int32.decode j >>= fun k => .ok (set (some k) r) := by
  rw [Codec.optional_decode j given]
  cases Codec.int32.decode j <;> rfl

section Native

open NativeAdRequestOptions

theorem native_distinct :
    ([ownMembers, requestMembers].flatten.map Member.name).Nodup := by decide

theorem placement_filled : placement.FilledBy
    ⟨"adChoicesPlacement", false, _, .optional .int32, adChoicesPlacement⟩
    [ownMembers, requestMembers].flatten fun v r => { r with adChoicesPlacement := v } where
  name := rfl
  sets :=
    { declared := by simp [ownMembers]
      isSpare := rfl
      distinct := native_distinct
      held := fun _ _ => rfl
      kept := by simp [ownMembers, requestMembers, Member.within] }
  reads := optional_int32_reads _

theorem ratio_filled : ratio.FilledBy
    ⟨"aspectRatio", false, _, .optional .int32, aspectRatio⟩
    [ownMembers, requestMembers].flatten fun v r => { r with aspectRatio := v } where
  name := rfl
  sets :=
    { declared := by simp [ownMembers]
      isSpare := rfl
      distinct := native_distinct
      held := fun _ _ => rfl
      kept := by simp [ownMembers, requestMembers, Member.within] }
  reads := optional_int32_reads _

end Native

open ConsentRequestOptions in
theorem geography_filled : geography.FilledBy
    ⟨"debugGeography", false, _, DebugGeography.codec, debugGeography⟩
    [members].flatten fun v r => { r with debugGeography := v } where
  name := rfl
  sets :=
    { declared := by simp [members]
      isSpare := rfl
      distinct := declares.distinct
      held := fun _ _ => rfl
      kept := by simp [members] }
  reads j r _ := by
    simp only [DebugGeography.codec, Codec.coded, geography, DebugGeography.ofCode?]
    cases Codec.int32.decode j with
    | error e => rfl
    | ok k =>
      simp only [bind, Except.bind]
      cases DebugGeography.byCode.lookup k <;> rfl

end Slot

/-- What becomes of a number as the number of a request, and in the fields of options. -/
structure ConvertsExactly (x : Binary64) (args : Arguments) (index : Nat) : Prop where
  cut : ∀ k, args.int index = .ok k ↔ x.CutsTo k
  refused : (∀ k, ¬ x.CutsTo k) → args.int index =
    .error (.argument s!"argument {index} is not a 32-bit integer: {x.text .plain}")
  returned : ∀ k, -2147483648 ≤ k → k ≤ 2147483647 → Value.ofInt k = .number x →
    args.int index = .ok k
  distinct : x.isIntegral = true → ∀ (y : Binary64) (others : Arguments) (place : Nat),
    others[place]? = some (.number y) → y.isIntegral = true →
    ∀ k, args.int index = .ok k → others.int place = .ok k → x.equal y = true
  coded : x.isIntegral = true →
    ∀ k, Codec.int32.decode (Value.number x).toJson = .ok k ↔ args.int index = .ok k
  placement : Slot.placement.Agrees x (args.int index)
  ratio : Slot.ratio.Agrees x (args.int index)
  geography : Slot.geography.Agrees x (args.int index)

theorem request_ids_convert_exactly (x : Binary64) (args : Arguments) (index : Nat)
    (given : args[index]? = some (.number x)) : ConvertsExactly x args index := by
  have cut := Arguments.int_ok_iff given
  constructor
  case cut => exact cut
  case refused => exact Arguments.int_refused given
  case returned =>
    intro k least most same
    obtain rfl := Value.number.inj same
    exact (cut k).2 (Binary64.cut_of_int k (decide_eq_true ⟨least, by omega⟩))
  case distinct =>
    intro integral y others place given' integral' k read read'
    exact x.equal_of_cut y k integral integral' ((cut k).1 read)
      ((Arguments.int_ok_iff given' k).1 read')
  case coded =>
    intro integral k
    rw [cut k]
    exact x.int32_reads_cut k integral
  case placement =>
    intro options i fields taken held
    exact Slot.placement_filled.takes NativeAdRequestOptions.staged taken held _ cut
  case ratio =>
    intro options i fields taken held
    exact Slot.ratio_filled.takes NativeAdRequestOptions.staged taken held _ cut
  case geography =>
    intro options i fields taken held
    exact Slot.geography_filled.takes ConsentRequestOptions.staged taken held _ cut

-- The greatest number below 2147483648 is a fraction. As the number of a request it is accepted,
-- and as an aspect ratio it is not.
theorem greatest_fraction_converts :
    Arguments.int [.number ⟨0x41DFFFFFFFFFFFFF⟩] 0 = .ok 2147483647 ∧
      ∃ message, Arguments.decode NativeAdRequestOptions
        [.object [("aspectRatio", .number ⟨0x41DFFFFFFFFFFFFF⟩)]] 0 =
          .error (.invalidOptions message) := by
  have converts := request_ids_convert_exactly ⟨0x41DFFFFFFFFFFFFF⟩
    [.number ⟨0x41DFFFFFFFFFFFFF⟩] 0 rfl
  refine ⟨(converts.cut _).2 (by decide), ?_⟩
  exact ((converts.ratio _ 0 _ rfl rfl).fraction (by decide) (by decide)).1

end Ads

end HostBridge
