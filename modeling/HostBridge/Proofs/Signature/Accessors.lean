import HostBridge.Arguments
import HostBridge.Proofs.Signature.Binding

set_option autoImplicit false

namespace HostBridge

theorem ParamType.name_inj {type other : ParamType} (same : type.name = other.name) :
    type = other := by
  revert same
  cases type <;> cases other <;> decide

theorem Argument.kind_of_value (b : Argument) (v : Value) (carries : b.value? = some v) :
    b.kind = v.kind := by
  cases b <;> cases carries <;> rfl

inductive Accessor where
  | number
  | int
  | string
  | boolean
  | object
deriving DecidableEq, Repr

namespace Accessor

def type : Accessor → ParamType
  | number => .number
  | int => .number
  | string => .string
  | boolean => .boolean
  | object => .object

def Result : Accessor → Type
  | number => Binary64
  | int => Int
  | string => String
  | boolean => Bool
  | object => KeyMap Value

def read : (a : Accessor) → Arguments → Nat → Except Failure a.Result
  | number => Arguments.number
  | int => Arguments.int
  | string => Arguments.string
  | boolean => Arguments.boolean
  | object => Arguments.object

inductive Gives (index : Nat) : (a : Accessor) → Value → Except Failure a.Result → Prop
  | number (x : Binary64) : Gives index .number (.number x) (.ok x)
  | int (x : Binary64) (k : Int) (fits : x.toInt32? = some k) :
      Gives index .int (.number x) (.ok k)
  | noInt (x : Binary64) (unfit : x.toInt32? = none) : Gives index .int (.number x)
      (.error (.argument s!"argument {index} is not a 32-bit integer: {x.text .plain}"))
  | string (s : String) : Gives index .string (.string s) (.ok s)
  | boolean (b : Bool) : Gives index .boolean (.bool b) (.ok b)
  | object (fields : KeyMap Value) : Gives index .object (.object fields) (.ok fields)

def misread (index : Nat) (wanted : ParamType) (kind : String) : Failure :=
  .argument s!"argument {index} read as {wanted.name} but is {kind}"

def OutOfRange (a : Accessor) (supplied : Option Value) (index : Nat) (f : Failure) : Prop :=
  a = .int ∧ ∃ x : Binary64, supplied = some (.number x) ∧ x.toInt32? = none ∧
    f = .argument s!"argument {index} is not a 32-bit integer: {x.text .plain}"

theorem out_of_range {a : Accessor} {v : Value} {index : Nat} {f : Failure}
    (gives : a.Gives index v (.error f)) : a.OutOfRange (some v) index f := by
  cases gives with
  | noInt x unfit => exact ⟨rfl, x, rfl, unfit, rfl⟩

section Reading

variable (a : Accessor) (bound : Arguments) (i : Nat)

theorem read_gives (b : Argument) (v : Value) (found : bound[i]? = some b)
    (carries : b.value? = some v) (kind : v.kind = a.type.name) :
    a.Gives i v (a.read bound i) := by
  cases a <;> cases b <;> cases carries <;> simp [Value.kind, type, ParamType.name] at kind
  case number.number x =>
    simp only [read, Arguments.number, found]
    exact .number x
  case int.number x =>
    simp only [read, Arguments.int, Arguments.number, found, bind, Except.bind]
    cases fits : x.toInt32? with
    | none => exact .noInt x fits
    | some k => exact .int x k fits
  case string.string s =>
    simp only [read, Arguments.string, found]
    exact .string s
  case boolean.boolean b =>
    simp only [read, Arguments.boolean, found]
    exact .boolean b
  case object.object fields =>
    simp only [read, Arguments.object, found]
    exact .object fields

theorem number_other (other : ∀ x, bound[i]? ≠ some (.number x)) :
    bound.number i = .error (misread i .number (bound.kindAt i)) := by
  unfold Arguments.number
  split
  · next x found => exact absurd found (other x)
  · rfl

-- An integer is a number first, so that a number is what is reported as wanted.
theorem read_other (other : bound.kindAt i ≠ a.type.name) :
    a.read bound i = .error (misread i a.type (bound.kindAt i)) := by
  have differs : ∀ b, bound[i]? = some b → b.kind ≠ a.type.name := fun b found => by
    simpa only [Arguments.kindAt, found] using other
  cases a
  case number => exact number_other bound i fun x found => differs _ found rfl
  case int =>
    have refused := number_other bound i fun x found => differs _ found rfl
    simp only [read, Arguments.int, refused, bind, Except.bind]
    rfl
  all_goals
    simp only [read, Arguments.string, Arguments.boolean, Arguments.object]
    split
    · next found => exact absurd rfl (differs _ found)
    · rfl

end Reading

end Accessor

namespace Arguments

variable {α : Type} (read : Arguments → Nat → Except Failure α) (bound : Arguments) (i : Nat)

theorem optional_absent (absent : bound.isAbsent i = true) : bound.optional read i = .ok none :=
  if_pos absent

theorem optional_present (present : bound.isAbsent i = false) :
    bound.optional read i = (read bound i).map some :=
  if_neg (Bool.eq_false_iff.1 present)

theorem optional_error {f : Failure} (failed : bound.optional read i = .error f) :
    bound.isAbsent i = false ∧ read bound i = .error f := by
  cases given : bound.isAbsent i with
  | true =>
    rw [optional_absent read bound i given] at failed
    cases failed
  | false =>
    rw [optional_present read bound i given] at failed
    cases done : read bound i with
    | ok x =>
      rw [done] at failed
      cases failed
    | error g =>
      rw [done] at failed
      cases failed
      exact ⟨rfl, rfl⟩

theorem absent_iff : bound.isAbsent i = true ↔
    bound[i]? = some .absent ∨ bound.length ≤ i := by
  rw [← List.getElem?_eq_none_iff, isAbsent]
  cases bound[i]? with
  | none => simp
  | some b => cases b <;> simp [Argument.isAbsent]

theorem decode_absent (T : Type) [Decodable T] (absent : bound.isAbsent i = true) :
    bound.decode T i = .ok Decodable.blank := by
  rw [decode, optional_absent object bound i absent]
  rfl

end Arguments

namespace Signature

variable (s : Signature) (args : List Value) (bound : Arguments)

structure ReadsAsDeclared : Prop where
  own : ∀ (i : Nat) (p : Param), s.params[i]? = some p → bound[i]? ≠ some .absent →
    ∃ v, args[i]? = some v ∧
      (∀ a : Accessor, a.type = p.type → a.Gives i v (a.read bound i)) ∧
      ∀ (α : Type) (read : Arguments → Nat → Except Failure α),
        bound.optional read i = (read bound i).map some
  other : ∀ (i : Nat) (p : Param), s.params[i]? = some p → bound[i]? ≠ some .absent →
    (∀ a : Accessor, a.type ≠ p.type →
      a.read bound i = .error (Accessor.misread i a.type p.type.name) ∧
      bound.optional a.read i = .error (Accessor.misread i a.type p.type.name)) ∧
    (p.type ≠ .object → ∀ (T : Type) [Decodable T],
      bound.decode T i = .error (Accessor.misread i .object p.type.name))
  nothing : ∀ i, bound[i]? = some .absent ∨ s.arity ≤ i → bound.isAbsent i = true ∧
    (∀ (α : Type) (read : Arguments → Nat → Except Failure α),
      bound.optional read i = .ok none) ∧
    ∀ (T : Type) [Decodable T], bound.decode T i = .ok Decodable.blank
  absent : ∀ i, bound[i]? = some .absent → ∀ a : Accessor,
    a.read bound i = .error (Accessor.misread i a.type "absent")
  unbound : ∀ i, s.arity ≤ i → ∀ a : Accessor,
    a.read bound i = .error (Accessor.misread i a.type "unbound")
  declared : ∀ (i : Nat) (p : Param) (a : Accessor), s.params[i]? = some p → a.type = p.type →
    (p.optional = false → ∀ f, a.read bound i = .error f → a.OutOfRange args[i]? i f) ∧
    (p.optional = true → ∀ f, bound.optional a.read i = .error f → a.OutOfRange args[i]? i f)

section Bound

variable {s args bound} (fits : s.bind args = .ok bound)

include fits

theorem bound_carries (i : Nat) (p : Param) (declared : s.params[i]? = some p)
    (present : bound[i]? ≠ some .absent) : ∃ b v, bound[i]? = some b ∧ b ≠ .absent ∧
      args[i]? = some v ∧ b.value? = some v ∧ v.kind = p.type.name := by
  obtain ⟨_, held⟩ := bind_ok_holds s args bound fits
  obtain ⟨b, found, good, holds⟩ := held i p declared
  rcases good with leftOut | typed
  · rw [holds.leftOut leftOut] at found
    exact absurd found present
  · have carries := holds.typed typed
    obtain ⟨v, supplied, kind⟩ := typed
    have some : b ≠ .absent := fun same => present (same ▸ found)
    exact ⟨b, v, found, some, supplied, carries.trans supplied, kind⟩

theorem required_present (i : Nat) (p : Param) (declared : s.params[i]? = some p)
    (required : p.optional = false) : bound[i]? ≠ some .absent := by
  obtain ⟨_, held⟩ := bind_ok_holds s args bound fits
  obtain ⟨b, found, good, holds⟩ := held i p declared
  rcases good with leftOut | typed
  · cases required.symm.trans leftOut.1
  · intro absent
    cases found.symm.trans absent
    have nothing : Argument.absent.value? = args[i]? := holds.typed typed
    obtain ⟨v, supplied, _⟩ := typed
    cases nothing.trans supplied

theorem absent_of_nothing (i : Nat) (nothing : bound[i]? = some .absent ∨ s.arity ≤ i) :
    bound.isAbsent i = true := by
  obtain ⟨size, _⟩ := bind_ok_holds s args bound fits
  exact (bound.absent_iff i).2 (size ▸ nothing)

theorem own_read (i : Nat) (p : Param) (declared : s.params[i]? = some p)
    (present : bound[i]? ≠ some .absent) :
    bound.isAbsent i = false ∧ ∃ v, args[i]? = some v ∧ bound.kindAt i = p.type.name ∧
      ∀ a : Accessor, a.type = p.type → a.Gives i v (a.read bound i) := by
  obtain ⟨b, v, found, some, supplied, carries, kind⟩ := bound_carries fits i p declared present
  refine ⟨?_, v, supplied, ?_, fun a same => ?_⟩
  · rw [Arguments.isAbsent, found]
    cases b with
    | absent => exact absurd rfl some
    | _ => rfl
  · rw [Arguments.kindAt, found]
    exact (b.kind_of_value v carries).trans kind
  · exact a.read_gives bound i b v found carries (same ▸ kind)

theorem other_read (i : Nat) (p : Param) (declared : s.params[i]? = some p)
    (present : bound[i]? ≠ some .absent) (a : Accessor) (differs : a.type ≠ p.type) :
    a.read bound i = .error (Accessor.misread i a.type p.type.name) ∧
      bound.optional a.read i = .error (Accessor.misread i a.type p.type.name) := by
  obtain ⟨given, v, _, kind, _⟩ := own_read fits i p declared present
  have names : p.type.name ≠ a.type.name := fun same => differs (ParamType.name_inj same.symm)
  have refused := a.read_other bound i (kind ▸ names)
  rw [kind] at refused
  refine ⟨refused, ?_⟩
  rw [Arguments.optional_present a.read bound i given, refused]
  rfl

theorem declared_error (i : Nat) (p : Param) (declared : s.params[i]? = some p)
    (present : bound[i]? ≠ some .absent) (a : Accessor) (same : a.type = p.type) (f : Failure)
    (failed : a.read bound i = .error f) : a.OutOfRange args[i]? i f := by
  obtain ⟨_, v, supplied, _, gives⟩ := own_read fits i p declared present
  have gives := gives a same
  rw [failed] at gives
  exact supplied ▸ Accessor.out_of_range gives

theorem bound_arguments_are_read_as_declared : s.ReadsAsDeclared args bound where
  own i p declared present := by
    obtain ⟨given, v, supplied, _, gives⟩ := own_read fits i p declared present
    exact ⟨v, supplied, gives, fun α read => Arguments.optional_present read bound i given⟩
  other i p declared present := by
    refine ⟨other_read fits i p declared present, fun differs T _ => ?_⟩
    have refused := (other_read fits i p declared present .object (Ne.symm differs)).2
    change bound.optional Arguments.object i = _ at refused
    rw [Arguments.decode, refused]
    rfl
  nothing i nothing := by
    have absent := absent_of_nothing fits i nothing
    exact ⟨absent, fun α read => Arguments.optional_absent read bound i absent,
      fun T _ => Arguments.decode_absent bound i T absent⟩
  absent i found a := by
    have kind : bound.kindAt i = "absent" := by rw [Arguments.kindAt, found]; rfl
    have refused := a.read_other bound i (by rw [kind]; cases a <;> decide)
    rwa [kind] at refused
  unbound i past a := by
    obtain ⟨size, _⟩ := bind_ok_holds s args bound fits
    have missing : bound[i]? = none := List.getElem?_eq_none_iff.2 (size ▸ past)
    have kind : bound.kindAt i = "unbound" := by rw [Arguments.kindAt, missing]
    have refused := a.read_other bound i (by rw [kind]; cases a <;> decide)
    rwa [kind] at refused
  declared i p a declared same := by
    refine ⟨fun required f failed => ?_, fun _ f failed => ?_⟩
    · exact declared_error fits i p declared (required_present fits i p declared required) a same f
        failed
    · obtain ⟨given, failed⟩ := Arguments.optional_error a.read bound i failed
      refine declared_error fits i p declared (fun absent => ?_) a same f failed
      rw [absent_of_nothing fits i (.inl absent)] at given
      cases given

end Bound

theorem numbered_unit_is_read :
    (⟨[⟨.number, false⟩, ⟨.string, false⟩, ⟨.object, true⟩], .promise⟩ : Signature).bind
      [.number (.ofInt 3), .string "unit"] = .ok [.number (.ofInt 3), .string "unit", .absent] ∧
    ReadsAsDeclared ⟨[⟨.number, false⟩, ⟨.string, false⟩, ⟨.object, true⟩], .promise⟩
      [.number (.ofInt 3), .string "unit"] [.number (.ofInt 3), .string "unit", .absent] :=
  ⟨rfl, bound_arguments_are_read_as_declared rfl⟩

end Signature

end HostBridge
