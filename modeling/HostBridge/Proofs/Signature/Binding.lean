import HostBridge.Proofs.Except
import HostBridge.Signature.Bind

set_option autoImplicit false

namespace HostBridge

def Argument.value? : Argument → Option Value
  | number x => some (.number x)
  | string s => some (.string s)
  | boolean b => some (.bool b)
  | object fields => some (.object fields)
  | absent => none

namespace ParamType

theorem accepted_iff (type : ParamType) (v : Value) :
    (∃ a, type.accept v = some a) ↔ v.kind = type.name := by
  cases type <;> cases v <;> simp [accept, name, Value.kind]

theorem accept_carries (type : ParamType) (v : Value) (a : Argument)
    (accepted : type.accept v = some a) : a.value? = some v := by
  cases type <;> cases v <;> cases accepted <;> rfl

end ParamType

namespace Param

variable (p : Param)

def LeftOut (supplied : Option Value) : Prop :=
  p.optional = true ∧ (supplied = none ∨ supplied = some .undefined)

def Typed (supplied : Option Value) : Prop := ∃ v, supplied = some v ∧ v.kind = p.type.name

def Good (supplied : Option Value) : Prop := p.LeftOut supplied ∨ p.Typed supplied

structure Holds (supplied : Option Value) (a : Argument) : Prop where
  leftOut : p.LeftOut supplied → a = .absent
  typed : p.Typed supplied → a.value? = supplied

def fault (position : Nat) : Option Value → BridgeError
  | none => .missingArgument position
  | some v => .typeMismatch position p.type v.kind

variable {p}

theorem LeftOut.untyped {supplied : Option Value} (leftOut : p.LeftOut supplied) :
    ¬ p.Typed supplied := by
  rintro ⟨v, rfl, kind⟩
  obtain ⟨a, accepted⟩ := (p.type.accepted_iff v).2 kind
  rcases leftOut.2 with missing | undefined
  · cases missing
  · cases undefined
    cases same : p.type <;> rw [same] at accepted <;> cases accepted

theorem bind_left_out (position : Nat) {supplied : Option Value} (leftOut : p.LeftOut supplied) :
    p.bind position supplied = .ok .absent := by
  obtain ⟨optional, rfl | rfl⟩ := leftOut
  · exact if_pos optional
  · simp only [bind, optional, Value.isUndefined, Bool.and_self, if_true]

theorem bind_supplied (position : Nat) (v : Value) (given : ¬ p.LeftOut (some v)) :
    p.bind position (some v) =
      match p.type.accept v with
      | some a => .ok a
      | none => .error (p.fault position (some v)) := by
  have other : (p.optional && v.isUndefined) = false := by
    refine Bool.eq_false_iff.2 fun both => given ?_
    obtain ⟨optional, undefined⟩ := Bool.and_eq_true_iff.1 both
    cases v with
    | undefined => exact ⟨optional, .inr rfl⟩
    | _ => cases undefined
  exact if_neg (Bool.eq_false_iff.1 other)

theorem bind_good (position : Nat) {supplied : Option Value} (good : p.Good supplied) :
    ∃ a, p.bind position supplied = .ok a ∧ p.Holds supplied a := by
  rcases good with leftOut | typed
  · exact ⟨_, bind_left_out position leftOut, fun _ => rfl, fun typed =>
      absurd typed leftOut.untyped⟩
  · obtain ⟨v, rfl, kind⟩ := typed
    have given : ¬ p.LeftOut (some v) := fun leftOut => leftOut.untyped ⟨v, rfl, kind⟩
    obtain ⟨a, accepted⟩ := (p.type.accepted_iff v).2 kind
    refine ⟨a, ?_, fun leftOut => absurd leftOut given, fun _ => p.type.accept_carries v a accepted⟩
    rw [bind_supplied position v given, accepted]

theorem bind_bad (position : Nat) {supplied : Option Value} (bad : ¬ p.Good supplied) :
    p.bind position supplied = .error (p.fault position supplied) := by
  cases supplied with
  | none =>
    have required : ¬ p.optional = true := fun optional => bad (.inl ⟨optional, .inl rfl⟩)
    exact if_neg required
  | some v =>
    rw [bind_supplied position v fun leftOut => bad (.inl leftOut)]
    cases accepted : p.type.accept v with
    | none => rfl
    | some a => exact absurd (.inr ⟨v, rfl, (p.type.accepted_iff v).1 ⟨a, accepted⟩⟩) bad

end Param

namespace Signature

structure FirstBad (params : List Param) (args : List Value) (i : Nat) (p : Param) : Prop where
  declared : params[i]? = some p
  bad : ¬ p.Good args[i]?
  before : ∀ (j : Nat) (q : Param), j < i → params[j]? = some q → q.Good args[j]?

def AllGood (params : List Param) (args : List Value) : Prop :=
  ∀ (i : Nat) (p : Param), params[i]? = some p → p.Good args[i]?

theorem bind_params_cons (p : Param) (rest : List Param) (position : Nat) (args : List Value) :
    bindParams (p :: rest) position args = (do
      let first ← p.bind position args[0]?
      let others ← bindParams rest (position + 1) args.tail
      .ok (first :: others)) := by
  rw [bindParams, List.head?_eq_getElem?]

theorem all_good_cons (p : Param) (rest : List Param) (args : List Value) :
    AllGood (p :: rest) args ↔ p.Good args[0]? ∧ AllGood rest args.tail := by
  constructor
  · refine fun good => ⟨good 0 p rfl, fun i q declared => ?_⟩
    rw [List.getElem?_tail]
    exact good (i + 1) q declared
  · rintro ⟨first, others⟩ i q declared
    cases i with
    | zero =>
      cases declared
      exact first
    | succ i =>
      rw [← List.getElem?_tail]
      exact others i q declared

theorem first_bad_cons (p : Param) (rest : List Param) (args : List Value) (i : Nat) (q : Param) :
    FirstBad (p :: rest) args (i + 1) q ↔ p.Good args[0]? ∧ FirstBad rest args.tail i q := by
  constructor
  · rintro ⟨declared, bad, before⟩
    refine ⟨before 0 p i.succ_pos rfl, declared, List.getElem?_tail ▸ bad, fun j r earlier => ?_⟩
    rw [List.getElem?_tail]
    exact before (j + 1) r (Nat.succ_lt_succ earlier)
  · rintro ⟨first, declared, bad, before⟩
    refine ⟨declared, List.getElem?_tail ▸ bad, fun j r earlier found => ?_⟩
    cases j with
    | zero =>
      cases found
      exact first
    | succ j =>
      rw [← List.getElem?_tail]
      exact before j r (Nat.lt_of_succ_lt_succ earlier) found

theorem bind_params_good (params : List Param) (position : Nat) (args : List Value)
    (good : AllGood params args) :
    ∃ bound, bindParams params position args = .ok bound ∧ bound.length = params.length ∧
      ∀ (i : Nat) (p : Param), params[i]? = some p →
        ∃ a, bound[i]? = some a ∧ p.Holds args[i]? a := by
  induction params generalizing position args with
  | nil => exact ⟨[], rfl, rfl, nofun⟩
  | cons p rest ih =>
    obtain ⟨here, later⟩ := (all_good_cons p rest args).1 good
    obtain ⟨first, head, holds⟩ := Param.bind_good position here
    obtain ⟨others, tail, size, held⟩ := ih (position + 1) args.tail later
    refine ⟨first :: others, ?_, congrArg (· + 1) size, fun i q declared => ?_⟩
    · rw [bind_params_cons, head, tail]
      rfl
    · cases i with
      | zero =>
        cases declared
        exact ⟨first, rfl, holds⟩
      | succ i =>
        obtain ⟨a, found, holds⟩ := held i q declared
        exact ⟨a, found, List.getElem?_tail ▸ holds⟩

-- Positions are counted from where binding starts.
theorem bind_params_first_bad (params : List Param) (position : Nat) (args : List Value) (i : Nat)
    (p : Param) (first : FirstBad params args i p) :
    bindParams params position args = .error (p.fault (position + i) args[i]?) := by
  induction params generalizing position args i with
  | nil => cases first.declared
  | cons q rest ih =>
    cases i with
    | zero =>
      cases first.declared
      rw [bind_params_cons, Param.bind_bad position first.bad]
      rfl
    | succ i =>
      obtain ⟨here, later⟩ := (first_bad_cons q rest args i p).1 first
      obtain ⟨a, head, _⟩ := Param.bind_good position here
      rw [bind_params_cons, head, ih (position + 1) args.tail i later, List.getElem?_tail,
        Nat.add_assoc, Nat.add_comm 1 i]
      rfl

theorem good_or_first_bad (params : List Param) (args : List Value) :
    AllGood params args ∨ ∃ i p, FirstBad params args i p := by
  induction params generalizing args with
  | nil => exact .inl nofun
  | cons p rest ih =>
    by_cases here : p.Good args[0]?
    · rcases ih args.tail with later | ⟨i, q, first⟩
      · exact .inl ((all_good_cons p rest args).2 ⟨here, later⟩)
      · exact .inr ⟨i + 1, q, (first_bad_cons p rest args i q).2 ⟨here, first⟩⟩
    · exact .inr ⟨0, p, rfl, here, nofun⟩

theorem FirstBad.not_all_good {params : List Param} {args : List Value} {i : Nat} {p : Param}
    (first : FirstBad params args i p) : ¬ AllGood params args :=
  fun good => first.bad (good i p first.declared)

theorem bind_params_congr (params : List Param) (position : Nat) (args others : List Value)
    (same : ∀ i < params.length, others[i]? = args[i]?) :
    bindParams params position others = bindParams params position args := by
  induction params generalizing position args others with
  | nil => rfl
  | cons p rest ih =>
    have tail := ih (position + 1) args.tail others.tail fun i below => by
      rw [List.getElem?_tail, List.getElem?_tail]
      exact same (i + 1) (Nat.succ_lt_succ below)
    rw [bind_params_cons, bind_params_cons, same 0 (Nat.succ_pos _), tail]

theorem bind_error_iff (s : Signature) (args : List Value) (e : BridgeError) :
    s.bind args = .error e ↔ ∃ i p, FirstBad s.params args i p ∧ e = p.fault i args[i]? := by
  constructor
  · intro refused
    rcases good_or_first_bad s.params args with good | ⟨i, p, first⟩
    · obtain ⟨bound, done, _⟩ := bind_params_good s.params 0 args good
      cases refused.symm.trans done
    · have failed := bind_params_first_bad s.params 0 args i p first
      rw [Nat.zero_add] at failed
      exact ⟨i, p, first, Except.error.inj (refused.symm.trans failed)⟩
  · intro ⟨i, p, first, same⟩
    have failed := bind_params_first_bad s.params 0 args i p first
    rw [Nat.zero_add] at failed
    rw [same]
    exact failed

theorem bind_ok_holds (s : Signature) (args : List Value) (bound : List Argument)
    (fits : s.bind args = .ok bound) :
    bound.length = s.arity ∧ ∀ (i : Nat) (p : Param), s.params[i]? = some p →
      ∃ a, bound[i]? = some a ∧ p.Good args[i]? ∧ p.Holds args[i]? a := by
  rcases good_or_first_bad s.params args with good | ⟨i, p, first⟩
  · obtain ⟨others, done, size, held⟩ := bind_params_good s.params 0 args good
    cases fits.symm.trans done
    refine ⟨size, fun i p declared => ?_⟩
    obtain ⟨a, found, holds⟩ := held i p declared
    exact ⟨a, found, good i p declared, holds⟩
  · cases fits.symm.trans (bind_params_first_bad s.params 0 args i p first)

structure GoesByPosition (s : Signature) (args : List Value) : Prop where
  accepts : (∃ bound, s.bind args = .ok bound) ↔
    ∀ (i : Nat) (p : Param), s.params[i]? = some p → p.Good args[i]?
  binds : ∀ bound, s.bind args = .ok bound → bound.length = s.arity ∧
    ∀ (i : Nat) (p : Param), s.params[i]? = some p →
      ∃ a, bound[i]? = some a ∧ p.Holds args[i]? a
  refuses : ∀ e, s.bind args = .error e ↔
    ∃ i p, FirstBad s.params args i p ∧ e = p.fault i args[i]?
  ignores : ∀ others, (∀ i < s.arity, others[i]? = args[i]?) → s.bind others = s.bind args

theorem binding_goes_by_position (s : Signature) (args : List Value) : s.GoesByPosition args := by
  have failing : ∀ i p, FirstBad s.params args i p →
      s.bind args = .error (p.fault i args[i]?) := fun i p first => by
    have failed := bind_params_first_bad s.params 0 args i p first
    rwa [Nat.zero_add] at failed
  have congruent := bind_params_congr s.params 0 args
  rcases good_or_first_bad s.params args with good | ⟨i, p, first⟩
  · obtain ⟨bound, done, size, held⟩ := bind_params_good s.params 0 args good
    have done : s.bind args = .ok bound := done
    refine ⟨iff_of_true ⟨bound, done⟩ good, fun other same => ?_, fun e => ?_, congruent⟩
    · cases done.symm.trans same
      exact ⟨size, held⟩
    · rw [done]
      refine iff_of_false nofun ?_
      rintro ⟨i, p, first, _⟩
      exact first.not_all_good good
  · have failed := failing i p first
    refine ⟨?_, fun bound done => ?_, fun e => ⟨fun same => ?_, ?_⟩, congruent⟩
    · rw [failed]
      exact iff_of_false nofun first.not_all_good
    · cases failed.symm.trans done
    · cases failed.symm.trans same
      exact ⟨i, p, first, rfl⟩
    · rintro ⟨j, q, other, rfl⟩
      exact failing j q other

-- The optional parameter is content with `undefined`; the required one after it has nothing.
example : (⟨[⟨.object, true⟩, ⟨.string, false⟩], .void⟩ : Signature).bind [.undefined] =
    .error (.missingArgument 1) := rfl

end Signature

end HostBridge
