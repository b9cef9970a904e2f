import HostBridge.Proofs.Signature.Binding

set_option autoImplicit false

namespace HostBridge.Signature

def Trailing (s : Signature) : Prop :=
  s.params.Pairwise fun p q => p.optional = true → q.optional = true

structure Misplaces (params : List Param) (fault : Misplaced) : Prop where
  optional : ∃ p, params[fault.optional]? = some p ∧ p.optional = true
  leading : ∀ (i : Nat) (p : Param), i < fault.optional → params[i]? = some p → p.optional = false
  required : ∃ p, params[fault.required]? = some p ∧ p.optional = false
  after : fault.optional < fault.required
  between : ∀ (i : Nat) (p : Param), fault.optional < i → i < fault.required →
    params[i]? = some p → p.optional = true

def Coerces (s : Signature) (args : List Value) : Prop :=
  ∀ (i : Nat) (v : Value) (p : Param), args[i]? = some v → s.params[i]? = some p →
    ∃ a, p.type.accept v = some a

section Check

variable (p : Param) (rest : List Param) (returns : Returns)

theorem find_index_iff {α : Type} (test : α → Bool) (items : List α) (i : Nat) :
    items.findIdx? test = some i ↔ (∃ x, items[i]? = some x ∧ test x = true) ∧
      ∀ (j : Nat) (x : α), j < i → items[j]? = some x → test x = false := by
  rw [List.findIdx?_eq_some_iff_getElem]
  constructor
  · intro ⟨inside, found, earlier⟩
    refine ⟨⟨items[i], List.getElem?_eq_getElem inside, found⟩, fun j x before here => ?_⟩
    obtain ⟨_, rfl⟩ := List.getElem?_eq_some_iff.1 here
    exact Bool.eq_false_iff.2 (earlier j before)
  · intro ⟨⟨x, here, found⟩, earlier⟩
    obtain ⟨inside, rfl⟩ := List.getElem?_eq_some_iff.1 here
    refine ⟨inside, found, fun j before holds => ?_⟩
    have short : j < items.length := Nat.lt_trans before inside
    rw [earlier j items[j] before (List.getElem?_eq_getElem short)] at holds
    cases holds

theorem misplaced_iff (s : Signature) (fault : Misplaced) :
    s.misplaced? = some fault ↔ Misplaces s.params fault := by
  simp only [misplaced?, Option.bind_eq_bind, Option.bind_eq_some_iff, find_index_iff,
    List.getElem?_drop, Bool.not_eq_true', Bool.not_eq_false', Option.some.injEq]
  constructor
  · rintro ⟨first, ⟨optional, leading⟩, offset, ⟨required, between⟩, rfl⟩
    have apart : offset ≠ 0 := by
      rintro rfl
      obtain ⟨p, here, isOptional⟩ := optional
      obtain ⟨q, there, isRequired⟩ := required
      cases here.symm.trans there
      cases isOptional.symm.trans isRequired
    refine ⟨optional, leading, required, Nat.lt_add_of_pos_right (Nat.pos_of_ne_zero apart), ?_⟩
    intro i q later earlier declared
    simp only at later earlier
    refine between (i - first) q (by omega) ?_
    rw [Nat.add_sub_cancel' (Nat.le_of_lt later)]
    exact declared
  · obtain ⟨last, first⟩ := fault
    rintro ⟨optional, leading, required, after, between⟩
    simp only at after between
    have back : first + (last - first) = last := Nat.add_sub_cancel' (Nat.le_of_lt after)
    refine ⟨first, ⟨optional, leading⟩, last - first, ⟨back.symm ▸ required, ?_⟩, by rw [back]⟩
    intro j q before declared
    by_cases same : j = 0
    · obtain ⟨p, here, isOptional⟩ := optional
      subst same
      cases here.symm.trans declared
      exact isOptional
    · exact between (first + j) q (by omega) (by omega) declared

theorem misplaced_cons : misplaced? ⟨p :: rest, returns⟩ =
    if p.optional then (rest.findIdx? (!·.optional)).map fun i => ⟨i + 1, 0⟩
    else (misplaced? ⟨rest, returns⟩).map
      fun fault => ⟨fault.required + 1, fault.optional + 1⟩ := by
  cases given : p.optional with
  | true =>
    simp only [misplaced?, List.findIdx?_cons, given, Option.bind_eq_bind, if_true,
      Option.bind_some, List.drop_zero, Bool.not_true, Bool.false_eq_true, if_false]
    cases rest.findIdx? (!·.optional) <;> simp
  | false =>
    simp only [misplaced?, List.findIdx?_cons, given, Option.bind_eq_bind, Bool.false_eq_true,
      if_false]
    cases rest.findIdx? (·.optional) with
    | none => rfl
    | some first =>
      simp only [Option.map_some, Option.bind_some, List.drop_succ_cons]
      cases (rest.drop first).findIdx? (!·.optional) with
      | none => rfl
      | some offset => simp [Nat.add_right_comm]

theorem trailing_cons : Trailing ⟨p :: rest, returns⟩ ↔
    (p.optional = true → ∀ q ∈ rest, q.optional = true) ∧ Trailing ⟨rest, returns⟩ := by
  simp only [Trailing, List.pairwise_cons]
  exact and_congr_left fun _ => ⟨fun all given q member => all q member given,
    fun all q member given => all given q member⟩

theorem trailing_of_optional (all : ∀ q ∈ rest, q.optional = true) :
    Trailing ⟨rest, returns⟩ :=
  List.pairwise_of_forall_mem_list fun _ _ q member _ => all q member

theorem checked_iff (s : Signature) : s.misplaced? = none ↔ s.Trailing := by
  obtain ⟨params, returns⟩ := s
  induction params with
  | nil => exact iff_of_true rfl List.Pairwise.nil
  | cons p rest ih =>
    rw [misplaced_cons, trailing_cons]
    by_cases given : p.optional = true
    · simp only [given, if_true, Option.map_eq_none_iff, List.findIdx?_eq_none_iff, forall_const,
        Bool.not_eq_false']
      exact ⟨fun all => ⟨all, trailing_of_optional rest returns all⟩, And.left⟩
    · simp only [given, Bool.false_eq_true, if_false, Option.map_eq_none_iff, ih, false_implies,
        true_and]

theorem required_arity_cons : requiredArity ⟨p :: rest, returns⟩ =
    if p.optional then 0 else requiredArity ⟨rest, returns⟩ + 1 := by
  cases given : p.optional <;> simp [requiredArity, given]

theorem counted_iff (s : Signature) :
    s.Trailing ↔ s.requiredArity = s.params.countP (!·.optional) := by
  obtain ⟨params, returns⟩ := s
  induction params with
  | nil => exact iff_of_true List.Pairwise.nil rfl
  | cons p rest ih =>
    rw [trailing_cons, required_arity_cons, List.countP_cons, ih]
    by_cases given : p.optional = true
    · have none : rest.countP (!·.optional) = 0 ↔ ∀ q ∈ rest, q.optional = true := by
        simp [List.countP_eq_zero]
      have all := trailing_of_optional rest returns
      simp only [given, if_true, forall_const, Bool.not_true, Bool.false_eq_true, if_false,
        Nat.add_zero, ← none, eq_comm (a := 0)] at all ⊢
      exact ⟨And.left, fun zero => ⟨zero, ih.1 (all zero)⟩⟩
    · simp [given]

end Check

section Positions

variable (s : Signature) (i : Nat) (p : Param) (declared : s.params[i]? = some p)

include declared

theorem required_of_leading (leading : i < s.requiredArity) : p.optional = false := by
  obtain ⟨params, returns⟩ := s
  induction params generalizing i with
  | nil => cases declared
  | cons q rest ih =>
    rw [required_arity_cons] at leading
    by_cases given : q.optional = true
    · simp only [given, if_true, Nat.not_lt_zero] at leading
    · cases i with
      | zero =>
        cases declared
        exact Bool.eq_false_iff.2 given
      | succ i =>
        rw [if_neg given] at leading
        exact ih i declared (Nat.lt_of_succ_lt_succ leading)

theorem optional_of_trailing (trailing : s.Trailing) (late : s.requiredArity ≤ i) :
    p.optional = true := by
  obtain ⟨params, returns⟩ := s
  induction params generalizing i with
  | nil => cases declared
  | cons q rest ih =>
    obtain ⟨all, tail⟩ := (trailing_cons q rest returns).1 trailing
    rw [required_arity_cons] at late
    by_cases given : q.optional = true
    · cases i with
      | zero =>
        cases declared
        exact given
      | succ i => exact all given p (List.mem_of_getElem? declared)
    · rw [if_neg given] at late
      cases i with
      | zero => omega
      | succ i => exact ih i declared tail (Nat.le_of_succ_le_succ late)

end Positions

theorem required_arity_le (s : Signature) : s.requiredArity ≤ s.params.length :=
  (List.takeWhile_sublist _).length_le

theorem past_the_last (args : List Value) (p : Param) (required : p.optional = false) :
    ¬ p.Good args[args.length]? := by
  rw [List.getElem?_eq_none_iff.2 (Nat.le_refl _)]
  intro good
  rcases good with leftOut | ⟨v, supplied, _⟩
  · cases required.symm.trans leftOut.1
  · cases supplied

section Binding

variable (s : Signature) (trailing : s.Trailing) (args : List Value)

include trailing

theorem first_missing (i : Nat) (p : Param) (first : FirstBad s.params args i p)
    (missing : args[i]? = none) : i < s.requiredArity ∧ i = args.length := by
  have required : ¬ p.optional = true :=
    fun optional => first.bad (.inl ⟨optional, .inl missing⟩)
  have leading : i < s.requiredArity := Nat.lt_of_not_le fun late =>
    required (s.optional_of_trailing i p first.declared trailing late)
  have short : args.length ≤ i := List.getElem?_eq_none_iff.1 missing
  have bound := s.required_arity_le
  by_cases before : args.length < i
  · have inside : args.length < s.params.length := by omega
    have here := List.getElem?_eq_getElem inside
    have isRequired := s.required_of_leading args.length _ here (by omega)
    exact absurd (first.before args.length _ before here) (past_the_last args _ isRequired)
  · exact ⟨leading, by omega⟩

omit trailing in
theorem coerces_before (p : Param) (few : args.length < s.requiredArity)
    (first : FirstBad s.params args args.length p) : s.Coerces args := by
  intro j v q supplied declared
  have before : j < args.length := (List.getElem?_eq_some_iff.1 supplied).1
  have isRequired := s.required_of_leading j q declared (Nat.lt_trans before few)
  rcases first.before j q before declared with leftOut | ⟨w, also, kind⟩
  · cases isRequired.symm.trans leftOut.1
  · cases supplied.symm.trans also
    exact (q.type.accepted_iff v).2 kind

omit trailing in
theorem first_bad_of_few (few : args.length < s.requiredArity) (coerces : s.Coerces args) :
    ∃ p, FirstBad s.params args args.length p := by
  have inside : args.length < s.params.length := Nat.lt_of_lt_of_le few s.required_arity_le
  have here := List.getElem?_eq_getElem inside
  have isRequired := s.required_of_leading args.length _ here few
  refine ⟨_, here, past_the_last args _ isRequired, fun j q before declared => ?_⟩
  have supplied := List.getElem?_eq_getElem before
  exact .inr ⟨_, supplied, (q.type.accepted_iff _).1 (coerces j _ q supplied declared)⟩

theorem missing_iff (position : Nat) : s.bind args = .error (.missingArgument position) ↔
    args.length < s.requiredArity ∧ s.Coerces args ∧ position = args.length := by
  rw [bind_error_iff]
  constructor
  · intro ⟨i, p, first, same⟩
    cases missing : args[i]? with
    | none =>
      rw [missing] at same
      obtain ⟨few, rfl⟩ := s.first_missing trailing args i p first missing
      exact ⟨few, s.coerces_before args p few first, BridgeError.missingArgument.inj same⟩
    | some v =>
      rw [missing] at same
      cases same
  · intro ⟨few, coerces, same⟩
    obtain ⟨p, first⟩ := s.first_bad_of_few args few coerces
    refine ⟨args.length, p, first, ?_⟩
    rw [same, List.getElem?_eq_none_iff.2 (Nat.le_refl _)]
    rfl

omit trailing in
theorem bind_params_alike (params : List Param) (position : Nat) (args others : List Value)
    (alike : ∀ (i : Nat) (p : Param), params[i]? = some p →
      ∀ place, p.bind place others[i]? = p.bind place args[i]?) :
    bindParams params position others = bindParams params position args := by
  induction params generalizing position args others with
  | nil => rfl
  | cons p rest ih =>
    have tail := ih (position + 1) args.tail others.tail fun i q declared place => by
      rw [List.getElem?_tail, List.getElem?_tail]
      exact alike (i + 1) q declared place
    rw [bind_params_cons, bind_params_cons, alike 0 p rfl position, tail]

theorem bind_padded (count : Nat) (enough : s.requiredArity ≤ args.length) :
    s.bind (args ++ List.replicate count .undefined) = s.bind args := by
  apply bind_params_alike
  intro i p declared place
  by_cases supplied : i < args.length
  · rw [List.getElem?_append_left supplied]
  · have late : args.length ≤ i := Nat.le_of_not_lt supplied
    have optional := s.optional_of_trailing i p declared trailing (Nat.le_trans enough late)
    have missing : args[i]? = none := List.getElem?_eq_none_iff.2 late
    have leftOut : p.LeftOut args[i]? := ⟨optional, .inl missing⟩
    have padded : p.LeftOut (args ++ List.replicate count .undefined)[i]? := by
      refine ⟨optional, ?_⟩
      rw [List.getElem?_append_right late, List.getElem?_replicate]
      split
      · exact .inr rfl
      · exact .inl rfl
    rw [Param.bind_left_out place padded, Param.bind_left_out place leftOut]

end Binding

/-- What is known of a signature that is checked, and what the check says of one that is not. -/
structure ArityCounts (s : Signature) : Prop where
  checked : s.misplaced? = none ↔ s.Trailing
  counted : s.misplaced? = none ↔ s.requiredArity = s.params.countP (!·.optional)
  reported : ∀ fault, s.misplaced? = some fault ↔ Misplaces s.params fault
  missing : s.misplaced? = none → ∀ args position,
    s.bind args = .error (.missingArgument position) ↔
      args.length < s.requiredArity ∧ s.Coerces args ∧ position = args.length
  padded : s.misplaced? = none → ∀ args count, s.requiredArity ≤ args.length →
    s.bind (args ++ List.replicate count .undefined) = s.bind args

theorem checked_arity_counts (s : Signature) : s.ArityCounts where
  checked := s.checked_iff
  counted := s.checked_iff.trans s.counted_iff
  reported := s.misplaced_iff
  missing check args position := s.missing_iff (s.checked_iff.1 check) args position
  padded check args count enough := s.bind_padded (s.checked_iff.1 check) args count enough

-- The second parameter is required though the first one can be left out.
example : (⟨[⟨.object, true⟩, ⟨.string, false⟩], .void⟩ : Signature).misplaced? = some ⟨1, 0⟩ := rfl

end HostBridge.Signature
