import HostBridge.Proofs.Ads.Methods
import HostBridge.Proofs.Bridge.Gate
import HostBridge.Proofs.Number.Truncation

set_option autoImplicit false

namespace HostBridge

namespace Binary64

variable (x : Binary64)

def NoInt32 : Prop :=
  x.isNaN = true ∨ x.isInfinite = true ∨
    x.scaled.tdiv grainsPerOne < -2147483648 ∨ 2147483647 < x.scaled.tdiv grainsPerOne

def WithinUnit : Prop := x.isFinite = true ∧ 0 ≤ x.scaled ∧ x.scaled ≤ grainsPerOne

theorem endless_iff : x.isNaN = true ∨ x.isInfinite = true ↔ x.isFinite = false := by
  by_cases top : x.biased = 2047 <;> by_cases whole : x.fraction = 0 <;>
    simp [isNaN, isInfinite, isFinite, top, whole]

theorem int32_none_iff : x.toInt32? = none ↔ x.NoInt32 := by
  unfold toInt32? NoInt32
  rw [← or_assoc, x.endless_iff]
  cases finite : x.isFinite with
  | false => simp [truncated?, finite]
  | true =>
    generalize whole : x.scaled.tdiv grainsPerOne = i
    rw [x.truncated_of_finite finite, whole, Option.filter_eq_none_iff]
    simp only [fitsInt32, decide_eq_true_eq, reduceCtorEq, false_or]
    constructor
    · intro unfit
      have outside := unfit i rfl
      omega
    · intro outside j same
      cases same
      omega

theorem within_unit_iff : x.inUnitInterval = true ↔ x.WithinUnit := by
  simp [inUnitInterval, WithinUnit]

end Binary64

namespace Ads

theorem request_id_error_iff (x : Binary64) :
    (∃ f, requestIdOf x = .error f) ↔ x.NoInt32 := by
  rw [← x.int32_none_iff]
  unfold requestIdOf
  cases x.toInt32? <;> simp

theorem number_binds (types : List Param) (returns : Returns) (args : List Value)
    (bound : Arguments)
    (fits : (⟨⟨.number, false⟩ :: types, returns⟩ : Signature).bind args = .ok bound) :
    ∃ x others, args.head? = some (.number x) ∧ bound = .number x :: others := by
  obtain ⟨_, others, first, _, rfl⟩ := Signature.bindParams_cons _ _ _ _ _ fits
  obtain ⟨x, given, rfl⟩ := Param.bind_number _ _ _ first
  exact ⟨x, others, given, rfl⟩

theorem request_refuses_argument (p : PromiseMethod) (args : List Value) (bound : Arguments)
    (fits : p.signature.bind args = .ok bound) :
    (∃ f, p.request bound = .error f ∧ f.code = "bridge/argument") ↔
      ∃ format x, p = .present format ∧ args.head? = some (.number x) ∧ x.NoInt32 := by
  constructor
  · rintro ⟨f, failed, code⟩
    have other : f.code ≠ "googleMobileAds/invalid-options" := by simp [code]
    cases p with
    | present format =>
      obtain ⟨x, others, given, same⟩ := number_binds _ _ args bound fits
      obtain ⟨_, adUnitId, options, rfl, _⟩ := show_binds args bound fits
      cases same
      refine ⟨format, x, rfl, given, (request_id_error_iff x).1 ?_⟩
      cases truncated : requestIdOf x with
      | error g => exact ⟨g, rfl⟩
      | ok requestId =>
        rw [PromiseMethod.request, showRequest, truncated] at failed
        exact absurd (options_request_error 2 options _ f failed) other
    | setRequestConfiguration =>
      obtain ⟨options, rfl, _⟩ := options_bind args bound fits
      exact absurd (options_request_error 0 options _ f failed) other
    | requestInfoUpdate =>
      obtain ⟨options, rfl, _⟩ := options_bind args bound fits
      exact absurd (options_request_error 0 options _ f failed) other
    | loadNative =>
      obtain ⟨adUnitId, fields, rfl⟩ := native_binds args bound fits
      exact absurd (options_request_error 1 (.object fields) _ f failed) other
    | _ =>
      obtain rfl := nothing_binds _ args bound fits
      cases failed
  · rintro ⟨format, x, rfl, given, unfit⟩
    obtain ⟨f, truncated⟩ := (request_id_error_iff x).2 unfit
    obtain ⟨y, others, also, same⟩ := number_binds _ _ args bound fits
    obtain ⟨_, adUnitId, options, rfl, _⟩ := show_binds args bound fits
    cases given.symm.trans also
    cases same
    refine ⟨f, ?_, request_id_error x f truncated⟩
    rw [PromiseMethod.request, showRequest, truncated]
    rfl

theorem inquiry_never_argument (inquiry : Inquiry) (p : PromiseMethod) (backend : Backend)
    (f : Failure) (failed : inquiry.outcome p.space backend = .error f) :
    f.code ≠ "bridge/argument" := by
  have spaces : p.space = "googleMobileAds" ∨ p.space = "consent" := by
    cases p <;> simp [PromiseMethod.space]
  -- The first letters tell the codes apart.
  have apart : ∀ code : String, p.space ++ "/" ++ code ≠ "bridge/argument" := by
    intro code same
    have first := congrArg (fun text => text.toList.head?) same
    rcases spaces with space | space <;> simp [space, String.toList_append] at first
  unfold Inquiry.outcome at failed
  split at failed <;> cases failed
  · exact apart _
  · simp

section Calls

variable {b : Bridge Backend Act} {start : Host Backend Act}

def Misnumbers (c : Invocation b start) (suffix : String) : Prop :=
  ∃ (format : Format) (x : Binary64), c.module = format.moduleName ∧
    c.method = s!"{format.stem}{suffix}" ∧ c.args.head? = some (.number x) ∧ x.NoInt32

def Overdrives (c : Invocation b start) : Prop :=
  c.module = coreModuleName ∧ c.method = "setAppVolume" ∧
    ∃ x, c.args.head? = some (.number x) ∧ ¬ x.WithinUnit

/-- How a call of the ads can fail once its arguments are bound: in none but these ways. -/
structure Agrees (c : Invocation b start) : Prop where
  shaped : ∀ method declared returned,
    c.reply ≠ some (.error (.returnShapeMismatch method declared returned))
  failed : ∀ f, c.reply = some (.error (.handler f)) →
    f.code = "bridge/argument" ∧ Misnumbers c "Load" ∨
      f.code = "googleMobileAds/invalid-volume" ∧ Overdrives c
  bound : ∀ found bound, b.target c.module c.method c.args = .ok (found, bound) →
    (Misnumbers c "Load" → ∃ f, c.reply = some (.error (.handler f)) ∧ f.code = "bridge/argument") ∧
    (Overdrives c →
      ∃ f, c.reply = some (.error (.handler f)) ∧ f.code = "googleMobileAds/invalid-volume") ∧
    (¬ Misnumbers c "Load" → ¬ Overdrives c → ∃ reply, c.reply = some (.ok reply))
  carried : ∀ id, c.reply = some (.ok (.pending id)) →
    ((∃ f, c.last.results.outcome? id = some (.error f) ∧ f.code = "bridge/argument") ↔
      Misnumbers c "Show")

end Calls

section Built

variable {config : Config} {processors : Nat} {b : Bridge Backend Act}
  {start : Host Backend Act} (built : build config processors = .ok (b, start))
  (c : Invocation b start)

include built

theorem load_replies (format : Format) (module : c.module = format.moduleName)
    (method : c.method = s!"{format.stem}Load") (found : Method Backend Act) (bound : Arguments)
    (reached : b.target c.module c.method c.args = .ok (found, bound)) :
    ∃ x, c.args.head? = some (.number x) ∧
      (x.NoInt32 → ∃ f, c.reply = some (.error (.handler f)) ∧ f.code = "bridge/argument") ∧
      (¬ x.NoInt32 → c.reply = some (.ok .void)) := by
  obtain ⟨all, _, _, rfl⟩ := build_put built
  obtain ⟨resolved, fits⟩ := b.resolve_of_target _ _ _ found bound reached
  rw [module, method, load_resolves built format] at resolved
  cases resolved
  have shaped := c.void_shaped _ bound reached _ rfl rfl
  obtain ⟨x, adUnitId, fields, rest, given, rfl⟩ := load_binds c.args bound fits
  simp only [load_handled] at shaped
  refine ⟨x, by rw [given]; rfl, fun unfit => ?_, fun fit => ?_⟩
  · obtain ⟨f, truncated⟩ := (request_id_error_iff x).2 unfit
    rw [truncated] at shaped
    exact ⟨f, (shaped.failed f).2 rfl, request_id_error x f truncated⟩
  · cases truncated : requestIdOf x with
    | error f => exact absurd ((request_id_error_iff x).1 ⟨f, truncated⟩) fit
    | ok requestId =>
      rw [truncated] at shaped
      refine shaped.done.2 ?_
      cases decoded RequestOptions 2 (.object fields) with
      | error f => exact ⟨⟨_, rfl⟩, fun ⟨_, _, _, same, _⟩ => by cases same⟩
      | ok options =>
        refine ⟨⟨_, rfl⟩, fun ⟨_, _, _, same, _, broke⟩ => ?_⟩
        cases same
        cases broke

theorem setter_replies (s : Setter) (module : c.module = s.module) (method : c.method = s.name)
    (found : Method Backend Act) (bound : Arguments)
    (reached : b.target c.module c.method c.args = .ok (found, bound)) :
    (∀ f, c.reply = some (.error (.handler f)) ↔ s.fault? c.args = some f) ∧
      (s.fault? c.args = none → c.reply = some (.ok .void)) := by
  obtain ⟨resolved, fits⟩ := b.resolve_of_target _ _ _ found bound reached
  rw [module, method, setter_resolves built s] at resolved
  cases resolved
  obtain ⟨call, _, invoked⟩ := setter_invoked built s c.host c.args bound fits
  rw [← module, ← method] at invoked
  rw [Invocation.reply, invoked]
  cases s.fault? c.args <;> simp

theorem overdriven_replies (overdriven : Overdrives c) (found : Method Backend Act)
    (bound : Arguments) (reached : b.target c.module c.method c.args = .ok (found, bound)) :
    ∃ f, c.reply = some (.error (.handler f)) ∧ f.code = "googleMobileAds/invalid-volume" := by
  obtain ⟨module, method, volume, given, outside⟩ := overdriven
  obtain ⟨failed, _⟩ := setter_replies built c .setAppVolume module method found bound reached
  have unfit : volume.inUnitInterval = false :=
    Bool.eq_false_iff.2 fun within => outside (volume.within_unit_iff.1 within)
  exact ⟨invalidVolume volume, (failed _).2 ((fault_iff _ _ _).2 ⟨rfl, volume, given, unfit, rfl⟩),
    rfl⟩

theorem promise_replies (p : PromiseMethod) (module : c.module = p.module)
    (method : c.method = p.name) (found : Method Backend Act) (bound : Arguments)
    (reached : b.target c.module c.method c.args = .ok (found, bound)) :
    ∃ id, c.reply = some (.ok (.pending id)) ∧
      ((∃ f, c.last.results.outcome? id = some (.error f) ∧ f.code = "bridge/argument") ↔
        ∃ format x, p = .present format ∧ c.args.head? = some (.number x) ∧ x.NoInt32) := by
  obtain ⟨all, _, _, rfl⟩ := build_put built
  obtain ⟨resolved, fits⟩ := b.resolve_of_target _ _ _ found bound reached
  rw [module, method, promise_resolves built p] at resolved
  cases resolved
  simp only [← request_refuses_argument p c.args bound fits]
  have promise : p.signature.returns = .promise := by cases p <;> rfl
  have shaped := c.promise_shaped _ bound reached _ rfl promise
  simp only [promise_handled p c.args bound fits, Reaction.quiet] at shaped
  cases requested : p.request bound with
  | error g =>
    rw [requested] at shaped
    obtain ⟨id, replied, _, _, settles⟩ := shaped
    refine ⟨id, replied, ?_⟩
    rw [settles.final]
    simp
  | ok inquiry =>
    rw [requested] at shaped
    obtain ⟨replied, makes⟩ := shaped
    obtain ⟨fate, _, unspilled, refused, _, owed⟩ := makes.followed
    refine ⟨_, replied, ?_⟩
    rw [(owed _ rfl).1]
    refine ⟨fun ⟨f, ended, code⟩ => ?_, fun ⟨f, same, _⟩ => by cases same⟩
    exfalso
    cases fate with
    | waiting => cases ended
    | running worker => cases ended
    | refused g =>
      cases ended
      rcases refusal_grounds c.host.pool f ((refused f).2 rfl) with rfl | rfl <;>
        simp [Failure.queueFull, Failure.poolClosed] at code
    | spilled worker backend => exact unspilled worker backend rfl
    | dropped =>
      cases ended
      simp [Failure.abandoned] at code
    | finished worker backend =>
      have answered := (inquiry_ends inquiry p.space _ backend).symm.trans (Option.some.inj ended)
      exact inquiry_never_argument inquiry p backend f answered code

theorem bound_call_ends (found : Method Backend Act) (bound : Arguments)
    (reached : b.target c.module c.method c.args = .ok (found, bound)) :
    (∃ reply, c.reply = some (.ok reply) ∧ ∀ id, reply = .pending id →
      (∃ f, c.last.results.outcome? id = some (.error f) ∧ f.code = "bridge/argument") →
        Misnumbers c "Show") ∨
    ∃ f, c.reply = some (.error (.handler f)) ∧
      (f.code = "bridge/argument" ∧ Misnumbers c "Load" ∨
        f.code = "googleMobileAds/invalid-volume" ∧ Overdrives c) := by
  obtain ⟨method, module, name, rfl, fits⟩ :=
    called_method built c.module c.method c.args found bound reached
  cases method with
  | load format =>
    obtain ⟨x, given, refused, accepted⟩ := load_replies built c format module name _ bound reached
    by_cases unfit : x.NoInt32
    · obtain ⟨f, replied, code⟩ := refused unfit
      exact Or.inr ⟨f, replied, Or.inl ⟨code, format, x, module, name, given, unfit⟩⟩
    · exact Or.inl ⟨.void, accepted unfit, fun id same => by cases same⟩
  | promise p =>
    obtain ⟨id, replied, carried⟩ := promise_replies built c p module name _ bound reached
    refine Or.inl ⟨.pending id, replied, fun other same failed => ?_⟩
    cases same
    obtain ⟨format, x, rfl, given, unfit⟩ := carried.1 failed
    exact ⟨format, x, module, name, given, unfit⟩
  | setter s =>
    obtain ⟨failed, done⟩ := setter_replies built c s module name _ bound reached
    cases fault : s.fault? c.args with
    | none => exact Or.inl ⟨.void, done fault, fun id same => by cases same⟩
    | some f =>
      obtain ⟨rfl, volume, given, outside, rfl⟩ := (fault_iff s c.args f).1 fault
      refine Or.inr ⟨_, (failed _).2 fault, Or.inr ⟨rfl, module, name, volume, given, ?_⟩⟩
      rw [← volume.within_unit_iff, outside]
      exact Bool.false_ne_true
  | constants =>
    have replied : c.reply = some (.ok (.value constants)) := by
      rw [Invocation.reply, module, name]
      exact congrArg (fun result => result.2.2) (constants_invoked built c.host c.args)
    exact Or.inl ⟨_, replied, fun id same => by cases same⟩

theorem handlers_agree_with_signatures : Agrees c := by
  obtain ⟨all, made, put, _⟩ := build_put built
  cases reached : b.target c.module c.method c.args with
  | error e =>
    have replied : c.reply = some (.error e) := by rw [Invocation.reply, Bridge.invoke, reached]
    have shape : e.isShapeError = true := gate_error_shape all c.module c.method c.args e
      ((gate_iff all b put c.module c.method c.args _).2 reached)
    refine ⟨fun method declared returned same => ?_, fun f same => ?_,
      fun found bound same => ?_, fun id same => ?_⟩
    · rw [Except.error.inj (Option.some.inj (replied.symm.trans same))] at shape
      cases shape
    · rw [Except.error.inj (Option.some.inj (replied.symm.trans same))] at shape
      cases shape
    · cases reached.symm.trans same
    · cases replied.symm.trans same
  | ok pair =>
    obtain ⟨found, bound⟩ := pair
    have ends := bound_call_ends built c found bound reached
    refine ⟨fun method declared returned same => ?_, fun f same => ?_,
      fun found' bound' same => ⟨?_, ?_, fun numbered moderate => ?_⟩, fun id same => ⟨?_, ?_⟩⟩
    · obtain ⟨reply, replied, _⟩ | ⟨f, replied, _⟩ := ends <;> cases replied.symm.trans same
    · obtain ⟨reply, replied, _⟩ | ⟨g, replied, excused⟩ := ends <;> cases replied.symm.trans same
      exact excused
    · rintro ⟨format, x, module, name, given, unfit⟩
      obtain ⟨y, also, refused, _⟩ := load_replies built c format module name found bound reached
      cases given.symm.trans also
      exact refused unfit
    · exact fun overdriven => overdriven_replies built c overdriven found bound reached
    · obtain ⟨reply, replied, _⟩ | ⟨f, _, ⟨_, misnumbered⟩ | ⟨_, overdriven⟩⟩ := ends
      · exact ⟨reply, replied⟩
      · exact absurd misnumbered numbered
      · exact absurd overdriven moderate
    · obtain ⟨reply, replied, carried⟩ | ⟨f, replied, _⟩ := ends <;> cases replied.symm.trans same
      exact carried id rfl
    · rintro ⟨format, x, module, name, given, unfit⟩
      obtain ⟨own, replied, carried⟩ :=
        promise_replies built c (.present format) module name found bound reached
      cases replied.symm.trans same
      exact carried.2 ⟨format, x, rfl, given, unfit⟩

end Built

def misnumberedShow : Invocation sampleAds.1 sampleAds.2 where
  before := [.close]
  host := sampleAds.2.close.1
  earlier := sampleAds.2.close.2
  reached := rfl
  module := Format.interstitial.moduleName
  method := s!"{Format.interstitial.stem}Show"
  args := [.number (.ofInt 2147483648), .string "unit"]
  after := []
  last := _
  later := _
  ran := rfl

set_option maxRecDepth 4000 in
theorem misnumbered_show_agrees : misnumberedShow.reply = some (.ok (.pending 0)) ∧
    Misnumbers misnumberedShow "Show" ∧ Agrees misnumberedShow :=
  ⟨rfl, ⟨.interstitial, .ofInt 2147483648, rfl, rfl, rfl, Or.inr (Or.inr (by decide +kernel))⟩,
    handlers_agree_with_signatures sample_built misnumberedShow⟩

end Ads

end HostBridge
