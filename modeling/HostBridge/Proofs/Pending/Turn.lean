import HostBridge.Pending.Session

set_option autoImplicit false

namespace HostBridge.Pending

inductive Event where
  | settled (outcome : Settlement)
  | looked (seen : Option Settlement)
  | told (settled : Bool)

def Event.Shows (outcome : Option Settlement) : Event → Prop
  | settled _ => False
  | looked seen => seen = outcome
  | told isSettled => isSettled = outcome.isSome

def Answer.event? : Answer → Option Event
  | .seen outcome => some (.looked outcome)
  | .had there => some (.told there)
  | _ => none

namespace Operation

def ready? : Operation → Option Settlement
  | resolved v => some (.ok v)
  | rejected f => some (.error f)
  | _ => none

def use? : Operation → Option (Nat × Settlement)
  | resolve resolver v => some (resolver, .ok v)
  | reject resolver f => some (resolver, .error f)
  | settle resolver outcome => some (resolver, outcome)
  | dropResolver resolver => some (resolver, .error .abandoned)
  | _ => none

def asks? : Operation → Option Nat
  | isSettled handle => some handle
  | look handle => some handle
  | poll handle _ => some handle
  | _ => none

def settles? (op : Operation) : Option Settlement := op.ready?.or (op.use?.map Prod.snd)

def event? (op : Operation) (answer : Answer) : Option Event :=
  match op.settles? with
  | some outcome => some (.settled outcome)
  | none => answer.event?

theorem event_of_use (op : Operation) (number : Nat) (outcome : Settlement) (answer : Answer)
    (uses : op.use? = some (number, outcome)) : op.event? answer = some (.settled outcome) := by
  cases op with
  | resolve resolver v => cases uses; rfl
  | reject resolver f => cases uses; rfl
  | settle resolver outcome => cases uses; rfl
  | dropResolver resolver => cases uses; rfl
  | _ => cases uses

theorem event_of_ready (op : Operation) (outcome : Settlement) (answer : Answer)
    (made : op.ready? = some outcome) : op.event? answer = some (.settled outcome) := by
  simp [event?, settles?, made]

theorem event_of_asks (op : Operation) (handle : Nat) (answer : Answer)
    (asks : op.asks? = some handle) : op.event? answer = answer.event? := by
  cases op with
  | isSettled handle => rfl
  | look handle => rfl
  | poll handle w => rfl
  | _ => cases asks

end Operation

namespace Session

def subject? (s : Session) : Operation → Option PendingId
  | .create => some s.results.length
  | .resolved _ => some s.results.length
  | .rejected _ => some s.results.length
  | .clone handle => s.resultOf? handle
  | .dropHandle handle => s.resultOf? handle
  | .resolve resolver _ => (s.resolver? resolver).map Resolver.result
  | .reject resolver _ => (s.resolver? resolver).map Resolver.result
  | .settle resolver _ => (s.resolver? resolver).map Resolver.result
  | .dropResolver resolver => (s.resolver? resolver).map Resolver.result
  | .isSettled handle => s.resultOf? handle
  | .look handle => s.resultOf? handle
  | .poll handle _ => s.resultOf? handle

theorem subject_of_ready (s : Session) (op : Operation) (outcome : Settlement)
    (made : op.ready? = some outcome) : s.subject? op = some s.results.length := by
  cases op with
  | resolved v => rfl
  | rejected f => rfl
  | _ => cases made

theorem subject_of_use (s : Session) (op : Operation) (number : Nat) (outcome : Settlement)
    (uses : op.use? = some (number, outcome)) :
    s.subject? op = (s.resolver? number).map Resolver.result := by
  cases op with
  | resolve resolver v => cases uses; rfl
  | reject resolver f => cases uses; rfl
  | settle resolver outcome => cases uses; rfl
  | dropResolver resolver => cases uses; rfl
  | _ => cases uses

theorem subject_of_asks (s : Session) (op : Operation) (handle : Nat)
    (asks : op.asks? = some handle) : s.subject? op = s.resultOf? handle := by
  cases op with
  | isSettled handle => cases asks; rfl
  | look handle => cases asks; rfl
  | poll handle w => cases asks; rfl
  | _ => cases asks

-- Handles and resolvers belong to results that were made. A result has one resolver until it is
-- settled, and none from then on.
structure Sound (s : Session) : Prop where
  held : ∀ handle id, s.resultOf? handle = some id → id < s.results.length
  unused : ∀ number r, s.resolver? number = some r → r.used = false
  linked : ∀ number r, s.resolver? number = some r → r.result < s.results.length
  sole : ∀ number other r twin, s.resolver? number = some r → s.resolver? other = some twin →
    r.result = twin.result → number = other
  unsettled : ∀ id < s.results.length, s.results.outcome? id = none ↔
    ∃ number r, s.resolver? number = some r ∧ r.result = id

end Session

structure Polled (id : PendingId) (ps later : Pendings) : Prop where
  length : later.length = ps.length
  outcomes : ∀ other, later.outcome? other = ps.outcome? other
  others : ∀ other, other ≠ id → later[other]? = ps[other]?

theorem Polled.refl (id : PendingId) (ps : Pendings) : Polled id ps ps :=
  ⟨rfl, fun _ => rfl, fun _ _ => rfl⟩

theorem poll_polled (ps : Pendings) (id : PendingId) (w : Waker) :
    Polled id ps (ps.poll id w).1 := by
  unfold Pendings.poll
  cases there : ps[id]? with
  | none => exact Polled.refl id ps
  | some c =>
    have bound := (List.getElem?_eq_some_iff.1 there).1
    refine ⟨List.length_set, fun other => ?_, fun other differ => ?_⟩
    · by_cases same : other = id
      · subst same
        simp [Pendings.outcome?, List.getElem?_set_self bound, there, Cell.outcome_poll]
      · simp [Pendings.outcome?, List.getElem?_set_ne (Ne.symm same)]
    · exact List.getElem?_set_ne (Ne.symm differ)

theorem poll_seen (ps : Pendings) (id : PendingId) (w : Waker) :
    (ps.poll id w).2 = ps.outcome? id := by
  unfold Pendings.poll Pendings.outcome?
  cases ps[id]? with
  | none => rfl
  | some c => cases outcome : c.outcome <;> simp [Cell.poll, outcome]

theorem create_settled (ps : Pendings) (outcome : Settlement) :
    (Resolver.fresh ps.create.2).settle outcome ps.create.1 =
      ((ps.createSettled outcome).1, []) := by
  rw [Resolver.settle_eq]
  simp [Resolver.fresh, Pendings.create, Pendings.createSettled, Pendings.settle, Cell.settle,
    Cell.fresh]

inductive Turn (s : Session) : Operation → Session → Answer → Prop
  | create :
    Turn s .create
      { s with
        results := s.results ++ [Cell.fresh]
        handles := s.handles ++ [some s.results.length]
        resolvers := s.resolvers ++ [some (Resolver.fresh s.results.length)] }
      (.made s.handles.length s.resolvers.length)
  | ready (op : Operation) (outcome : Settlement) (made : op.ready? = some outcome) :
    Turn s op
      { s with
        results := s.results ++ [⟨some outcome, []⟩]
        handles := s.handles ++ [some s.results.length] }
      (.handle s.handles.length)
  | clone (handle : Nat) (id : PendingId) (held : s.resultOf? handle = some id) :
    Turn s (.clone handle) { s with handles := s.handles ++ [some id] }
      (.handle s.handles.length)
  | dropHandle (handle : Nat) :
    Turn s (.dropHandle handle) { s with handles := s.handles.set handle none } .done
  | use (op : Operation) (number : Nat) (r : Resolver) (outcome : Settlement) (wakes : List Nat)
      (uses : op.use? = some (number, outcome)) (there : s.resolver? number = some r) :
    Turn s op
      { s with
        results := (s.results.settle r.result outcome).1
        resolvers := s.resolvers.set number none
        wakes := wakes }
      (.had true)
  | ask (op : Operation) (handle : Nat) (id : PendingId) (results : Pendings) (wakes : List Nat)
      (answer : Answer) (event : Event) (asks : op.asks? = some handle)
      (held : s.resultOf? handle = some id) (polled : Polled id s.results results)
      (tells : answer.event? = some event) (shows : event.Shows (s.results.outcome? id)) :
    Turn s op { s with results := results, wakes := wakes } answer
  | idle (op : Operation) (wakes : List Nat) (answer : Answer) (gone : s.subject? op = none) :
    Turn s op { s with wakes := wakes } answer

theorem ready_turn (s : Session) (op : Operation) (outcome : Settlement)
    (made : op.ready? = some outcome) :
    Turn s op (s.addSettled outcome).1 (s.addSettled outcome).2 := by
  have settled := create_settled s.results outcome
  unfold Session.addSettled
  simp only [settled]
  exact Turn.ready op outcome made

theorem use_turn (s : Session) (op : Operation) (number : Nat) (outcome : Settlement)
    (act : Resolver → Pendings → Pendings × List Waker) (uses : op.use? = some (number, outcome))
    (acts : ∀ r, s.resolver? number = some r →
      act r s.results = s.results.settle r.result outcome) :
    Turn s op (s.consume number act).1 (s.consume number act).2 := by
  unfold Session.consume
  cases there : s.resolver? number with
  | none =>
    have gone : s.subject? op = none := by rw [s.subject_of_use op number outcome uses, there]; rfl
    exact Turn.idle op s.wakes (.had false) gone
  | some r =>
    simp only [acts r there]
    exact Turn.use op number r outcome _ uses there

theorem ask_turn (s : Session) (op : Operation) (handle : Nat) (results : Pendings)
    (wakes : List Nat) (answer : Answer) (event : Event) (asks : op.asks? = some handle)
    (same : s.resultOf? handle = none → results = s.results)
    (polled : ∀ id, s.resultOf? handle = some id → Polled id s.results results)
    (tells : answer.event? = some event) (shows : event.Shows (s.outcome? handle)) :
    Turn s op { s with results := results, wakes := wakes } answer := by
  cases held : s.resultOf? handle with
  | none =>
    rw [same held]
    exact Turn.idle op wakes answer ((s.subject_of_asks op handle asks).trans held)
  | some id =>
    have there : s.outcome? handle = s.results.outcome? id := by simp [Session.outcome?, held]
    exact Turn.ask op handle id results wakes answer event asks held (polled id held) tells
      (there ▸ shows)

theorem step_turn (s : Session) (sound : s.Sound) (op : Operation) :
    Turn s op (s.step op).1 (s.step op).2 := by
  cases op with
  | create => exact Turn.create
  | resolved v => exact ready_turn s _ (.ok v) rfl
  | rejected f => exact ready_turn s _ (.error f) rfl
  | clone handle =>
    cases held : s.resultOf? handle with
    | none =>
      simp only [Session.step, held]
      exact Turn.idle _ s.wakes .done held
    | some id =>
      simp only [Session.step, held]
      exact Turn.clone handle id held
  | dropHandle handle => exact Turn.dropHandle handle
  | resolve number v =>
    exact use_turn s _ number (.ok v) _ rfl fun r _ => r.settle_eq (.ok v) s.results
  | reject number f =>
    exact use_turn s _ number (.error f) _ rfl fun r _ => r.settle_eq (.error f) s.results
  | settle number outcome =>
    exact use_turn s _ number outcome _ rfl fun r _ => r.settle_eq outcome s.results
  | dropResolver number =>
    exact use_turn s _ number (.error .abandoned) _ rfl fun r there =>
      r.drop_unused (sound.unused number r there) s.results
  | isSettled handle =>
    exact ask_turn s _ handle s.results s.wakes _ _ rfl (fun _ => rfl)
      (fun id _ => Polled.refl id s.results) rfl rfl
  | look handle =>
    exact ask_turn s _ handle s.results s.wakes _ _ rfl (fun _ => rfl)
      (fun id _ => Polled.refl id s.results) rfl rfl
  | poll handle w =>
    have same : (s.withWaker w).resultOf? handle = s.resultOf? handle := rfl
    cases held : s.resultOf? handle with
    | none =>
      simp only [Session.step, same, held]
      exact Turn.idle _ (s.withWaker w).wakes (.seen none) held
    | some id =>
      simp only [Session.step, same, held]
      have seen : (s.results.poll id w).2 = s.outcome? handle := by
        simp [poll_seen, Session.outcome?, held]
      refine ask_turn s _ handle (s.results.poll id w).1 (s.withWaker w).wakes _ _ rfl
        (fun none => ?_) (fun other there => ?_) rfl seen
      · rw [held] at none
        cases none
      · rw [held] at there
        cases there
        exact poll_polled s.results id w

end HostBridge.Pending
