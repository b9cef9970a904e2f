import HostBridge.Proofs.Bridge.Outcomes

set_option autoImplicit false

namespace HostBridge

variable {α ε : Type}

theorem Host.submit_pool (h : Host α ε) (work : Work α ε) (completion : Completion ε) :
    (h.submit work completion).1.pool = { h.pool with
      queue := if h.pool.refusal? = none then
        h.pool.queue ++ [⟨h.pool.submitted, work, completion⟩] else h.pool.queue
      submitted := h.pool.submitted + 1 } := by
  cases verdict : h.pool.refusal? with
  | none =>
    rw [submit_accepting h work completion verdict]
    rfl
  | some f =>
    rw [submit_refusing h work completion f verdict, complete_pool]
    rfl

namespace Invocation

section Marks

variable {b : Bridge α ε} {start : Host α ε}

-- Only the handler's own acts show of the call, and all goes on as if it had not been made.
structure Traceless (c : Invocation b start) : Prop where
  during : ∀ note ∈ c.during, ∃ act, note = .acted .caller none act
  next : c.next = c.host
  forgotten : b.run? start (c.before ++ c.after) = some (c.last, c.earlier ++ c.later)

def Holds (c : Invocation b start) (id : PendingId) : PendingSource → Prop
  | .existing given => id = given ∧ c.Traceless
  | .settled outcome => c.next.results.outcome? id = some outcome ∧ c.Settles id outcome
  | .fresh keeper => id = c.host.results.length ∧ c.next.results.outcome? id = none ∧
      .kept keeper id ∈ c.during

theorem traceless_of_still (c : Invocation b start) (acts : List ε)
    (during : c.during = acts.map (.acted .caller none)) (next : c.next = c.host) :
    c.Traceless := by
  refine ⟨fun note shown => ?_, next, ?_⟩
  · rw [during] at shown
    obtain ⟨act, _, rfl⟩ := List.mem_map.1 shown
    exact ⟨act, rfl⟩
  · have reached := c.reached
    have ran : b.run? c.next c.after = some (c.last, c.later) := c.ran
    rw [next] at ran
    rw [bridge_run_follows] at reached ran ⊢
    exact follow_append b.step? start c.host c.last c.before c.after _ _ reached ran

end Marks

variable {b : Bridge α ε} {threadName : String} {capacity workers : Nat}

-- A call that hands in a job: it is queued or refused at once, nothing but its own fate shows of
-- it, and a result that it owes is settled with the outcome of that fate and with nothing else.
structure Makes (c : Invocation b (.start threadName capacity workers)) (job : Job α ε) :
    Prop where
  pool : c.next.pool = { c.host.pool with
    queue := if c.host.pool.refusal? = none then c.host.pool.queue ++ [job]
      else c.host.pool.queue
    submitted := c.host.pool.submitted + 1 }
  followed : ∃ fate : Fate α, storyOf c.notes job.id = fate.story c.host.pool.threadOf job ∧
    (∀ worker answer, fate ≠ .spilled worker answer) ∧
    (∀ f, c.host.pool.refusal? = some f ↔ fate = .refused f) ∧
    (∀ worker answer, fate = .finished worker answer →
      Answered b.step? .finish c.next c.after job.id worker answer) ∧
    ∀ id, job.completion = .settle id →
      c.last.results.outcome? id = fate.outcome? c.host.pool.threadOf job ∧
        settlementsOf c.notes id = (fate.outcome? c.host.pool.threadOf job).toList

-- The pool refuses the work, and the hook that is told of it breaks off on the caller's thread.
def TakesCaller (c : Invocation b (.start threadName capacity workers))
    (result : Except Failure (Outcome α ε)) : Prop :=
  ∃ work hook f, result = .ok (.detached work hook) ∧ c.host.pool.refusal? = some f ∧
    hook.breaksOff .caller f = true

structure VoidShaped (c : Invocation b (.start threadName capacity workers)) (name : String)
    (result : Except Failure (Outcome α ε)) : Prop where
  failed : ∀ f, c.reply = some (.error (.handler f)) ↔ result = .error f
  done : c.reply = some (.ok .void) ↔ (∃ outcome, result = .ok outcome) ∧ ¬ c.TakesCaller result
  broken : c.reply = none ↔ c.TakesCaller result
  work : match result with
    | .ok (.blocking work) =>
      c.Makes ⟨c.host.pool.submitted, work, .detached s!"{c.module}.{name}" none⟩
    | .ok (.detached work hook) =>
      c.Makes ⟨c.host.pool.submitted, work, .detached s!"{c.module}.{name}" (some hook)⟩
    | .ok (.pending source) => c.next.pool = c.host.pool ∧ ∃ id, c.Holds id source
    | _ => c.Traceless

structure ValueShaped (c : Invocation b (.start threadName capacity workers)) (name : String)
    (result : Except Failure (Outcome α ε)) : Prop where
  answered : ∀ v, c.reply = some (.ok (.value v)) ↔ result = .ok (.value v)
  failed : ∀ f, c.reply = some (.error (.handler f)) ↔ result = .error f
  mismatched : ∀ outcome, result = .ok outcome → (∀ v, outcome ≠ .value v) →
    c.reply = some (.error (.returnShapeMismatch name .value outcome.kind))
  work : match result with
    | .ok (.pending source) => c.next.pool = c.host.pool ∧ ∃ id, c.Holds id source
    | _ => c.Traceless

-- A promise method answers with a pending result, whatever its handler has come to, unless that
-- keeps the work and its outcome to itself.
def PromiseShaped (c : Invocation b (.start threadName capacity workers)) (name : String) :
    Except Failure (Outcome α ε) → Prop
  | .error f => ∃ id, c.reply = some (.ok (.pending id)) ∧ c.next.pool = c.host.pool ∧
      c.Holds id (.settled (.error f))
  | .ok (.value v) => ∃ id, c.reply = some (.ok (.pending id)) ∧ c.next.pool = c.host.pool ∧
      c.Holds id (.settled (.ok v))
  | .ok (.pending source) => ∃ id, c.reply = some (.ok (.pending id)) ∧ c.next.pool = c.host.pool ∧
      c.Holds id source
  | .ok (.blocking work) => c.reply = some (.ok (.pending c.host.results.length)) ∧
      c.Makes ⟨c.host.pool.submitted, work, .settle c.host.results.length⟩
  | .ok (.detached _ _) =>
      c.reply = some (.error (.returnShapeMismatch name .promise "detached")) ∧ c.Traceless

variable (c : Invocation b (.start threadName capacity workers)) (acts : List ε)

theorem holds_received (source : PendingSource)
    (next : c.next = (c.host.receive source).1)
    (during : c.during = acts.map (.acted .caller none) ++ (c.host.receive source).2.1) :
    c.next.pool = c.host.pool ∧ c.Holds (c.host.receive source).2.2 source := by
  cases source with
  | existing id =>
    refine ⟨by rw [next]; rfl, rfl, c.traceless_of_still acts ?_ next⟩
    rw [during]
    exact List.append_nil _
  | settled outcome =>
    refine ⟨by rw [next]; rfl, ?_⟩
    exact c.settled_settles outcome acts next (during.trans (List.append_nil _))
  | fresh keeper =>
    refine ⟨by rw [next]; rfl, rfl, ?_, ?_⟩
    · rw [next]
      simp [Host.receive, Pendings.create, Pendings.outcome?, Cell.fresh]
    · rw [during]
      exact List.mem_append_right _ (.head _)

theorem makes_of_hands_in (job : Job α ε) (handed : c.HandsIn acts job)
    (pool : c.next.pool = { c.host.pool with
      queue := if c.host.pool.refusal? = none then c.host.pool.queue ++ [job]
        else c.host.pool.queue
      submitted := c.host.pool.submitted + 1 }) : c.Makes job := by
  obtain ⟨jobs, fate, before, _⟩ := c.ledger_before
  obtain ⟨more, fate', after, refusal, answered, _⟩ :=
    c.job_followed job (handed.ledger _ jobs fate before)
  have also : job ∈ jobs ++ [job] ++ more := by simp
  refine ⟨pool, fate' job.id, ?_, after.never_spilled c.calm job also, refusal, answered,
    fun id owed => ?_⟩
  · rw [after.stories.told job also, before.named]
  · have owes : job.owed? = some id := by simp [Job.owed?, owed]
    rw [before.named]
    exact ⟨after.debts.paid job also id owes, after.debts.once job also id owes⟩

theorem makes_of_served (new : List (Note ε)) (made : List (Job α ε))
    (served : Served c.host c.next new made)
    (during : c.during = acts.map (.acted .caller none) ++ new) (job : Job α ε)
    (member : job ∈ made) : c.Makes job := by
  generalize same : c.next = next at served
  cases served with
  | still => cases member
  | stored => cases member
  | promised work =>
    obtain rfl := List.mem_singleton.1 member
    refine c.makes_of_hands_in acts _ (c.hands_in_promised work acts c.reply
      (Prod.ext same (Prod.ext during rfl))) ?_
    rw [same]
    exact Host.submit_pool { c.host with results := c.host.results ++ [Cell.fresh] } work _
  | detached work origin hook =>
    obtain rfl := List.mem_singleton.1 member
    refine c.makes_of_hands_in acts _ (c.hands_in_detached work origin hook acts c.reply
      (Prod.ext same (Prod.ext during rfl))) ?_
    rw [same]
    exact c.host.submit_pool work (.detached origin hook)

theorem void_answered (outcome : Outcome α ε) (brokeOff : Bool)
    (replied : c.reply = if brokeOff then none else some (.ok .void))
    (broke : brokeOff = true ↔ c.TakesCaller (.ok outcome)) :
    (∀ f, c.reply = some (.error (.handler f)) ↔
        (.ok outcome : Except Failure (Outcome α ε)) = .error f) ∧
      (c.reply = some (.ok .void) ↔
        (∃ given, (.ok outcome : Except Failure (Outcome α ε)) = .ok given) ∧
          ¬ c.TakesCaller (.ok outcome)) ∧
      (c.reply = none ↔ c.TakesCaller (.ok outcome)) := by
  rw [← broke, replied]
  cases brokeOff <;> simp

section Reached

variable (found : Method α ε) (bound : Arguments)
  (reached : b.target c.module c.method c.args = .ok (found, bound))
  (result : Except Failure (Outcome α ε)) (handled : (found.handler bound).result = result)

include reached handled

theorem invoke_of_shape (next : Host α ε) (new : List (Note ε)) (reply : Return)
    (shaped : c.host.shape c.module found result = (next, new, reply)) :
    b.invoke c.host c.module c.method c.args =
      (next, (found.handler bound).acts.map (.acted .caller none) ++ new, reply) := by
  have invoked := b.invoke_reached c.host c.module c.method c.args found bound _ _ reached rfl
  rwa [handled, shaped] at invoked

theorem still_of_shape (reply : Return)
    (shaped : c.host.shape c.module found result = (c.host, [], reply)) :
    c.reply = reply ∧ c.Traceless := by
  have invoked := c.invoke_of_shape found bound reached result handled _ _ _ shaped
  rw [List.append_nil] at invoked
  refine ⟨congrArg (fun answer => answer.2.2) invoked, c.traceless_of_still _
    (congrArg (fun answer => answer.2.1) invoked) (congrArg (fun answer => answer.1) invoked)⟩

theorem received_of_shape (source : PendingSource) (reply : Return)
    (shaped : c.host.shape c.module found result =
      ((c.host.receive source).1, (c.host.receive source).2.1, reply)) :
    c.reply = reply ∧ c.next.pool = c.host.pool ∧ c.Holds (c.host.receive source).2.2 source := by
  have invoked := c.invoke_of_shape found bound reached result handled _ _ _ shaped
  exact ⟨congrArg (fun answer => answer.2.2) invoked, c.holds_received _ source
    (congrArg (fun answer => answer.1) invoked) (congrArg (fun answer => answer.2.1) invoked)⟩

theorem made_of_detached (work : Work α ε) (origin : String) (hook : Option (Hook ε))
    (shaped : c.host.shape c.module found result = c.host.shapeDetached work origin hook) :
    c.reply = (if (c.host.submitDetached work origin hook).2.2 then none else some (.ok .void)) ∧
      c.Makes ⟨c.host.pool.submitted, work, .detached origin hook⟩ := by
  have invoked := c.invoke_of_shape found bound reached result handled _ _ _ shaped
  have next : c.next = (c.host.submitDetached work origin hook).1 :=
    congrArg (fun answer => answer.1) invoked
  refine ⟨congrArg (fun answer => answer.2.2) invoked, c.makes_of_served _ _ [_] ?_
    (congrArg (fun answer => answer.2.1) invoked) _ (.head _)⟩
  rw [next]
  exact .detached work origin hook

theorem made_of_promised (work : Work α ε) (reply : Return)
    (shaped : c.host.shape c.module found result =
      ((c.host.submitPromised work).1, (c.host.submitPromised work).2.1, reply)) :
    c.reply = reply ∧
      c.Makes ⟨c.host.pool.submitted, work, .settle c.host.results.length⟩ := by
  have invoked := c.invoke_of_shape found bound reached result handled _ _ _ shaped
  have next : c.next = (c.host.submitPromised work).1 :=
    congrArg (fun answer => answer.1) invoked
  refine ⟨congrArg (fun answer => answer.2.2) invoked, c.makes_of_served _ _ [_] ?_
    (congrArg (fun answer => answer.2.1) invoked) _ (.head _)⟩
  rw [next]
  exact .promised work

theorem void_shaped (void : found.signature.returns = .void) : c.VoidShaped found.name result := by
  have shaped : ∀ result, c.host.shape c.module found result =
      c.host.shapeVoid s!"{c.module}.{found.name}" result := fun result => by
    rw [Host.shape, void]
  cases result with
  | error f =>
    obtain ⟨replied, traceless⟩ :=
      c.still_of_shape found bound reached _ handled _ (shaped (.error f))
    exact ⟨fun g => by simp [replied], by simp [replied], by simp [replied, TakesCaller],
      traceless⟩
  | ok outcome =>
    cases outcome with
    | value v =>
      obtain ⟨replied, traceless⟩ :=
        c.still_of_shape found bound reached _ handled _ (shaped (.ok (.value v)))
      obtain ⟨failed, done, broken⟩ :=
        c.void_answered (.value v) false replied (by simp [TakesCaller])
      exact ⟨failed, done, broken, traceless⟩
    | pending source =>
      obtain ⟨replied, same, holds⟩ :=
        c.received_of_shape found bound reached _ handled source _ (shaped (.ok (.pending source)))
      obtain ⟨failed, done, broken⟩ :=
        c.void_answered (.pending source) false replied (by simp [TakesCaller])
      exact ⟨failed, done, broken, same, _, holds⟩
    | blocking work =>
      obtain ⟨replied, makes⟩ := c.made_of_detached found bound reached _ handled work _ none
        (shaped (.ok (.blocking work)))
      obtain ⟨failed, done, broken⟩ := c.void_answered (.blocking work) _ replied (by
        rw [Host.detached_breaks_off_iff]
        simp [TakesCaller])
      exact ⟨failed, done, broken, makes⟩
    | detached work hook =>
      obtain ⟨replied, makes⟩ := c.made_of_detached found bound reached _ handled work _
        (some hook) (shaped (.ok (.detached work hook)))
      obtain ⟨failed, done, broken⟩ := c.void_answered (.detached work hook) _ replied (by
        rw [Host.detached_breaks_off_iff]
        constructor
        · rintro ⟨own, f, same, refused, broke⟩
          cases same
          exact ⟨work, hook, f, rfl, refused, broke⟩
        · rintro ⟨_, own, f, same, refused, broke⟩
          cases same
          exact ⟨hook, f, rfl, refused, broke⟩)
      exact ⟨failed, done, broken, makes⟩

theorem value_shaped (value : found.signature.returns = .value) :
    c.ValueShaped found.name result := by
  have shaped : ∀ result, c.host.shape c.module found result =
      c.host.shapeValue found.name result := fun result => by
    rw [Host.shape, value]
  cases result with
  | error f =>
    obtain ⟨replied, traceless⟩ :=
      c.still_of_shape found bound reached _ handled _ (shaped (.error f))
    exact ⟨fun v => by simp [replied], fun g => by simp [replied],
      fun given same => (by cases same), traceless⟩
  | ok outcome =>
    have unfit : (∀ v, outcome ≠ .value v) →
        c.reply = some (.error (.returnShapeMismatch found.name .value outcome.kind)) →
        (∀ v, c.reply = some (.ok (.value v)) ↔
          (.ok outcome : Except Failure (Outcome α ε)) = .ok (.value v)) ∧
        (∀ f, c.reply = some (.error (.handler f)) ↔
          (.ok outcome : Except Failure (Outcome α ε)) = .error f) ∧
        ∀ given, (.ok outcome : Except Failure (Outcome α ε)) = .ok given →
          (∀ v, given ≠ .value v) →
            c.reply = some (.error (.returnShapeMismatch found.name .value given.kind)) :=
      fun other replied => ⟨fun v => by simp [replied, other v], fun f => by simp [replied],
        fun given same _ => by rw [← Except.ok.inj same]; exact replied⟩
    cases outcome with
    | value v =>
      obtain ⟨replied, traceless⟩ :=
        c.still_of_shape found bound reached _ handled _ (shaped (.ok (.value v)))
      refine ⟨fun w => by simp [replied], fun f => by simp [replied], fun given same other => ?_,
        traceless⟩
      exact absurd (Except.ok.inj same).symm (other v)
    | pending source =>
      obtain ⟨replied, same, holds⟩ :=
        c.received_of_shape found bound reached _ handled source _ (shaped (.ok (.pending source)))
      obtain ⟨answered, failed, mismatched⟩ := unfit (fun _ same => by cases same) replied
      exact ⟨answered, failed, mismatched, same, _, holds⟩
    | blocking work =>
      obtain ⟨replied, traceless⟩ :=
        c.still_of_shape found bound reached _ handled _ (shaped (.ok (.blocking work)))
      obtain ⟨answered, failed, mismatched⟩ := unfit (fun _ same => by cases same) replied
      exact ⟨answered, failed, mismatched, traceless⟩
    | detached work hook =>
      obtain ⟨replied, traceless⟩ :=
        c.still_of_shape found bound reached _ handled _ (shaped (.ok (.detached work hook)))
      obtain ⟨answered, failed, mismatched⟩ := unfit (fun _ same => by cases same) replied
      exact ⟨answered, failed, mismatched, traceless⟩

theorem promise_shaped (promise : found.signature.returns = .promise) :
    c.PromiseShaped found.name result := by
  have shaped : ∀ result, c.host.shape c.module found result =
      c.host.shapePromise found.name result := fun result => by
    rw [Host.shape, promise]
  cases result with
  | error f =>
    exact ⟨_, c.received_of_shape found bound reached _ handled (.settled (.error f)) _
      (shaped (.error f))⟩
  | ok outcome =>
    cases outcome with
    | value v =>
      exact ⟨_, c.received_of_shape found bound reached _ handled (.settled (.ok v)) _
        (shaped (.ok (.value v)))⟩
    | pending source =>
      exact ⟨_, c.received_of_shape found bound reached _ handled source _
        (shaped (.ok (.pending source)))⟩
    | blocking work =>
      exact c.made_of_promised found bound reached _ handled work _ (shaped (.ok (.blocking work)))
    | detached work hook =>
      exact c.still_of_shape found bound reached _ handled _ (shaped (.ok (.detached work hook)))

end Reached

theorem results_are_shaped (found : Method α ε) (bound : Arguments)
    (reached : b.target c.module c.method c.args = .ok (found, bound)) :
    match found.signature.returns with
    | .void => c.VoidShaped found.name (found.handler bound).result
    | .value => c.ValueShaped found.name (found.handler bound).result
    | .promise => c.PromiseShaped found.name (found.handler bound).result := by
  cases declared : found.signature.returns with
  | void => exact c.void_shaped found bound reached _ rfl declared
  | value => exact c.value_shaped found bound reached _ rfl declared
  | promise => exact c.promise_shaped found bound reached _ rfl declared

def errand : Method Unit Unit :=
  ⟨"run", ⟨[], .promise⟩, fun _ => ⟨[], .ok (.blocking (uttering (.returned (.ok .null))))⟩⟩

def errands : Bridge Unit Unit := ⟨[("errands", ⟨"errands", [("run", errand)]⟩)]⟩

def sampleErrand : Invocation errands (.start "io" 1 1) where
  before := []
  host := .start "io" 1 1
  earlier := []
  reached := rfl
  module := "errands"
  method := "run"
  args := []
  after := [.pickUp 0, .finish 0 (), .close, .join]
  last := _
  later := _
  ran := rfl

theorem sample_errand_is_run : sampleErrand.last.results.outcome? 0 = some (.ok .null) ∧
    sampleErrand.reply = some (.ok (.pending 0)) ∧
    sampleErrand.Makes ⟨0, uttering (.returned (.ok .null)), .settle 0⟩ :=
  ⟨rfl, results_are_shaped sampleErrand errand [] rfl⟩

def parting : Outcome Unit Unit := .detached (uttering (.returned (.ok .undefined))) fatalHook

def parcels : Bridge Unit Unit :=
  ⟨[("parcels", ⟨"parcels", [("send", ⟨"send", ⟨[], .void⟩, fun _ => ⟨[], .ok parting⟩⟩)]⟩)]⟩

def overfullCall : Invocation parcels (.start "io" 1 1) where
  before := [.invoke "parcels" "send" []]
  host := _
  earlier := _
  reached := rfl
  module := "parcels"
  method := "send"
  args := []
  after := []
  last := _
  later := _
  ran := rfl

theorem overfull_call_takes_caller : ∃ found bound,
    parcels.target "parcels" "send" [] = .ok (found, bound) ∧ found.signature.returns = .void ∧
      (found.handler bound).result = .ok parting ∧
      overfullCall.host.pool.refusal? = some .queueFull ∧
      overfullCall.reply = none ∧ overfullCall.reply ≠ some (.ok .void) :=
  ⟨_, _, rfl, rfl, rfl, rfl, rfl, nofun⟩

end Invocation

end HostBridge
