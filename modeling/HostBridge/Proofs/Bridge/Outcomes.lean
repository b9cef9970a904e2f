import HostBridge.Proofs.Bridge.Calls
import HostBridge.Proofs.Pool.Conclusion

set_option autoImplicit false

namespace HostBridge

variable {α ε : Type}

def Note.handlerAct? : Note ε → Option ε
  | .acted .caller none act => some act
  | _ => none

structure Invocation (b : Bridge α ε) (start : Host α ε) where
  before : List (Bridge.Move α)
  host : Host α ε
  earlier : List (Note ε)
  reached : b.run? start before = some (host, earlier)
  module : String
  method : String
  args : List Value
  after : List (Bridge.Move α)
  last : Host α ε
  later : List (Note ε)
  ran : b.run? (b.invoke host module method args).1 after = some (last, later)

namespace Invocation

variable {b : Bridge α ε} {start : Host α ε}

def next (c : Invocation b start) : Host α ε := (b.invoke c.host c.module c.method c.args).1

def during (c : Invocation b start) : List (Note ε) :=
  (b.invoke c.host c.module c.method c.args).2.1

def reply (c : Invocation b start) : Return :=
  (b.invoke c.host c.module c.method c.args).2.2

def notes (c : Invocation b start) : List (Note ε) := c.earlier ++ c.during ++ c.later

-- All that ever shows of a call: what its handler did at once, and what the jobs did that it made.
def effects (c : Invocation b start) : List ε :=
  c.during.filterMap Note.handlerAct? ++
    (List.range' c.host.pool.submitted (c.next.pool.submitted - c.host.pool.submitted)).flatMap
      (actsOf c.notes)

structure Settles (c : Invocation b start) (id : PendingId) (outcome : Settlement) : Prop where
  fresh : c.host.results.length ≤ id
  once : settlementsOf c.notes id = [outcome] ∨
    c.next.results.outcome? id = some outcome ∧ settlementsOf c.notes id = []
  final : c.last.results.outcome? id = some outcome
  steady : ∀ early late mid seen s, c.after = early ++ late →
    b.run? c.next early = some (mid, seen) → mid.results.outcome? id = some s → s = outcome

theorem of_run (before after : List (Bridge.Move α)) (module method : String) (args : List Value)
    (last : Host α ε) (notes : List (Note ε))
    (ran : b.run? start (before ++ .invoke module method args :: after) = some (last, notes)) :
    ∃ c : Invocation b start, c.before = before ∧ c.module = module ∧ c.method = method ∧
      c.args = args ∧ c.after = after ∧ c.last = last ∧ c.notes = notes := by
  rw [bridge_run_follows] at ran
  obtain ⟨host, earlier, rest, reached, went, rfl⟩ :=
    follow_append_some b.step? start last before _ notes ran
  obtain ⟨next, during, later, moved, left, rfl⟩ :=
    follow_cons_some b.step? host _ after last rest went
  simp only [Bridge.step?, Option.some.injEq, Prod.mk.injEq] at moved
  obtain ⟨rfl, rfl⟩ := moved
  rw [← bridge_run_follows] at reached left
  refine ⟨⟨before, host, earlier, reached, module, method, args, after, last, later, left⟩, rfl,
    rfl, rfl, rfl, rfl, rfl, ?_⟩
  simp [Invocation.notes, during]

end Invocation

namespace Bridge

theorem invoke_reached (b : Bridge α ε) (h : Host α ε) (module method : String)
    (args : List Value) (found : Method α ε) (bound : Arguments) (acts : List ε)
    (result : Except Failure (Outcome α ε))
    (reached : b.target module method args = .ok (found, bound))
    (reacted : found.handler bound = ⟨acts, result⟩) :
    b.invoke h module method args =
      ((h.shape module found result).1,
        acts.map (.acted .caller none) ++ (h.shape module found result).2.1,
        (h.shape module found result).2.2) := by
  simp only [invoke, reached, reacted]

end Bridge

theorem handler_acts_acted (acts : List ε) :
    (acts.map (Note.acted .caller none)).filterMap Note.handlerAct? = acts := by
  rw [List.filterMap_map]
  exact List.filterMap_some

theorem handler_acts_complete (h : Host α ε) (site : Site) (job : Job α ε)
    (outcome : Settlement) :
    (h.complete site job outcome).2.1.filterMap Note.handlerAct? = [] := by
  unfold Host.complete
  split <;> simp [Note.handlerAct?]

theorem handler_acts_submit (h : Host α ε) (work : Work α ε) (completion : Completion ε) :
    (h.submit work completion).2.1.filterMap Note.handlerAct? = [] := by
  cases verdict : h.pool.refusal? with
  | none =>
    rw [Host.submit_accepting h work completion verdict]
    rfl
  | some f =>
    rw [Host.submit_refusing h work completion f verdict]
    exact handler_acts_complete _ _ _ _

namespace Invocation

variable {b : Bridge α ε} {threadName : String} {capacity workers : Nat}
  (c : Invocation b (.start threadName capacity workers))

theorem ledger_before :
    ∃ jobs fate, Ledger workers (fun worker => s!"{threadName}-{worker}") c.host c.earlier jobs
      fate ∧ (b.Harmless → ∀ job ∈ jobs, ¬ job.Lethal) := by
  obtain ⟨more, fate, course⟩ := Bridge.run_course
    (Ledger.start threadName capacity workers) c.before c.reached
  have ledger := course.ledger
  rw [List.nil_append, List.nil_append] at ledger
  exact ⟨more, fate, ledger, course.peaceful⟩

theorem calm : ∀ note ∈ c.notes, note.isMishap = false := by
  obtain ⟨_, _, before⟩ :=
    Bridge.run_course (Ledger.start threadName capacity workers) c.before c.reached
  obtain ⟨_, _, called⟩ := Bridge.invoke_course before.ledger c.module c.method c.args
  obtain ⟨_, _, ended⟩ := Bridge.run_course called.ledger c.after c.ran
  intro note seen
  rcases List.mem_append.1 seen with first | later
  · exact (List.mem_append.1 first).elim (before.calm note) (called.calm note)
  · exact ended.calm note later

theorem job_followed {thread : Nat → String} {jobs : List (Job α ε)} {fate : JobId → Fate α}
    (job : Job α ε)
    (ledger : Ledger workers thread c.next (c.earlier ++ c.during) (jobs ++ [job])
      (assign fate job.id c.host.pool.verdict)) :
    ∃ more fate', Ledger workers thread c.last c.notes (jobs ++ [job] ++ more) fate' ∧
      (∀ f, c.host.pool.refusal? = some f ↔ fate' job.id = .refused f) ∧
      (∀ worker answer, fate' job.id = .finished worker answer →
        Answered b.step? .finish c.next c.after job.id worker answer) ∧
      (b.Harmless → ∀ other ∈ more, ¬ other.Lethal) := by
  obtain ⟨more, fate', course⟩ := Bridge.run_course ledger c.after c.ran
  have member : job ∈ jobs ++ [job] := by simp
  have verdict : assign fate job.id c.host.pool.verdict job.id = c.host.pool.verdict :=
    assign_self fate job.id _
  refine ⟨more, fate', course.ledger, fun f => ?_, fun worker answer done => ?_, course.peaceful⟩
  · rw [← ledger.refusal_stays course.ledger job member (List.mem_append_left _ member) f, verdict]
    cases refused : c.host.pool.refusal? <;> simp [Pool.verdict, refused]
  · rcases course.finished job.id worker answer done with before | answered
    · rw [verdict] at before
      unfold Pool.verdict at before
      split at before <;> cases before
    · exact answered

theorem job_concludes (harmless : b.Harmless) (closed : c.last.pool.phase = .closed)
    {thread : Nat → String} {jobs : List (Job α ε)} {fate : JobId → Fate α} (job : Job α ε)
    (ledger : Ledger workers thread c.next (c.earlier ++ c.during) (jobs ++ [job])
      (assign fate job.id c.host.pool.verdict))
    (peaceful : ∀ other ∈ jobs ++ [job], ¬ other.Lethal) :
    ∃ final : Fate α, storyOf c.notes job.id = final.story thread job ∧
      (∀ id, job.owed? = some id →
        c.last.results.outcome? id = final.outcome? thread job ∧
          settlementsOf c.notes id = (final.outcome? thread job).toList) ∧
      match c.host.pool.refusal? with
      | some f => final = .refused f
      | none => ∃ worker answer, final = .finished worker answer ∧
          Answered b.step? .finish c.next c.after job.id worker answer := by
  obtain ⟨more, fate', after, refusal, answered, gentle⟩ := c.job_followed job ledger
  have also : job ∈ jobs ++ [job] ++ more := by simp
  have mild : ∀ other ∈ jobs ++ [job] ++ more, ¬ other.Lethal := fun other among =>
    (List.mem_append.1 among).elim (peaceful other) (gentle harmless other)
  refine ⟨fate' job.id, after.stories.told job also, fun id owed =>
    ⟨after.debts.paid job also id owed, after.debts.once job also id owed⟩, ?_⟩
  cases refused : c.host.pool.refusal? with
  | some f => exact (refusal f).1 refused
  | none =>
    have safe := not_perilous mild c.calm
    rcases after.concluded closed safe job also with ⟨f, gone⟩ | ⟨worker, answer, done⟩
    · rw [(refusal f).2 gone] at refused
      cases refused
    · exact ⟨worker, answer, done, answered worker answer done⟩

theorem steady_of_final (id : PendingId) (outcome : Settlement)
    (final : c.last.results.outcome? id = some outcome) (early late : List (Bridge.Move α))
    (mid : Host α ε) (seen : List (Note ε)) (s : Settlement) (split : c.after = early ++ late)
    (went : b.run? c.next early = some (mid, seen)) (settled : mid.results.outcome? id = some s) :
    s = outcome := by
  obtain ⟨jobs, fate, before, _⟩ := c.ledger_before
  obtain ⟨made, fate', called⟩ := Bridge.invoke_course before c.module c.method c.args
  obtain ⟨more, fate'', halfway⟩ := Bridge.run_course called.ledger early went
  have ran := c.ran
  rw [split, bridge_run_follows] at ran
  obtain ⟨same, first, rest, reached, left, _⟩ :=
    follow_append_some b.step? _ c.last early late c.later ran
  rw [← bridge_run_follows] at reached left
  obtain ⟨rfl, rfl⟩ : mid = same ∧ seen = first := by
    simpa using went.symm.trans reached
  obtain ⟨_, _, ended⟩ := Bridge.run_course halfway.ledger late left
  have kept := ended.grown.kept id s settled
  rw [final] at kept
  exact (Option.some.inj kept).symm

section Effects

variable {thread : Nat → String} {acts : List ε} {jobs : List (Job α ε)}
  {fate fate' : JobId → Fate α}

theorem effects_of_job (job : Job α ε) (named : job.id = c.host.pool.submitted)
    (shown : c.during.filterMap Note.handlerAct? = acts)
    (before : Ledger workers thread c.host c.earlier jobs fate)
    (called : Ledger workers thread c.next (c.earlier ++ c.during) (jobs ++ [job]) fate') :
    c.effects = acts ++ actsOf c.notes job.id := by
  have one : c.next.pool.submitted - c.host.pool.submitted = 1 := by
    rw [called.places.counted, before.places.counted, List.length_append, List.length_singleton]
    omega
  rw [effects, shown, one, named]
  simp [List.range']

theorem effects_of_none (shown : c.during.filterMap Note.handlerAct? = acts)
    (same : c.next.pool = c.host.pool) : c.effects = acts := by
  rw [effects, shown, same]
  simp

end Effects

structure HandsIn (c : Invocation b (.start threadName capacity workers)) (acts : List ε)
    (job : Job α ε) : Prop where
  named : job.id = c.host.pool.submitted
  shown : c.during.filterMap Note.handlerAct? = acts
  ledger : ∀ thread jobs fate, Ledger workers thread c.host c.earlier jobs fate →
    Ledger workers thread c.next (c.earlier ++ c.during) (jobs ++ [job])
      (assign fate job.id c.host.pool.verdict)

structure Submits (c : Invocation b (.start threadName capacity workers)) (acts : List ε)
    (job : Job α ε) : Prop extends c.HandsIn acts job where
  mild : ¬ job.Lethal

theorem hands_in_detached (work : Work α ε) (origin : String) (hook : Option (Hook ε))
    (acts : List ε) (reply : Return)
    (invoked : b.invoke c.host c.module c.method c.args =
      ((c.host.submitDetached work origin hook).1,
        acts.map (.acted .caller none) ++ (c.host.submitDetached work origin hook).2.1, reply)) :
    c.HandsIn acts ⟨c.host.pool.submitted, work, .detached origin hook⟩ := by
  refine ⟨rfl, ?_, fun thread jobs fate before => ?_⟩
  · rw [during, invoked, List.filterMap_append, handler_acts_acted]
    exact (congrArg _ (handler_acts_submit c.host work _)).trans (List.append_nil acts)
  · rw [next, during, invoked, ← List.append_assoc]
    exact (before.acted acts).detach work origin hook

theorem hands_in_promised (work : Work α ε) (acts : List ε) (reply : Return)
    (invoked : b.invoke c.host c.module c.method c.args =
      ((c.host.submitPromised work).1,
        acts.map (.acted .caller none) ++ (c.host.submitPromised work).2.1, reply)) :
    c.HandsIn acts ⟨c.host.pool.submitted, work, .settle c.host.results.length⟩ := by
  refine ⟨rfl, ?_, fun thread jobs fate before => ?_⟩
  · rw [during, invoked, List.filterMap_append, handler_acts_acted]
    exact (congrArg _ (handler_acts_submit _ work _)).trans (List.append_nil acts)
  · rw [next, during, invoked, ← List.append_assoc]
    exact (before.acted acts).promise work

theorem Submits.concludes {acts : List ε} {job : Job α ε} (submits : c.Submits acts job)
    (harmless : b.Harmless) (closed : c.last.pool.phase = .closed) :
    ∃ outcome, (∀ id, job.owed? = some id →
        settlementsOf c.notes id = [outcome] ∧ c.last.results.outcome? id = some outcome) ∧
      match c.host.pool.refusal? with
      | some f => outcome = .error f ∧ c.effects = acts ++ job.reaction (.error f)
      | none => ∃ worker answer,
          Answered b.step? .finish c.next c.after c.host.pool.submitted worker answer ∧
            let closing := job.work.closing s!"{threadName}-{worker}" answer
            outcome = closing.2.outcome ∧ c.effects =
              acts ++ (job.work.opening ++ closing.1 ++ job.reaction closing.2.outcome) := by
  obtain ⟨jobs, fate, before, peaceful⟩ := c.ledger_before
  have called := submits.ledger _ jobs fate before
  have gentle : ∀ other ∈ jobs ++ [job], ¬ other.Lethal := by
    intro other member
    rcases List.mem_append.1 member with old | new
    · exact peaceful harmless other old
    · rw [List.mem_singleton.1 new]
      exact submits.mild
  obtain ⟨final, told, paid, ended⟩ := c.job_concludes harmless closed job called gentle
  rw [c.effects_of_job job submits.named submits.shown before called, actsOf, told]
  cases refused : c.host.pool.refusal? with
  | some f =>
    rw [refused] at ended
    obtain rfl : final = .refused f := ended
    refine ⟨.error f, fun id owed => ?_, rfl, by rw [acts_refused]⟩
    obtain ⟨settled, once⟩ := paid id owed
    exact ⟨once, settled⟩
  | none =>
    rw [refused] at ended
    obtain ⟨worker, answer, rfl, answered⟩ := ended
    refine ⟨_, fun id owed => ?_, worker, answer, submits.named ▸ answered, rfl,
      by rw [acts_finished]; rfl⟩
    obtain ⟨settled, once⟩ := paid id owed
    exact ⟨once, settled⟩

theorem settles_of_submits (outcome : Settlement)
    (once : settlementsOf c.notes c.host.results.length = [outcome])
    (final : c.last.results.outcome? c.host.results.length = some outcome) :
    c.Settles c.host.results.length outcome :=
  ⟨Nat.le_refl _, Or.inl once, final, fun early late mid seen s split went settled =>
    c.steady_of_final _ outcome final early late mid seen s split went settled⟩

theorem settled_settles (outcome : Settlement) (acts : List ε)
    (next : c.next = { c.host with results := c.host.results ++ [⟨some outcome, []⟩] })
    (during : c.during = acts.map (.acted .caller none)) :
    c.next.results.outcome? c.host.results.length = some outcome ∧
      c.Settles c.host.results.length outcome := by
  obtain ⟨jobs, fate, before, _⟩ := c.ledger_before
  have called : Ledger workers (fun worker => s!"{threadName}-{worker}") c.next
      (c.earlier ++ c.during) jobs fate := by
    rw [next, during]
    exact (before.acted acts).extend _
  obtain ⟨more, fate', course⟩ := Bridge.run_course called c.after c.ran
  have settled : c.next.results.outcome? c.host.results.length = some outcome := by
    rw [next]
    simp [Pendings.outcome?]
  have final := course.grown.kept _ _ settled
  have unowed : settlementsOf c.notes c.host.results.length = [] := by
    refine course.ledger.debts.unowed _ fun job member owed => ?_
    rcases List.mem_append.1 member with old | new
    · exact Nat.lt_irrefl _ (before.debts.made job old _ owed)
    · have above := course.owes job new _ owed
      rw [next, List.length_append, List.length_singleton] at above
      exact Nat.not_succ_le_self _ above
  exact ⟨settled, Nat.le_refl _, Or.inr ⟨settled, unowed⟩, final,
    fun early late mid seen s split went found =>
      c.steady_of_final _ _ final early late mid seen s split went found⟩

theorem reached_of_reply (r : Reply) (replied : c.reply = some (.ok r)) :
    ∃ found bound, b.target c.module c.method c.args = .ok (found, bound) := by
  cases reached : b.target c.module c.method c.args with
  | error e =>
    rw [reply, Bridge.invoke, reached] at replied
    cases replied
  | ok pair => exact ⟨pair.1, pair.2, rfl⟩

section Reached

variable (found : Method α ε) (bound : Arguments) (acts : List ε)
  (reached : b.target c.module c.method c.args = .ok (found, bound))

include reached

theorem submits_detached (void : found.signature.returns = .void) (work : Work α ε)
    (hook : Hook ε) (mild : ∀ site f, hook.breaksOff site f = false)
    (reacted : found.handler bound = ⟨acts, .ok (.detached work hook)⟩) :
    c.reply = some (.ok .void) ∧ c.Submits acts
      ⟨c.host.pool.submitted, work, .detached s!"{c.module}.{found.name}" (some hook)⟩ := by
  have invoked := b.invoke_reached c.host c.module c.method c.args found bound acts _ reached
    reacted
  have unbroken :
      (c.host.submitDetached work s!"{c.module}.{found.name}" (some hook)).2.2 = false := by
    rw [Host.submitDetached, Host.submit_fatal]
    cases c.host.pool.refusal? with
    | none => rfl
    | some f => exact mild .caller f
  simp only [Host.shape, void, Host.shapeVoid, Host.shapeDetached, unbroken] at invoked
  refine ⟨congrArg (fun result => result.2.2) invoked,
    c.hands_in_detached work _ (some hook) acts _ invoked, ?_⟩
  rintro ⟨origin, own, worker, f, owed, broke⟩
  cases owed
  rw [mild (.worker worker) f] at broke
  cases broke

theorem submits_blocking (promise : found.signature.returns = .promise) (work : Work α ε)
    (reacted : found.handler bound = ⟨acts, .ok (.blocking work)⟩) :
    c.reply = some (.ok (.pending c.host.results.length)) ∧ c.Submits acts
      ⟨c.host.pool.submitted, work, .settle c.host.results.length⟩ := by
  have invoked := b.invoke_reached c.host c.module c.method c.args found bound acts _ reached
    reacted
  simp only [Host.shape, promise, Host.shapePromise] at invoked
  refine ⟨congrArg (fun result => result.2.2) invoked,
    c.hands_in_promised work acts _ invoked, ?_⟩
  rintro ⟨origin, own, worker, f, owed, _⟩
  cases owed

theorem failed_settles (promise : found.signature.returns = .promise) (f : Failure)
    (reacted : found.handler bound = ⟨acts, .error f⟩) :
    c.reply = some (.ok (.pending c.host.results.length)) ∧ c.effects = acts ∧
      c.Settles c.host.results.length (.error f) := by
  have invoked := b.invoke_reached c.host c.module c.method c.args found bound acts _ reached
    reacted
  simp only [Host.shape, promise, Host.shapePromise, Host.settledResult,
    Pendings.createSettled, List.append_nil] at invoked
  have next : c.next = { c.host with results := c.host.results ++ [⟨some (.error f), []⟩] } :=
    congrArg (fun result => result.1) invoked
  have during : c.during = acts.map (.acted .caller none) :=
    congrArg (fun result => result.2.1) invoked
  refine ⟨congrArg (fun result => result.2.2) invoked, ?_,
    (c.settled_settles (.error f) acts next during).2⟩
  exact c.effects_of_none (by rw [during, handler_acts_acted]) (by rw [next])

theorem done_at_once (void : found.signature.returns = .void) (v : Value)
    (reacted : found.handler bound = ⟨acts, .ok (.value v)⟩) : c.effects = acts := by
  have invoked := b.invoke_reached c.host c.module c.method c.args found bound acts _ reached
    reacted
  simp only [Host.shape, void, Host.shapeVoid, List.append_nil] at invoked
  refine c.effects_of_none ?_ ?_
  · rw [during, invoked, handler_acts_acted]
  · rw [next, invoked]

theorem failed_reply (void : found.signature.returns = .void) (f : Failure)
    (reacted : found.handler bound = ⟨acts, .error f⟩) :
    c.reply = some (.error (.handler f)) := by
  have invoked := b.invoke_reached c.host c.module c.method c.args found bound acts _ reached
    reacted
  simp only [Host.shape, void, Host.shapeVoid] at invoked
  rw [reply, invoked]

end Reached

end Invocation

end HostBridge
