import HostBridge.Proofs.Bridge.Past
import HostBridge.Proofs.Pool.Conclusion
import HostBridge.Proofs.Pool.Draining

set_option autoImplicit false

namespace HostBridge

variable {α ε : Type}

namespace Host

-- Shutting down, from the call to its return, be it asked for or because the pool or its bridge
-- goes away. Meanwhile nobody but the workers does anything, since the caller waits for them. A
-- host that has been shut down before is left as it is.
inductive ShutDown (h : Host α ε) : Host α ε → List (Note ε) → Prop where
  | again (closed : h.pool.phase = .closed) : ShutDown h h []
  | first (works : List (Move α ε)) (last : Host α ε) (new : List (Note ε))
      (taking : h.pool.phase = .taking) (working : ∀ move ∈ works, move.isWork = true)
      (ran : h.run? (.close :: (works ++ [.join])) = some (last, new)) : ShutDown h last new

theorem works_submit_nothing (works : List (Move α ε))
    (working : ∀ move ∈ works, move.isWork = true) (submitted results : Nat) :
    submissions submitted results (.close :: (works ++ [.join])) = [] := by
  have rest : ∀ moves : List (Move α ε), (∀ move ∈ moves, move.isWork = true) →
      submissions submitted results (moves ++ [.join]) = [] := by
    intro moves
    induction moves with
    | nil => exact fun _ => rfl
    | cons move rest ih =>
      intro all
      have later := ih fun other among => all other (List.mem_cons_of_mem _ among)
      have first := all move List.mem_cons_self
      cases move with
      | pickUp worker => exact later
      | finish worker answer => exact later
      | _ => cases first
  exact rest works working

theorem join_closes (h next : Host α ε) (new : List (Note ε))
    (joined : h.join? = some (next, new)) : next.pool.phase = .closed := by
  unfold join? at joined
  split at joined
  · simp only [Option.some.injEq, Prod.mk.injEq] at joined
    rw [← joined.1]
  · cases joined

theorem ShutDown.closed {h last : Host α ε} {new : List (Note ε)} (done : ShutDown h last new) :
    last.pool.phase = .closed := by
  cases done with
  | again closed => exact closed
  | first works _ _ taking working ran =>
    rw [host_run_follows, ← List.cons_append] at ran
    obtain ⟨mid, _, later, _, joined, _⟩ := follow_append_some step? h last _ _ new ran
    obtain ⟨_, _, _, moved, ended, _⟩ := follow_cons_some step? mid .join [] last later joined
    simp only [follow, Option.some.injEq, Prod.mk.injEq] at ended
    exact ended.1 ▸ join_closes mid _ _ moved

theorem ShutDown.past {workers : Nat} {thread : Nat → String} {h last : Host α ε}
    {notes new : List (Note ε)} {jobs : List (Job α ε)} {fate : JobId → Fate α}
    (done : ShutDown h last new) (ledger : Ledger workers thread h notes jobs fate) :
    Past h last new [] := by
  cases done with
  | again closed => exact .start
  | first works _ _ taking working ran =>
    have past := Past.of_run _ ledger ran
    rwa [works_submit_nothing works working] at past

end Host

def failures : Settlement → List Failure
  | .ok _ => []
  | .error f => [f]

structure Terminating (h : Host α ε) : Prop where
  bounded : ∀ works mid seen, (∀ move ∈ works, move.isWork = true) →
    h.run? (.close :: works) = some (mid, seen) →
      works.length ≤ 2 * h.pool.queue.length + h.pool.slots.length
  unblocked : ∀ works mid seen, (∀ move ∈ works, move.isWork = true) →
    h.run? (.close :: works) = some (mid, seen) →
      (∀ worker, mid.step? (.pickUp worker) = none) →
        (∀ (worker : Nat) (job : Job α ε), mid.pool.slots[worker]? ≠ some (.busy job)) →
          ∃ last more, mid.step? .join = some (last, more)

structure WasRun (h : Host α ε) (notes : List (Note ε)) (job : Job α ε) (worker : Nat)
    (answer : α) (outcome : Settlement) : Prop where
  own : outcome = (job.ending h.pool.threadOf worker answer).outcome
  story : storyOf notes job.id = (Fate.finished worker answer).story h.pool.threadOf job
  started : marks notes job.id .started = 1
  ended : marks notes job.id .ended = 1
  settled : ∀ id, job.completion = .settle id →
    h.results.outcome? id = some outcome ∧ settlementsOf notes id = [outcome]
  hooked : ∀ origin hook, job.completion = .detached origin (some hook) →
    hookCalls notes job.id = failures outcome

/-- What shutting down leaves behind. -/
structure Drained (workers : Nat) (last : Host α ε) (notes new : List (Note ε))
    (jobs : List (Job α ε)) : Prop where
  closed : last.pool.phase = .closed
  unqueued : last.pool.queue = []
  idle : last.pool.slots = []
  served : ¬ (0 < workers ∧ ∀ worker < workers, .died worker ∈ notes ++ new) →
    starts (notes ++ new) = acceptances notes ∧
      ∀ job ∈ jobs, .accepted job.id ∈ notes →
        ∃ worker answer outcome, WasRun last (notes ++ new) job worker answer outcome

structure Over (last mid : Host α ε) (notes more : List (Note ε)) (others : List (Job α ε)) :
    Prop where
  pool : mid.pool = { last.pool with submitted := mid.pool.submitted }
  unstarted : starts more = []
  unreported : reports more = 0
  again : ∀ end_ seen, mid.ShutDown end_ seen → end_ = mid ∧ seen = []
  promise : ∀ work, mid.submitPromised work =
    (⟨{ mid.pool with submitted := mid.pool.submitted + 1 },
        mid.results ++ [⟨some (.error .poolClosed), []⟩]⟩,
      [.rejected mid.pool.submitted .poolClosed,
        .settled mid.results.length (.error .poolClosed)],
      mid.results.length)
  detach : ∀ work origin hook, mid.submitDetached work origin hook =
    ({ mid with pool := { mid.pool with submitted := mid.pool.submitted + 1 } },
      .rejected mid.pool.submitted .poolClosed ::
        .warned (.failedAfterReturning origin .poolClosed) ::
          match hook with
          | none => []
          | some hook => .hooked mid.pool.submitted .caller .poolClosed ::
            (hook.acts .poolClosed).map (.acted .caller (some mid.pool.submitted)),
      hook.any fun own => own.breaksOff .caller .poolClosed)
  refused : ∀ job ∈ others, storyOf (notes ++ more) job.id =
    .rejected job.id .poolClosed :: job.report .caller (.error .poolClosed)
  settled : ∀ job ∈ others, ∀ id, job.completion = .settle id →
    mid.results.outcome? id = some (.error .poolClosed) ∧
      settlementsOf (notes ++ more) id = [.error .poolClosed]
  hooked : ∀ job ∈ others, ∀ origin hook, job.completion = .detached origin (some hook) →
    hookCalls (notes ++ more) job.id = [.poolClosed]

namespace Ledger

variable {workers : Nat} {thread : Nat → String} {h : Host α ε} {notes : List (Note ε)}
  {jobs : List (Job α ε)} {fate : JobId → Fate α}

theorem was_run (ledger : Ledger workers thread h notes jobs fate) (job : Job α ε)
    (member : job ∈ jobs) (worker : Nat) (answer : α)
    (finished : fate job.id = .finished worker answer) :
    WasRun h notes job worker answer (job.ending thread worker answer).outcome := by
  have told := ledger.stories.told job member
  rw [finished] at told
  refine ⟨by rw [ledger.named], by rw [ledger.named, told], ?_, ?_, fun id owed => ?_,
    fun origin hook owed => ?_⟩
  · rw [marks_story, told, marks_of_fate]
    rfl
  · rw [marks_story, told, marks_of_fate]
    rfl
  · have owes : job.owed? = some id := by simp [Job.owed?, owed]
    rw [ledger.debts.paid job member id owes, ledger.debts.once job member id owes, finished]
    exact ⟨rfl, rfl⟩
  · rw [calls_story, told, calls_of_fate thread job _ origin hook owed]
    simp only
    cases (job.ending thread worker answer).outcome <;> rfl

theorem closed_fate (ledger : Ledger workers thread h notes jobs fate)
    (closed : h.pool.phase = .closed) (calm : ∀ note ∈ notes, note.isMishap = false)
    (job : Job α ε) (member : job ∈ jobs) :
    (∃ worker answer, fate job.id = .finished worker answer) ∨
      (∃ f, fate job.id = .refused f) ∨ fate job.id = .dropped := by
  obtain ⟨unqueued, idle⟩ := ledger.closed_place closed job member
  cases held : fate job.id with
  | waiting => exact absurd (by rw [held]; rfl) unqueued
  | running worker => exact absurd (by rw [held]; rfl) idle
  | finished worker answer => exact Or.inl ⟨worker, answer, rfl⟩
  | spilled worker answer =>
    exact absurd held (ledger.never_spilled calm job member worker answer)
  | refused f => exact Or.inr (Or.inl ⟨f, rfl⟩)
  | dropped => exact Or.inr (Or.inr rfl)

theorem accepted_iff (ledger : Ledger workers thread h notes jobs fate) (job : Job α ε)
    (member : job ∈ jobs) : .accepted job.id ∈ notes ↔ ∀ f, fate job.id ≠ .refused f := by
  rw [← mem_story notes (.accepted job.id) job.id rfl, ledger.stories.told job member]
  cases fate job.id with
  | refused f =>
    have unhooked : .accepted job.id ∉ job.report .caller (.error f) := by
      unfold Job.report
      split <;> simp
    simp [Fate.story, unhooked]
  | _ => simp [Fate.story]

theorem discarded_of_dropped (ledger : Ledger workers thread h notes jobs fate) (job : Job α ε)
    (member : job ∈ jobs) (dropped : fate job.id = .dropped) : .discarded job.id ∈ notes := by
  refine (discarded_of_story notes job thread _ (ledger.stories.told job member)).2 ?_
  rw [dropped]
  rfl

end Ledger

structure Pool.Spent (last p : Pool α ε) (seen : List (Note ε)) : Prop where
  same : p = { last with submitted := p.submitted }
  unstarted : starts seen = []
  unaccepted : acceptances seen = []
  unreported : reports seen = 0
  refused : ∀ job f, .rejected job f ∈ seen → f = .poolClosed

theorem alarm_aside (job : Job α ε) (site : Site) (outcome : Settlement) :
    starts (job.alarm site outcome) = [] ∧ acceptances (job.alarm site outcome) = [] ∧
      ∀ id f, .rejected id f ∉ job.alarm site outcome := by
  refine ⟨List.filterMap_eq_nil_iff.2 fun note said => ?_,
    List.filterMap_eq_nil_iff.2 fun note said => ?_, fun id f said => ?_⟩
  · rcases mem_alarm job _ _ note said with ⟨_, _, rfl⟩ | ⟨_, rfl⟩ <;> rfl
  · rcases mem_alarm job _ _ note said with ⟨_, _, rfl⟩ | ⟨_, rfl⟩ <;> rfl
  · rcases mem_alarm job _ _ _ said with ⟨_, _, same⟩ | ⟨_, same⟩ <;> cases same

theorem Pool.Spent.motion {last p p' : Pool α ε} {seen shown : List (Note ε)}
    (closed : last.phase = .closed) (idle : last.slots = []) (spent : last.Spent p seen)
    (motion : Motion p p' shown) : last.Spent p' (seen ++ shown) := by
  have phase : p.phase = .closed := by rw [spent.same]; exact closed
  have slots : p.slots = [] := by rw [spent.same]; exact idle
  have shut : p.refusal? = some .poolClosed :=
    (refused_closed_iff p).2 (Or.inl (by simp [phase]))
  cases motion with
  | accepts job next open_ =>
    rw [shut] at open_
    cases open_
  | refuses job next f refused =>
    obtain rfl : .poolClosed = f := Option.some.inj (shut.symm.trans refused)
    obtain ⟨unstarted, unaccepted, unrejected⟩ := alarm_aside job .caller (.error .poolClosed)
    refine ⟨?_, ?_, ?_, ?_, fun other f rejected => ?_⟩
    · rw [spent.same]
    · rw [starts, List.filterMap_append, List.filterMap_cons_none rfl]
      exact List.append_eq_nil_iff.2 ⟨spent.unstarted, unstarted⟩
    · rw [acceptances, List.filterMap_append, List.filterMap_cons_none rfl]
      exact List.append_eq_nil_iff.2 ⟨spent.unaccepted, unaccepted⟩
    · rw [reports_append, spent.unreported, ← List.singleton_append, reports_append, reports_alarm]
      rfl
    · rcases List.mem_append.1 rejected with before | now
      · exact spent.refused other f before
      · rcases List.mem_cons.1 now with same | alarm
        · cases same
          rfl
        · exact absurd alarm (unrejected other f)
  | starts worker job rest free =>
    rw [slots] at free
    cases free
  | ends worker job ending busy =>
    rw [slots] at busy
    cases busy
  | kills worker job ending _ lost busy =>
    rw [slots] at busy
    cases busy
  | closes _ _ taking =>
    rw [phase] at taking
    cases taking
  | rests stopped =>
    rw [List.append_nil]
    exact spent
  | joins closing =>
    rw [phase] at closing
    cases closing

namespace Past

variable {workers : Nat} {thread : Nat → String} {last mid : Host α ε}
  {notes more : List (Note ε)} {jobs others : List (Job α ε)} {fate : JobId → Fate α}

theorem spent (past : Past last mid more others) (closed : last.pool.phase = .closed)
    (idle : last.pool.slots = []) : last.pool.Spent mid.pool (milestones more) :=
  past.keeps last.pool.Spent (fun _ _ _ _ before motion => before.motion closed idle motion)
    ⟨rfl, rfl, rfl, rfl, fun _ _ rejected => by cases rejected⟩

theorem refused_since (ledger : Ledger workers thread last notes jobs fate)
    (closed : last.pool.phase = .closed) (past : Past last mid more others) :
    ∃ fate', Ledger workers thread mid (notes ++ more) (jobs ++ others) fate' ∧
      ∀ job ∈ others, fate' job.id = .refused .poolClosed := by
  obtain ⟨fate', after⟩ := past.ledger ledger
  have spent := past.spent closed (ledger.places.ended closed).2
  refine ⟨fate', after, fun job among => ?_⟩
  have member : job ∈ jobs ++ others := List.mem_append_right jobs among
  have unknown : storyOf notes job.id = [] := by
    obtain ⟨i, found⟩ := List.mem_iff_getElem?.1 among
    have at_end : (jobs ++ others)[jobs.length + i]? = some job := by
      rw [List.getElem?_append_right (Nat.le_add_right _ _), Nat.add_sub_cancel_left, found]
    refine ledger.stories.untold job.id ?_
    rw [after.numbered _ job at_end]
    exact Nat.le_add_right _ _
  have since : ∀ note, note.job? = some job.id → note ∈ notes ++ more → note ∈ more := by
    intro note about shown
    refine (List.mem_append.1 shown).resolve_left fun before => ?_
    have told := (mem_story notes note job.id about).2 before
    rw [unknown] at told
    cases told
  have unaccepted : .accepted job.id ∉ notes ++ more := by
    intro accepted
    have now := since _ rfl accepted
    have read : job.id ∈ acceptances more := List.mem_filterMap.2 ⟨_, now, rfl⟩
    rw [← (order_milestones more).1, spent.unaccepted] at read
    cases read
  have refused : ∃ f, fate' job.id = .refused f := by
    refine Classical.byContradiction fun unrefused => unaccepted ?_
    exact (after.accepted_iff job member).2 fun f same => unrefused ⟨f, same⟩
  obtain ⟨f, same⟩ := refused
  have told : .rejected job.id f ∈ notes ++ more :=
    mem_of_story _ job thread _ (after.stories.told job member) _ (by rw [same]; exact .head _)
  have known := spent.refused job.id f ((mem_milestones more _ rfl).2 (since _ rfl told))
  rw [same, known]

end Past

theorem Host.rebuffed (h : Host α ε) (refused : h.pool.refusal? = some .poolClosed) :
    (∀ work, h.submitPromised work =
      (⟨{ h.pool with submitted := h.pool.submitted + 1 },
          h.results ++ [⟨some (.error .poolClosed), []⟩]⟩,
        [.rejected h.pool.submitted .poolClosed,
          .settled h.results.length (.error .poolClosed)],
        h.results.length)) ∧
      ∀ work origin hook, h.submitDetached work origin hook =
        ({ h with pool := { h.pool with submitted := h.pool.submitted + 1 } },
          .rejected h.pool.submitted .poolClosed ::
            .warned (.failedAfterReturning origin .poolClosed) ::
              match hook with
              | none => []
              | some hook => .hooked h.pool.submitted .caller .poolClosed ::
                (hook.acts .poolClosed).map (.acted .caller (some h.pool.submitted)),
          hook.any fun own => own.breaksOff .caller .poolClosed) := by
  refine ⟨fun work => ?_, fun work origin hook => ?_⟩
  · have rejecting := submit_refusing { h with results := h.results ++ [Cell.fresh] } work
      (.settle h.results.length) .poolClosed refused
    simp only [submitPromised, Pendings.create]
    rw [rejecting]
    simp [complete, Host.settle, Pendings.settle, Cell.fresh, Cell.settle]
  · rw [submitDetached, submit_refusing h work _ .poolClosed refused]
    cases hook <;> rfl

theorem Past.over {workers : Nat} {thread : Nat → String} {last mid : Host α ε}
    {notes more : List (Note ε)} {jobs others : List (Job α ε)} {fate : JobId → Fate α}
    (ledger : Ledger workers thread last notes jobs fate) (closed : last.pool.phase = .closed)
    (past : Past last mid more others) : Over last mid notes more others := by
  have spent := past.spent closed (ledger.places.ended closed).2
  have still : mid.pool.phase = .closed := by rw [spent.same]; exact closed
  have shut : mid.pool.refusal? = some .poolClosed :=
    (refused_closed_iff mid.pool).2 (Or.inl (by simp [still]))
  obtain ⟨promise, detach⟩ := mid.rebuffed shut
  obtain ⟨fate', after, refused⟩ := past.refused_since ledger closed
  have member : ∀ job ∈ others, job ∈ jobs ++ others := fun job => List.mem_append_right jobs
  have told : ∀ job ∈ others, storyOf (notes ++ more) job.id =
      .rejected job.id .poolClosed :: job.report .caller (.error .poolClosed) := by
    intro job among
    rw [after.stories.told job (member job among), refused job among]
    rfl
  refine ⟨spent.same, ?_, ?_, ?_, promise, detach, told, fun job among id owed => ?_,
    fun job among origin hook owed => ?_⟩
  · rw [← (order_milestones more).2.1, spent.unstarted]
  · rw [← reports_milestones, spent.unreported]
  · intro end_ seen done
    cases done with
    | again => exact ⟨rfl, rfl⟩
    | first works _ _ taking =>
      rw [still] at taking
      cases taking
  · have owes : job.owed? = some id := by simp [Job.owed?, owed]
    rw [after.debts.paid job (member job among) id owes,
      after.debts.once job (member job among) id owes, refused job among]
    exact ⟨rfl, rfl⟩
  · rw [calls_story, told job among]
    exact calls_of_fate thread job (.refused .poolClosed) origin hook owed

theorem Fate.accepted_first (thread : Nat → String) (job : Job α ε) (fate : Fate α) :
    .accepted job.id ∉ (fate.story thread job).tail := by
  have unhooked : ∀ site outcome, .accepted job.id ∉ job.report site outcome := by
    intro site outcome
    unfold Job.report
    split <;> simp
  cases fate with
  | finished worker answer => simp [Fate.story, Job.beginning, Job.conclusion, unhooked]
  | spilled worker answer => simp [Fate.story, Job.beginning, Job.spillage]
  | refused f => exact unhooked _ _
  | _ => simp [Fate.story, Job.beginning]

theorem Ledger.accepted_before {workers : Nat} {thread : Nat → String} {h last : Host α ε}
    {notes new : List (Note ε)} {jobs : List (Job α ε)} {fate fate' : JobId → Fate α}
    (before : Ledger workers thread h notes jobs fate)
    (after : Ledger workers thread last (notes ++ new) jobs fate') : acceptances new = [] := by
  refine List.filterMap_eq_nil_iff.2 fun note shown => ?_
  cases note with
  | accepted id =>
    have among : .accepted id ∈ storyOf new id := (mem_story new _ id rfl).2 shown
    have whole : storyOf (notes ++ new) id = storyOf notes id ++ storyOf new id :=
      story_append notes new id
    by_cases known : id < jobs.length
    · have found : jobs[id]? = some jobs[id] := List.getElem?_eq_getElem known
      have named : jobs[id].id = id := before.numbered id _ found
      have member : jobs[id] ∈ jobs := List.getElem_mem known
      have told := before.stories.told jobs[id] member
      have retold := after.stories.told jobs[id] member
      have first := (fate' id).accepted_first thread jobs[id]
      rw [named] at told retold first
      refine absurd ?_ first
      rw [← retold, whole]
      cases earlier : storyOf notes id with
      | nil =>
        rw [told] at earlier
        cases held : fate id <;> rw [held] at earlier <;> cases earlier
      | cons head tail => exact List.mem_append_right tail among
    · have silent := after.stories.untold id (Nat.le_of_not_lt known)
      rw [whole] at silent
      rw [(List.append_eq_nil_iff.1 silent).2] at among
      cases among
  | _ => rfl

theorem Ledger.drained {workers : Nat} {thread : Nat → String} {last : Host α ε}
    {notes new : List (Note ε)} {jobs : List (Job α ε)} {fate : JobId → Fate α}
    (ledger : Ledger workers thread last (notes ++ new) jobs fate)
    (ordered : Ordered last.pool (acceptances (notes ++ new)) (starts (notes ++ new))
      (discards (notes ++ new)))
    (calm : ∀ note ∈ notes ++ new, note.isMishap = false)
    (closed : last.pool.phase = .closed) (same : acceptances new = []) :
    Drained workers last notes new jobs := by
  obtain ⟨unqueued, idle⟩ := ledger.places.ended closed
  refine ⟨closed, unqueued, idle, fun spared => ?_⟩
  have kept : ∀ job, .discarded job ∉ notes ++ new := fun job lost =>
    spared (ledger.deaths.desolate job lost)
  refine ⟨?_, fun job member accepted => ?_⟩
  · have none : discards (notes ++ new) = [] := by
      refine List.filterMap_eq_nil_iff.2 fun note shown => ?_
      cases note with
      | discarded job => exact absurd shown (kept job)
      | _ => rfl
    have served := ordered.served
    rw [none, unqueued, List.map_nil, List.append_nil, List.append_nil] at served
    rw [← served, acceptances, List.filterMap_append]
    exact (congrArg _ same).trans (List.append_nil _)
  · have unrefused := (ledger.accepted_iff job member).1 (List.mem_append_left new accepted)
    have ended := ledger.closed_fate closed calm job member
    rcases ended with ⟨worker, answer, ran⟩ | ⟨f, refused⟩ | gone
    · exact ⟨worker, answer, _, ledger.was_run job member worker answer ran⟩
    · exact absurd refused (unrefused f)
    · exact absurd (ledger.discarded_of_dropped job member gone) (kept job.id)

theorem Host.terminating {workers : Nat} {thread : Nat → String} {h : Host α ε}
    {notes : List (Note ε)} {jobs : List (Job α ε)} {fate : JobId → Fate α}
    (ledger : Ledger workers thread h notes jobs fate) (tended : h.pool.Tended)
    (taking : h.pool.phase = .taking) : Terminating h := by
  let stopped : Host α ε := { h with pool := { h.pool with phase := .closing } }
  have closed := stopped.sweep_motion
  have closing : h.close = stopped.sweep := if_pos taking
  rw [← closing] at closed
  obtain ⟨phase, lighter⟩ := closed.lighter
  have works_on : ∀ works mid seen, (∀ move ∈ works, move.isWork = true) →
      h.run? (.close :: works) = some (mid, seen) →
        mid.pool.phase = .closing ∧ works.length + mid.pool.burden ≤ h.pool.burden := by
    intro works mid seen working ran
    rw [host_run_follows] at ran
    obtain ⟨next, first, others, moved, went, _⟩ :=
      follow_cons_some step? h .close works mid seen ran
    obtain rfl : h.close.1 = next := congrArg Prod.fst (Option.some.inj moved)
    rw [← host_run_follows] at went
    obtain ⟨same, left⟩ := works_lighten h.close.1 mid works others working went
    exact ⟨same.trans phase, Nat.le_trans left lighter⟩
  refine ⟨fun works mid seen working ran => ?_, fun works mid seen working ran untaken free => ?_⟩
  · have left := (works_on works mid seen working ran).2
    have bound := h.pool.burden_bound
    omega
  · have past := Past.of_run _ ledger ran
    have later := past.keeps (fun p _ => p.Tended) (fun _ _ _ _ before motion =>
      motion.tended before) tended
    exact join_possible mid (works_on works mid seen working ran).1 later untaken free

theorem shutdown_drains_and_is_final (threadName : String) (capacity : Nat) (lasting : Bool)
    (workers : Nat) (h : Host α ε) (notes : List (Note ε)) (jobs : List (Job α ε))
    (reached : Past (.fresh threadName capacity lasting workers) h notes jobs) :
    (h.pool.phase = .taking → Terminating h) ∧
      ∀ last new, h.ShutDown last new → Drained workers last notes new jobs ∧
        ∀ mid more others, Past last mid more others →
          Over last mid (notes ++ new) more others := by
  obtain ⟨fate, ledger⟩ :=
    reached.ledger (Ledger.fresh threadName capacity lasting workers)
  rw [List.nil_append, List.nil_append] at ledger
  refine ⟨fun taking => ?_, fun last new done => ?_⟩
  · have tended := reached.keeps (fun p _ => p.Tended) (fun _ _ _ _ before motion =>
      motion.tended before) fun closing => by cases closing
    exact Host.terminating ledger tended taking
  · have past := done.past ledger
    obtain ⟨fate', after⟩ := past.ledger ledger
    rw [List.append_nil] at after
    have whole := reached.trans past
    have ordered := whole.ordered
      ⟨rfl, .nil, fun job member => (List.not_mem_nil member).elim, fun _ => Nat.zero_le _,
        fun some => absurd rfl some⟩
    refine ⟨after.drained ordered whole.calm done.closed (ledger.accepted_before after), ?_⟩
    exact fun mid more others later => later.over after done.closed

def courier : Module Unit Unit :=
  ⟨"courier",
    [("fetch", ⟨"fetch", ⟨[], .promise⟩, fun _ =>
        ⟨[], .ok (.blocking (uttering (.returned (.ok .null))))⟩⟩),
      ("send", ⟨"send", ⟨[], .void⟩, fun _ =>
        ⟨[], .ok (.detached (uttering (.brokeOff .silent)) calmHook)⟩⟩)]⟩

def busyCalls : List (Bridge.Move Unit) :=
  [.invoke "courier" "fetch" [], .invoke "courier" "send" [], .pickUp 0]

theorem busy_bridge_is_drained : ∃ h notes jobs last new,
    (⟨[("courier", courier)]⟩ : Bridge Unit Unit).run? (.fresh "io" 0 false 1) busyCalls =
        some (h, notes) ∧
      Past (.fresh "io" 0 false 1) h notes jobs ∧ h.pool.queue.length = 1 ∧
      h.ShutDown last new ∧ starts (notes ++ new) = [0, 1] ∧
      hookCalls (notes ++ new) 1 = [.brokenOff "unknown panic"] ∧
      Drained 1 last notes new jobs := by
  have past : ∃ jobs, Past (.fresh "io" 0 false 1 : Host Unit Unit) _ _ jobs :=
    Past.of_bridge_run ⟨[("courier", courier)]⟩ busyCalls rfl
  obtain ⟨jobs, past⟩ := past
  let works : List (Host.Move Unit Unit) := [.finish 0 (), .pickUp 0, .finish 0 ()]
  have working : ∀ move ∈ works, move.isWork = true := by decide
  refine ⟨_, _, jobs, _, _, rfl, past, rfl, .first works _ _ rfl working rfl, rfl, rfl, ?_⟩
  exact ((shutdown_drains_and_is_final "io" 0 false 1 _ _ jobs past).2 _ _
    (.first works _ _ rfl working rfl)).1

end HostBridge
