import HostBridge.Proofs.Pool.Mishap

set_option autoImplicit false

namespace HostBridge

variable {α ε : Type}

structure Manning (workers : Nat) (lasting : Bool) (h : Host α ε) (notes : List (Note ε))
    (jobs : List (Job α ε)) : Prop where
  staffed : Staffed workers h.pool notes jobs
  same : h.pool.lasting = lasting
  refused : ∀ job, .rejected job .poolClosed ∈ notes → h.pool.Shut
  lost : ∀ job, .discarded job ∈ notes → h.pool.hasLiveWorker = false

theorem Staffed.happening {workers : Nat} {p p' : Pool α ε} {notes shown : List (Note ε)}
    {jobs : List (Job α ε)} (staffed : Staffed workers p notes jobs)
    (happening : Happening p p' shown) (crew : p.phase ≠ .closed → p.slots.length = workers)
    (ended : p.phase = .closed → p.slots = [])
    (known : ∀ (worker : Nat) (job : Job α ε), p.slots[worker]? = some (.busy job) →
      jobs[job.id]? = some job) :
    Staffed workers p' (notes ++ shown) jobs := by
  cases happening with
  | motion _ _ motion => exact staffed.motion motion crew ended known
  | mishap worker job ending note _ lost busy sudden swept =>
    have open_ : p.phase ≠ .closed := fun closed => by
      rw [ended closed] at busy
      cases busy
    have quiet : losses (Host.breakageNotes (ε := ε) ending) jobs = 0 := by
      cases ending <;> rfl
    have cost : losses [note] jobs = 1 := by
      simp [losses, Note.costs, sudden]
    have silent : reports [note] = 0 := by
      apply reports_none
      intro other member same
      rw [← List.mem_singleton.1 member, same] at sudden
      cases sudden
    apply staffed.buries open_ worker job busy _ ?_ ?_ _ lost swept
    · rw [losses_append, quiet, cost]
    · rw [reports_append, silent]
      cases ending <;> rfl

theorem Ledger.busy_known {workers : Nat} {thread : Nat → String} {h : Host α ε}
    {notes : List (Note ε)} {jobs : List (Job α ε)} {fate : JobId → Fate α}
    (ledger : Ledger workers thread h notes jobs fate) (worker : Nat) (job : Job α ε)
    (busy : h.pool.slots[worker]? = some (.busy job)) : jobs[job.id]? = some job :=
  ledger.numbered.get job ((ledger.places.busy worker job).1 busy).1

namespace Manning

variable {workers : Nat} {lasting : Bool} {h next : Host α ε} {notes new : List (Note ε)}
  {jobs : List (Job α ε)}

theorem step {thread : Nat → String} {fate : JobId → Fate α} {event : Host.Event α ε}
    (manning : Manning workers lasting h notes jobs)
    (ledger : Ledger workers thread h notes jobs fate) (more : List (Job α ε))
    (met : h.meet? event = some (next, new)) :
    Manning workers lasting next (notes ++ new) (jobs ++ more) := by
  have happening := Host.meet_happening h next event new met
  refine ⟨?_, happening.lasting.trans manning.same, fun job rejected => ?_, fun job lost => ?_⟩
  · -- Nothing was seen of the jobs that are new.
    have staffed : Staffed workers h.pool notes (jobs ++ more) := by
      refine ⟨?_, ?_⟩ <;> rw [losses_more ledger.stories more]
      · exact manning.staffed.living
      · exact manning.staffed.reported
    have after := staffed.happening happening ledger.deaths.staffed
      (fun closed => (ledger.places.ended closed).2) fun worker job busy => by
        have known := ledger.busy_known worker job busy
        rwa [List.getElem?_append_left (List.getElem?_eq_some_iff.1 known).1]
    refine ⟨?_, ?_⟩
    · rw [losses_append, ← losses_milestones new, ← losses_append]
      exact after.living
    · rw [reports_append, ← reports_milestones new, ← reports_append, losses_append,
        ← losses_milestones new, ← losses_append]
      exact after.reported
  · rcases List.mem_append.1 rejected with before | now
    · exact happening.shut (manning.refused job before)
    · have refused := happening.rejection job _ ((mem_milestones new _ rfl).2 now)
      exact happening.shut ((refused_closed_iff h.pool).1 refused)
  · rcases List.mem_append.1 lost with before | now
    · exact happening.lifeless (manning.lost job before)
    · exact happening.discard job ((mem_milestones new _ rfl).2 now)

theorem fresh (threadName : String) (capacity : Nat) (lasting : Bool) (workers : Nat) :
    Manning workers lasting (Host.fresh threadName capacity lasting workers : Host α ε) [] [] := by
  refine ⟨⟨fun _ => ?_, rfl⟩, rfl, fun _ rejected => ?_, fun _ lost => ?_⟩
  · change (List.replicate workers (Slot.idle (α := α) (ε := ε))).countP Slot.isLive + 0 = workers
    rw [List.countP_replicate]
    rfl
  · cases rejected
  · cases lost

end Manning

namespace Host

def Move.warnings (workers : Nat) : Move α ε → List Warning
  | .detach _ origin _ => [.failedAfterReturning origin .poolClosed]
  | .join => List.replicate workers .workerDied
  | _ => []

theorem warnings_milestones (notes : List (Note ε)) :
    (milestones notes).filterMap Note.warning? = notes.filterMap Note.warning? :=
  filterMap_milestones _ (fun note passed => by cases note <;> first | rfl | cases passed) notes

theorem join_some (h next : Host α ε) (new : List (Note ε)) (joined : h.join? = some (next, new)) :
    h.pool.phase = .closing ∧ new = List.replicate h.pool.deadCount (.warned .workerDied) := by
  unfold join? at joined
  split at joined
  · next drained =>
    simp only [Option.some.injEq, Prod.mk.injEq] at joined
    exact ⟨drained.1, joined.2.symm⟩
  · cases joined

theorem lifeless_step (workers : Nat) (h next : Host α ε) (move : Move α ε) (new : List (Note ε))
    (gone : h.pool.hasLiveWorker = false)
    (crew : h.pool.phase ≠ .closed → h.pool.slots.length = workers)
    (moved : h.step? move = some (next, new)) :
    (∀ job ∈ submissions h.pool.submitted h.results.length [move],
      .rejected job.id .poolClosed ∈ new) ∧
    new.filterMap Note.warning? = move.warnings workers := by
  have refused : h.pool.refusal? = some .poolClosed :=
    (refused_closed_iff h.pool).2 (Or.inr gone)
  have nobody : ∀ (worker : Nat) (slot : Slot α ε), slot.isLive = true →
      h.pool.slots[worker]? ≠ some slot := fun worker slot live held => by
    rw [live_of_slot h.pool worker slot live held] at gone
    cases gone
  cases move with
  | promise work =>
    simp only [step?, Option.some.injEq, Prod.mk.injEq] at moved
    have rejecting := submit_refusing { h with results := h.results ++ [Cell.fresh] } work
      (.settle h.results.length) .poolClosed refused
    rw [← moved.2]
    change (∀ job ∈ _, _ ∈ (submit _ work (.settle h.results.length)).2.1) ∧
      (submit _ work (.settle h.results.length)).2.1.filterMap _ = _
    rw [rejecting]
    refine ⟨fun job member => ?_, rfl⟩
    rw [List.mem_singleton.1 member]
    exact .head _
  | detach work origin hook =>
    simp only [step?, Option.some.injEq, Prod.mk.injEq] at moved
    rw [← moved.2, submitDetached, submit_refusing h work _ .poolClosed refused]
    refine ⟨fun job member => ?_, ?_⟩
    · rw [List.mem_singleton.1 member]
      exact .head _
    · rw [← warnings_milestones, milestones_cons, milestones_complete]
      cases hook <;> rfl
  | pickUp worker =>
    obtain ⟨_, _, idle, _⟩ := pick_up_some h next worker new moved
    exact absurd idle (nobody worker _ rfl)
  | finish worker answer =>
    obtain ⟨_, _, _, busy, _⟩ := finish_some h next worker answer new moved
    exact absurd busy (nobody worker _ rfl)
  | close =>
    simp only [step?, Option.some.injEq] at moved
    refine ⟨fun job member => (List.not_mem_nil member).elim, ?_⟩
    rw [← show h.close.2 = new from congrArg Prod.snd moved, ← warnings_milestones]
    unfold close
    split
    · refine List.filterMap_eq_nil_iff.2 fun note shown => ?_
      obtain ⟨_, _, rfl⟩ :=
        (sweep_motion { h with pool := { h.pool with phase := .closing } }).lost note shown
      rfl
    · rfl
  | join =>
    obtain ⟨closing, rfl⟩ := join_some h next new moved
    refine ⟨fun job member => (List.not_mem_nil member).elim, ?_⟩
    have whole := live_and_dead h.pool
    have none : h.pool.liveCount = 0 := by
      refine Nat.eq_zero_of_not_pos fun some => ?_
      rw [(live_count_pos h.pool).1 some] at gone
      cases gone
    rw [none, Nat.zero_add, crew (by simp [closing])] at whole
    rw [whole]
    exact List.filterMap_replicate_of_some rfl

def Event.warnings (workers : Nat) : Event α ε → List Warning
  | .move own => own.warnings workers
  | _ => []

theorem lifeless_meet (workers : Nat) (h next : Host α ε) (event : Event α ε)
    (new : List (Note ε)) (gone : h.pool.hasLiveWorker = false)
    (crew : h.pool.phase ≠ .closed → h.pool.slots.length = workers)
    (met : h.meet? event = some (next, new)) :
    (∀ job ∈ submissions h.pool.submitted h.results.length event.move?.toList,
      .rejected job.id .poolClosed ∈ new) ∧
    new.filterMap Note.warning? = event.warnings workers := by
  rcases event.move_or_struck with ⟨move, rfl⟩ | ⟨worker, answer, struck⟩
  · exact lifeless_step workers h next move new gone crew met
  · obtain ⟨job, _, _, busy, _⟩ := mishap_swept h next event worker answer new struck met
    rw [live_of_slot h.pool worker (.busy job) rfl busy] at gone
    cases gone

theorem lifeless_endure (workers : Nat) (thread : Nat → String) (h last : Host α ε)
    (notes new : List (Note ε)) (jobs : List (Job α ε)) (fate : JobId → Fate α)
    (events : List (Event α ε)) (ledger : Ledger workers thread h notes jobs fate)
    (gone : h.pool.hasLiveWorker = false) (ran : h.endure? events = some (last, new)) :
    (∀ job ∈ handedIn h.pool.submitted h.results.length events,
      .rejected job.id .poolClosed ∈ new) ∧
    new.filterMap Note.warning? = events.flatMap (Event.warnings workers) := by
  rw [endure_follows] at ran
  induction events generalizing h notes new jobs fate with
  | nil =>
    simp only [follow, Option.some.injEq, Prod.mk.injEq] at ran
    obtain ⟨rfl, rfl⟩ := ran
    exact ⟨fun job member => (List.not_mem_nil member).elim, rfl⟩
  | cons event rest ih =>
    obtain ⟨next, first, others, met, went, rfl⟩ :=
      follow_cons_some meet? h event rest last new ran
    obtain ⟨middle, now⟩ :=
      meet_ledger workers thread h next notes first jobs fate event ledger met
    obtain ⟨refused, said⟩ :=
      lifeless_meet workers h next event first gone ledger.deaths.staffed met
    obtain ⟨others_refused, others_said⟩ := ih next (notes ++ first) others _ middle now
      ((meet_happening h next event first met).lifeless gone) went
    have counted := now.places.counted
    rw [List.length_append, ← ledger.places.counted] at counted
    rw [counted, (meet_results h next event first met).1] at others_refused
    rw [handed_in_cons, List.filterMap_append, List.flatMap_cons, said, others_said]
    refine ⟨fun job member => ?_, rfl⟩
    rcases List.mem_append.1 member with here | after
    · exact List.mem_append_left _ (refused job here)
    · exact List.mem_append_right _ (others_refused job after)

end Host

-- The jobs that waited are gone: those that wait for them are told so, and nothing else is seen of
-- them, then or later.
structure Abandoned (h next : Host α ε) (notes new : List (Note ε)) : Prop where
  emptied : next.pool.queue = []
  settled : ∀ job ∈ h.pool.queue, ∀ id, job.completion = .settle id →
    next.results.outcome? id = some (.error .abandoned) ∧
      settlementsOf new id = [.error .abandoned]
  silent : ∀ job ∈ h.pool.queue, ∀ later last more, next.endure? later = some (last, more) →
    storyOf (notes ++ new ++ more) job.id = [.accepted job.id, .discarded job.id]

namespace Ledger

variable {workers : Nat} {thread : Nat → String} {h next : Host α ε} {notes new : List (Note ε)}
  {jobs : List (Job α ε)} {fate : JobId → Fate α}

theorem dropped_of_discarded (ledger : Ledger workers thread h notes jobs fate) (job : Job α ε)
    (member : job ∈ jobs) (lost : .discarded job.id ∈ notes) : fate job.id = .dropped := by
  have gone := (discarded_of_story notes job thread _ (ledger.stories.told job member)).1 lost
  cases held : fate job.id <;> rw [held] at gone <;> cases gone

theorem abandoned (ledger : Ledger workers thread h notes jobs fate) (event : Host.Event α ε)
    (met : h.meet? event = some (next, new)) (emptied : next.pool.queue = [])
    (lost : ∀ job ∈ h.pool.queue, .discarded job.id ∈ new) : Abandoned h next notes new := by
  obtain ⟨fate', after⟩ :=
    Host.meet_ledger workers thread h next notes new jobs fate event ledger met
  have known : ∀ job ∈ h.pool.queue, job ∈ jobs ∧ fate job.id = .waiting := fun job queued =>
    ((ledger.places.waits job).1 queued).imp_right (waiting_of_isWaiting _)
  refine ⟨emptied, fun job queued id owed => ?_, fun job queued later last more ran => ?_⟩
  · obtain ⟨member, waiting⟩ := known job queued
    have member' := List.mem_append_left
      (Host.submissions h.pool.submitted h.results.length event.move?.toList) member
    have dropped := after.dropped_of_discarded job member'
      (List.mem_append_right _ (lost job queued))
    have owes : job.owed? = some id := by simp [Job.owed?, owed]
    have before := ledger.debts.once job member id owes
    have whole := after.debts.once job member' id owes
    rw [waiting] at before
    rw [dropped, settlements_append, before] at whole
    refine ⟨?_, whole⟩
    rw [after.debts.paid job member' id owes, dropped]
    rfl
  · obtain ⟨fate'', whole⟩ := Host.endure_ledger workers thread next last (notes ++ new) more _
      fate' later after ran
    have member' := List.mem_append_left
      (Host.handedIn next.pool.submitted next.results.length later)
      (List.mem_append_left
        (Host.submissions h.pool.submitted h.results.length event.move?.toList)
        (known job queued).1)
    have dropped := whole.dropped_of_discarded job member'
      (List.mem_append_left _ (List.mem_append_right _ (lost job queued)))
    rw [whole.stories.told job member', dropped]
    rfl

end Ledger

structure Stranded (h next : Host α ε) (notes new : List (Note ε)) : Prop where
  kept : next.pool.queue = h.pool.queue
  unsettled : ∀ job ∈ h.pool.queue, ∀ id, job.completion = .settle id →
    next.results.outcome? id = none
  closing : ∀ last more, next.step? .close = some (last, more) →
    Abandoned next last (notes ++ new) more

def KilledByHook (h : Host α ε) (new : List (Note ε)) (worker : Nat) (answer : α) : Prop :=
  ∃ job origin hook f, h.pool.slots[worker]? = some (.busy job) ∧
    job.completion = .detached origin (some hook) ∧
    (job.ending h.pool.threadOf worker answer).outcome = .error f ∧
    hook.breaksOff (.worker worker) f = true ∧
    new.filterMap Note.warning? =
      (Host.breakageNotes (ε := ε) (job.ending h.pool.threadOf worker answer)).filterMap
        Note.warning? ++ [.failedAfterReturning origin f]

-- What the death of the last worker brings about. Later warnings are about later jobs and the dead.
structure LastDeath (workers : Nat) (lasting : Bool) (h next : Host α ε)
    (notes new : List (Note ε)) : Prop where
  abandoned : lasting = false ∨ h.pool.phase ≠ .taking → Abandoned h next notes new
  stranded : lasting = true → h.pool.phase = .taking → Stranded h next notes new
  afterwards : ∀ later last more, next.endure? later = some (last, more) →
    (∀ job ∈ Host.handedIn next.pool.submitted next.results.length later,
      .rejected job.id .poolClosed ∈ more) ∧
    more.filterMap Note.warning? = later.flatMap (Host.Event.warnings workers)

theorem alarm_hooked (job : Job α ε) (site : Site) (f : Failure) (origin : String) (hook : Hook ε)
    (owed : job.completion = .detached origin (some hook)) :
    job.alarm site (.error f) =
      [.warned (.failedAfterReturning origin f), .hooked job.id site f] := by
  simp only [Job.alarm, owed]

theorem live_of_set (p : Pool α ε) (worker : Nat) (slot held : Slot α ε)
    (found : p.slots[worker]? = some held) (live : slot.isLive = true) :
    (Pool.hasLiveWorker { p with slots := p.slots.set worker slot }) = true :=
  live_of_slot _ worker slot live
    (List.getElem?_set_self (List.getElem?_eq_some_iff.1 found).1)

namespace Swept

variable {p p' : Pool α ε} {lost : List (Note ε)}

theorem empties (swept : Swept p p' lost) (gone : p.hasLiveWorker = false)
    (ended : p.lasting = false ∨ p.phase ≠ .taking) :
    p'.queue = [] ∧ ∀ job ∈ p.queue, .discarded job.id ∈ lost := by
  cases swept with
  | kept needed =>
    rcases needed with live | ⟨lasting, taking⟩
    · rw [gone] at live
      cases live
    · rcases ended with brief | stopped
      · rw [lasting] at brief
        cases brief
      · exact absurd taking stopped
  | emptied => exact ⟨rfl, fun job queued => List.mem_map.2 ⟨job, queued, rfl⟩⟩

theorem keeps (swept : Swept p p' lost) (lasting : p.lasting = true) (taking : p.phase = .taking) :
    p' = p := by
  cases swept with
  | kept => rfl
  | emptied _ ended =>
    rcases ended with brief | stopped
    · rw [lasting] at brief
      cases brief
    · exact absurd taking stopped

end Swept

namespace Ledger

variable {workers : Nat} {thread : Nat → String} {h next : Host α ε} {notes new : List (Note ε)}
  {jobs : List (Job α ε)} {fate : JobId → Fate α}

theorem stranded (ledger : Ledger workers thread h notes jobs fate) (event : Host.Event α ε)
    (met : h.meet? event = some (next, new)) (queue : next.pool.queue = h.pool.queue)
    (taking : next.pool.phase = .taking) (gone : next.pool.hasLiveWorker = false) :
    Stranded h next notes new := by
  obtain ⟨fate', after⟩ :=
    Host.meet_ledger workers thread h next notes new jobs fate event ledger met
  refine ⟨queue, fun job queued id owed => ?_, fun last more closed => ?_⟩
  · obtain ⟨member, waits⟩ := (after.places.waits job).1 (queue ▸ queued)
    rw [after.debts.paid job member id (by simp [Job.owed?, owed]), waiting_of_isWaiting _ waits]
    rfl
  · have closing : (last, more) = Host.sweep { next with pool := { next.pool with
        phase := .closing } } := by
      simpa [Host.step?, Host.close, taking, eq_comm] using closed
    have swept := Host.sweep_motion { next with pool := { next.pool with phase := .closing } }
    rw [← closing] at swept
    obtain ⟨emptied, lost⟩ := swept.empties gone (Or.inr Phase.noConfusion)
    exact after.abandoned (.move .close) closed emptied fun job queued =>
      (mem_milestones more _ rfl).1 (lost job queued)

theorem last_death (ledger : Ledger workers thread h notes jobs fate) (event : Host.Event α ε)
    (met : h.meet? event = some (next, new)) (gone : next.pool.hasLiveWorker = false) (worker : Nat)
    (said lost : List (Note ε)) (shown : milestones new = said ++ .died worker :: lost)
    (swept : Swept { h.pool with slots := h.pool.slots.set worker .dead } next.pool lost) :
    LastDeath workers h.pool.lasting h next notes new := by
  have dead :
      Pool.hasLiveWorker { h.pool with slots := h.pool.slots.set worker .dead } = false := by
    rw [swept.same] at gone
    exact gone
  refine ⟨fun ended => ?_, fun lasting taking => ?_, fun later last more ran => ?_⟩
  · obtain ⟨emptied, lost⟩ := swept.empties dead ended
    apply ledger.abandoned event met emptied
    intro job queued
    apply (mem_milestones new _ rfl).1
    rw [shown]
    exact List.mem_append_right _ (List.mem_cons_of_mem _ (lost job queued))
  · have same := swept.keeps lasting taking
    apply ledger.stranded event met ?_ ?_ gone
    · rw [same]
    · rw [same]
      exact taking
  · obtain ⟨fate', after⟩ :=
      Host.meet_ledger workers thread h next notes new jobs fate event ledger met
    exact Host.lifeless_endure workers thread next last (notes ++ new) more _ fate' later after
      gone ran

end Ledger

theorem Swept.warnings {p p' : Pool α ε} {lost : List (Note ε)} (swept : Swept p p' lost) :
    lost.filterMap Note.warning? = [] := by
  apply List.filterMap_eq_nil_iff.2
  intro note member
  obtain ⟨_, _, rfl⟩ := swept.lost note member
  rfl

theorem killed_by_hook (h next : Host α ε) (worker : Nat) (answer : α) (new : List (Note ε))
    (finished : h.finish? worker answer = some (next, new))
    (gone : next.pool.hasLiveWorker = false) :
    KilledByHook h new worker answer ∧
      ∃ said lost, milestones new = said ++ .died worker :: lost ∧
        Swept { h.pool with slots := h.pool.slots.set worker .dead } next.pool lost := by
  obtain ⟨job, busy, ⟨_, _, pool⟩ | ⟨fatal, lost, shown, swept⟩⟩ :=
    Host.finish_motion h next worker answer new finished
  · rw [pool, live_of_set h.pool worker .idle _ busy rfl] at gone
    cases gone
  · refine ⟨?_, _, lost, shown, swept⟩
    obtain ⟨origin, hook, f, owed, failed, broke⟩ := (fatal_iff job _ _).1 fatal
    refine ⟨job, origin, hook, f, busy, owed, failed, broke, ?_⟩
    rw [← Host.warnings_milestones, shown, List.filterMap_append, List.filterMap_append,
      List.filterMap_cons_none rfl, swept.warnings, List.append_nil]
    rw [failed, alarm_hooked job _ f origin hook owed]
    rfl

/-- What is known of the workers after any events of a pool. -/
structure Workforce (workers : Nat) (lasting : Bool) (h : Host α ε) (notes : List (Note ε))
    (jobs : List (Job α ε)) : Prop where
  living : h.pool.phase ≠ .closed →
    h.pool.liveCount + breakOffs notes jobs + mishaps notes = workers ∧
      h.pool.deadCount = breakOffs notes jobs + mishaps notes
  unharmed : ∀ worker answer job next new, h.pool.slots[worker]? = some (.busy job) →
    h.step? (.finish worker answer) = some (next, new) →
      (∀ origin hook f, job.completion = .detached origin (some hook) →
        (job.ending h.pool.threadOf worker answer).outcome = .error f →
          hook.breaksOff (.worker worker) f = false) → next.pool.liveCount = h.pool.liveCount
  struck : ∀ event worker answer next new, event.struck? = some (worker, answer) →
    h.meet? event = some (next, new) → ∃ job, h.pool.slots[worker]? = some (.busy job) ∧
      next.pool.liveCount + 1 = h.pool.liveCount ∧
      new.filterMap Note.warning? =
        (Host.breakageNotes (ε := ε) (job.ending h.pool.threadOf worker answer)).filterMap
          Note.warning? ∧
      (next.pool.hasLiveWorker = false → LastDeath workers lasting h next notes new)
  spilled : ∀ worker answer next new, h.meet? (.spill worker answer) = some (next, new) →
    ∃ job, h.pool.slots[worker]? = some (.busy job) ∧
      job.ending h.pool.threadOf worker answer = .brokeOff .silent ∧
      (∀ id, job.completion = .settle id → next.results.outcome? id = some (.error .abandoned)) ∧
      ∀ origin hook, job.completion = .detached origin (some hook) →
        hookCalls (notes ++ new) job.id = []
  welcome : h.pool.phase = .taking → h.pool.hasLiveWorker = true →
    ∀ job, .rejected job .poolClosed ∉ notes
  kept : h.pool.hasLiveWorker = true → ∀ job, .discarded job ∉ notes
  last : ∀ worker answer next new, h.step? (.finish worker answer) = some (next, new) →
    next.pool.hasLiveWorker = false →
      KilledByHook h new worker answer ∧ LastDeath workers lasting h next notes new
  reported : reports notes =
    if h.pool.phase = .closed then breakOffs notes jobs + mishaps notes else 0

theorem unharmed_of_mild (h next : Host α ε) (worker : Nat) (answer : α) (job : Job α ε)
    (new : List (Note ε)) (busy : h.pool.slots[worker]? = some (.busy job))
    (finished : h.finish? worker answer = some (next, new))
    (mild : job.fatal (.worker worker) (job.ending h.pool.threadOf worker answer).outcome = false) :
    next.pool.liveCount = h.pool.liveCount := by
  obtain ⟨other, held, result⟩ := Host.finish_motion h next worker answer new finished
  obtain rfl : other = job := by
    rw [busy] at held
    cases held
    rfl
  rcases result with ⟨_, _, pool⟩ | ⟨fatal, _⟩
  · rw [pool]
    exact live_count_set h.pool worker (.busy other) .idle busy rfl
  · rw [mild] at fatal
    cases fatal

namespace Ledger

variable {workers : Nat} {thread : Nat → String} {h next : Host α ε} {notes new : List (Note ε)}
  {jobs : List (Job α ε)} {fate : JobId → Fate α}

theorem struck (ledger : Ledger workers thread h notes jobs fate) (event : Host.Event α ε)
    (worker : Nat) (answer : α) (struck : event.struck? = some (worker, answer))
    (met : h.meet? event = some (next, new)) :
    ∃ job, h.pool.slots[worker]? = some (.busy job) ∧
      next.pool.liveCount + 1 = h.pool.liveCount ∧
      new.filterMap Note.warning? =
        (Host.breakageNotes (ε := ε) (job.ending h.pool.threadOf worker answer)).filterMap
          Note.warning? ∧
      (next.pool.hasLiveWorker = false → LastDeath workers h.pool.lasting h next notes new) := by
  obtain ⟨job, note, lost, busy, sudden, shown, swept⟩ :=
    Host.mishap_swept h next event worker answer new struck met
  refine ⟨job, busy, ?_, ?_, fun gone => ?_⟩
  · rw [swept.same]
    exact live_count_set h.pool worker (.busy job) .dead busy rfl
  · have unsaid : [note].filterMap Note.warning? = [] := by
      cases note <;> first | rfl | cases sudden
    rw [← Host.warnings_milestones, shown, List.filterMap_append, List.filterMap_append, unsaid,
      List.filterMap_cons_none rfl, swept.warnings, List.append_nil, List.append_nil]
  · exact ledger.last_death event met gone worker _ lost shown swept

theorem spilled (ledger : Ledger workers thread h notes jobs fate) (worker : Nat) (answer : α)
    (met : h.meet? (.spill worker answer) = some (next, new)) :
    ∃ job, h.pool.slots[worker]? = some (.busy job) ∧
      job.ending h.pool.threadOf worker answer = .brokeOff .silent ∧
      (∀ id, job.completion = .settle id → next.results.outcome? id = some (.error .abandoned)) ∧
      ∀ origin hook, job.completion = .detached origin (some hook) →
        hookCalls (notes ++ new) job.id = [] := by
  obtain ⟨job, busy, ended, _, _⟩ := h.spill_some next worker answer new met
  obtain ⟨same, fate', held, after, came⟩ := ledger.spill worker answer met
  cases busy.symm.trans held
  have member := ((ledger.places.busy worker job).1 busy).1
  refine ⟨job, busy, ended, fun id owed => ?_, fun origin hook hooked => ?_⟩
  · rw [after.debts.paid job member id (by simp [Job.owed?, owed])]
    rcases came with spilled | dropped
    · rw [spilled]
      rfl
    · rw [dropped]
      rfl
  · rw [calls_story, after.stories.told job member,
      calls_of_fate thread job (fate' job.id) origin hook hooked]
    rcases came with spilled | dropped
    · rw [spilled]
    · rw [dropped]

end Ledger

theorem workers_are_lost_to_what_breaks_off (threadName : String) (capacity : Nat)
    (lasting : Bool) (workers : Nat) (events : List (Host.Event α ε)) (h : Host α ε)
    (notes : List (Note ε))
    (ran : (Host.fresh threadName capacity lasting workers).endure? events = some (h, notes)) :
    Workforce workers lasting h notes (Host.handedIn 0 0 events) := by
  have start := Ledger.fresh (α := α) (ε := ε) threadName capacity lasting workers
  obtain ⟨⟨fate, ledger⟩, manning⟩ := Host.endure_keeps workers _ (Manning workers lasting)
    (fun _ _ _ _ _ _ _ ledger manning met => manning.step ledger _ met) _ h [] notes [] _ events
    start (Manning.fresh threadName capacity lasting workers) ran
  simp only [List.nil_append] at ledger manning
  have split := losses_split notes (Host.handedIn 0 0 events)
  refine ⟨fun open_ => ?_, fun worker answer job next new busy finished mild => ?_,
    fun event worker answer next new struck met => ?_,
    fun worker answer next new met => ledger.spilled worker answer met,
    fun taking live job rejected => ?_, fun live job lost => ?_,
    fun worker answer next new finished gone => ?_, ?_⟩
  · have living : h.pool.liveCount + losses notes (Host.handedIn 0 0 events) = workers :=
      manning.staffed.living open_
    have whole := live_and_dead h.pool
    rw [ledger.deaths.staffed open_] at whole
    omega
  · apply unharmed_of_mild h next worker answer job new busy finished
    apply Bool.eq_false_iff.2
    intro fatal
    obtain ⟨origin, hook, f, owed, failed, broke⟩ := (fatal_iff job _ _).1 fatal
    rw [mild origin hook f owed failed] at broke
    cases broke
  · rw [← manning.same]
    exact ledger.struck event worker answer struck met
  · rcases manning.refused job rejected with stopped | gone
    · exact stopped taking
    · rw [live] at gone
      cases gone
  · rw [manning.lost job lost] at live
    cases live
  · rw [← manning.same]
    obtain ⟨killed, said, lost, shown, swept⟩ :=
      killed_by_hook h next worker answer new finished gone
    exact ⟨killed, ledger.last_death (.move (.finish worker answer)) finished gone worker said lost
      shown swept⟩
  · rw [← split]
    exact manning.staffed.reported

def desertedRun : List (Host.Event Unit Unit) :=
  [.move (.detach (uttering (.brokeOff .silent)) "first" (some fatalHook)),
    .move (.promise (uttering (.returned (.ok .undefined)))),
    .move (.detach (uttering (.returned (.ok .undefined))) "third" (some calmHook)),
    .move (.pickUp 0)]

theorem deserted_run_loses_its_jobs : ∃ h notes next new,
    (Host.fresh "io" 0 false 1).endure? desertedRun = some (h, notes) ∧
      h.step? (.finish 0 ()) = some (next, new) ∧ h.pool.queue.map Job.id = [1, 2] ∧
      next.pool.hasLiveWorker = false ∧ next.results.outcome? 0 = some (.error .abandoned) ∧
      LastDeath 1 false h next notes new :=
  ⟨_, _, _, _, rfl, rfl, rfl, rfl, rfl,
    ((workers_are_lost_to_what_breaks_off "io" 0 false 1 desertedRun _ _ rfl).last
      0 () _ _ rfl rfl).2⟩

def spillingRun : List (Host.Event Unit Unit) :=
  [.move (.promise (uttering (.brokeOff .silent))), .move (.pickUp 0), .spill 0 ()]

theorem spilling_run_loses_a_worker : ∃ h notes,
    (Host.fresh "io" 0 false 1).endure? spillingRun = some (h, notes) ∧ h.pool.phase = .taking ∧
      breakOffs notes (Host.handedIn 0 0 spillingRun) = 0 ∧ h.pool.liveCount ≠ 1 ∧
      h.results.outcome? 0 = some (.error .abandoned) ∧ h.pool.refusal? = some .poolClosed :=
  ⟨_, _, rfl, rfl, rfl, by decide, rfl, rfl⟩

end HostBridge
