import HostBridge.Pool.Mishap
import HostBridge.Proofs.Pool.History
import HostBridge.Proofs.Pool.Staff

set_option autoImplicit false

namespace HostBridge

variable {α ε : Type}

namespace Host

def relinquish (h : Host α ε) (worker : Nat) (job : Job α ε) : Host α ε × List (Note ε) :=
  abandon { h with pool := { h.pool with slots := h.pool.slots.set worker .idle } } job

def relinquishing (h : Host α ε) (worker : Nat) (answer : α) (job : Job α ε) : List (Note ε) :=
  h.performing worker answer job ++ .spilled job.id worker :: (h.relinquish worker job).2

theorem spill_some (h next : Host α ε) (worker : Nat) (answer : α) (new : List (Note ε))
    (spilled : h.spill? worker answer = some (next, new)) :
    ∃ job, h.pool.slots[worker]? = some (.busy job) ∧
      job.ending h.pool.threadOf worker answer = .brokeOff .silent ∧
      next = ((h.relinquish worker job).1.bury worker).1 ∧
      new = h.relinquishing worker answer job ++ ((h.relinquish worker job).1.bury worker).2 := by
  unfold spill? at spilled
  split at spilled
  · cases spilled
  · next job held =>
    split at spilled
    · next acts closed =>
      have ended : job.ending h.pool.threadOf worker answer = .brokeOff .silent := by
        rw [Job.ending, closed]
      simp only [Option.some.injEq, Prod.mk.injEq] at spilled
      refine ⟨job, busy_of_job _ worker job held, ended, spilled.1.symm, ?_⟩
      rw [relinquishing, performing, ended, closed]
      exact spilled.2.symm
    · cases spilled

theorem startle_some (h next : Host α ε) (worker : Nat) (answer : α) (new : List (Note ε))
    (startled : h.startle? worker answer = some (next, new)) :
    ∃ job id, h.pool.slots[worker]? = some (.busy job) ∧ job.completion = .settle id ∧
      next = ((h.conclude worker answer job).1.bury worker).1 ∧
      new = h.concluding worker answer job ++ .startled worker ::
        ((h.conclude worker answer job).1.bury worker).2 := by
  unfold startle? at startled
  split at startled
  · next id owed =>
    cases finished : h.finish? worker answer with
    | none => simp [finished] at startled
    | some result =>
      obtain ⟨done, shown⟩ := result
      obtain ⟨job, _, brokeOff, busy, rfl, broke, rfl, rfl⟩ :=
        finish_some h done worker answer shown finished
      simp only [busy, Option.bind_some, Slot.job?, Option.map_some, Option.some.injEq] at owed
      have unbroken : brokeOff = false := by
        rw [← broke, conclude, complete_fatal]
        simp only [Job.fatal, owed]
      subst unbroken
      simp only [finished, Option.bind_eq_bind, Option.bind_some, Option.some.injEq,
        Prod.mk.injEq] at startled
      obtain ⟨rfl, rfl⟩ := startled
      exact ⟨job, id, busy, owed, rfl, by simp⟩
  · cases startled

section Relinquish

variable (h : Host α ε) (worker : Nat) (answer : α) (job : Job α ε)

theorem relinquish_pool : (h.relinquish worker job).1.pool =
    { h.pool with slots := h.pool.slots.set worker .idle } :=
  abandon_pool _ job

theorem relinquish_results :
    (h.relinquish worker job).1.results = job.deliver h.results (.error .abandoned) :=
  abandon_results _ job

theorem story_relinquishing_self : storyOf (h.relinquishing worker answer job) job.id =
    job.spillage h.pool.threadOf worker answer := by
  rw [relinquishing, relinquish, story_append, story_cons, story_abandon, story_performing_self]
  simp [Note.job?, Job.spillage]

theorem story_relinquishing_other (other : JobId) (differ : job.id ≠ other) :
    storyOf (h.relinquishing worker answer job) other = [] := by
  rw [relinquishing, relinquish, story_append, story_cons, story_abandon,
    story_performing_other h worker answer job other differ]
  simp [Note.job?, differ]

theorem settlements_relinquishing (id : PendingId) :
    settlementsOf (h.relinquishing worker answer job) id =
      if job.owed? = some id then [.error .abandoned] else [] := by
  rw [relinquishing, relinquish, settlements_append, settlements_cons, settlements_abandon,
    settlements_performing]
  rfl

theorem relinquishing_unlost :
    ∀ note ∈ h.relinquishing worker answer job, note.isLoss = false := by
  intro note shown
  rcases List.mem_append.1 shown with early | late
  · exact h.performing_unlost worker answer job note early
  · rcases List.mem_cons.1 late with rfl | lost
    · rfl
    · exact abandon_unlost _ job note lost

theorem milestones_relinquishing : milestones (h.relinquishing worker answer job) =
    breakageNotes (job.ending h.pool.threadOf worker answer) ++ [.spilled job.id worker] := by
  rw [relinquishing, milestones_append, milestones_performing, milestones_cons, relinquish,
    milestones_abandon]
  rfl

end Relinquish

end Host

def Pool.Shut (p : Pool α ε) : Prop := p.phase ≠ .taking ∨ p.hasLiveWorker = false

theorem refused_closed_iff (p : Pool α ε) : p.refusal? = some .poolClosed ↔ p.Shut := by
  unfold Pool.refusal? Pool.Shut
  by_cases shut : p.phase ≠ .taking ∨ p.hasLiveWorker = false
  · exact ⟨fun _ => shut, fun _ => if_pos shut⟩
  · rw [if_neg shut]
    refine ⟨fun refused => ?_, fun other => absurd other shut⟩
    split at refused
    · cases refused
    · exact absurd (Option.some.inj refused) (by decide)

theorem Motion.shut {p p' : Pool α ε} {shown : List (Note ε)} (motion : Motion p p' shown)
    (shut : p.Shut) : p'.Shut :=
  shut.imp motion.stopped motion.lifeless

-- What an event does to a pool. In a mishap a worker dies that has just ended a job.
inductive Happening (p : Pool α ε) : Pool α ε → List (Note ε) → Prop where
  | motion (p' : Pool α ε) (shown : List (Note ε)) (motion : Motion p p' shown) :
      Happening p p' shown
  | mishap (worker : Nat) (job : Job α ε) (ending : Ending) (note : Note ε) (p' : Pool α ε)
      (lost : List (Note ε)) (busy : p.slots[worker]? = some (.busy job))
      (sudden : note.isMishap = true)
      (swept : Swept { p with slots := p.slots.set worker .dead } p' lost) :
      Happening p p' (Host.breakageNotes ending ++ [note] ++ .died worker :: lost)

namespace Happening

variable {p p' : Pool α ε} {shown : List (Note ε)}

theorem lasting (happening : Happening p p' shown) : p'.lasting = p.lasting := by
  cases happening with
  | motion _ _ motion => exact motion.settings.2
  | mishap worker job ending note _ lost busy sudden swept => rw [swept.same]

theorem lifeless (happening : Happening p p' shown) (gone : p.hasLiveWorker = false) :
    p'.hasLiveWorker = false := by
  cases happening with
  | motion _ _ motion => exact motion.lifeless gone
  | mishap worker job ending note _ lost busy sudden swept =>
    rw [live_of_slot p worker (.busy job) rfl busy] at gone
    cases gone

theorem shut (happening : Happening p p' shown) (shut : p.Shut) : p'.Shut := by
  refine shut.imp (fun stopped => ?_) happening.lifeless
  cases happening with
  | motion _ _ motion => exact motion.stopped stopped
  | mishap worker job ending note _ lost busy sudden swept =>
    rw [swept.same]
    exact stopped

theorem grounds (happening : Happening p p' shown) (note : Note ε) (said : note ∈ shown)
    (calm : note.isMishap = false) : Motion.Grounds p p' note := by
  cases happening with
  | motion _ _ motion => exact motion.grounds note said
  | mishap worker job ending own _ lost busy sudden swept =>
    rcases List.mem_append.1 said with early | late
    · rcases List.mem_append.1 early with broken | here
      · exact Motion.ending_grounds _ _ job (.worker worker) ending note
          (List.mem_append_left _ broken)
      · rw [← List.mem_singleton.1 here, calm] at sudden
        cases sudden
    · rcases List.mem_cons.1 late with rfl | gone
      · trivial
      · exact Motion.swept_grounds _ _ _ lost swept note gone

theorem rejection (happening : Happening p p' shown) (id : JobId) (f : Failure)
    (rejected : .rejected id f ∈ shown) : p.refusal? = some f :=
  happening.grounds _ rejected rfl

theorem discard (happening : Happening p p' shown) (id : JobId) (gone : .discarded id ∈ shown) :
    p'.hasLiveWorker = false :=
  happening.grounds _ gone rfl

end Happening

namespace Host

namespace Event

def move? : Event α ε → Option (Move α ε)
  | .move own => some own
  | _ => none

def struck? : Event α ε → Option (Nat × α)
  | .move _ => none
  | .spill worker answer => some (worker, answer)
  | .startle worker answer => some (worker, answer)

theorem move_or_struck (event : Event α ε) :
    (∃ move, event = .move move) ∨ ∃ worker answer, event.struck? = some (worker, answer) := by
  cases event with
  | move move => exact Or.inl ⟨move, rfl⟩
  | spill worker answer => exact Or.inr ⟨worker, answer, rfl⟩
  | startle worker answer => exact Or.inr ⟨worker, answer, rfl⟩

def made : Event α ε → Nat
  | .move own => own.made
  | _ => 0

end Event

theorem mishap_swept (h next : Host α ε) (event : Event α ε) (worker : Nat) (answer : α)
    (new : List (Note ε)) (struck : event.struck? = some (worker, answer))
    (met : h.meet? event = some (next, new)) :
    ∃ job note lost, h.pool.slots[worker]? = some (.busy job) ∧ note.isMishap = true ∧
      milestones new = breakageNotes (job.ending h.pool.threadOf worker answer) ++ [note] ++
        .died worker :: lost ∧
      Swept { h.pool with slots := h.pool.slots.set worker .dead } next.pool lost := by
  cases event with
  | move move => cases struck
  | spill worker answer =>
    cases struck
    obtain ⟨job, busy, ended, rfl, rfl⟩ := spill_some h next worker answer new met
    obtain ⟨lost, shown, swept⟩ := bury_swept _ h.pool worker (h.relinquish_pool worker job)
    refine ⟨job, .spilled job.id worker, lost, busy, rfl, ?_, swept⟩
    rw [milestones_append, milestones_relinquishing, shown]
  | startle worker answer =>
    cases struck
    obtain ⟨job, id, busy, owed, rfl, rfl⟩ := startle_some h next worker answer new met
    obtain ⟨lost, shown, swept⟩ := bury_swept _ h.pool worker (h.conclude_pool worker answer job)
    have silent : job.alarm (.worker worker)
        (job.ending h.pool.threadOf worker answer).outcome = [] := by
      simp only [Job.alarm, owed]
    refine ⟨job, .startled worker, lost, busy, rfl, ?_, swept⟩
    rw [milestones_append, milestones_concluding, silent, List.append_nil, milestones_cons, shown,
      List.append_assoc]
    rfl

theorem meet_happening (h next : Host α ε) (event : Event α ε) (new : List (Note ε))
    (met : h.meet? event = some (next, new)) : Happening h.pool next.pool (milestones new) := by
  rcases event.move_or_struck with ⟨move, rfl⟩ | ⟨worker, answer, struck⟩
  · exact .motion _ _ (step_motion h next move new met)
  · obtain ⟨job, note, lost, busy, sudden, shown, swept⟩ :=
      mishap_swept h next event worker answer new struck met
    rw [shown]
    exact .mishap worker job _ note _ lost busy sudden swept

theorem meet_results (h next : Host α ε) (event : Event α ε) (new : List (Note ε))
    (met : h.meet? event = some (next, new)) :
    next.results.length = h.results.length + event.made ∧
      ∀ id s, h.results.outcome? id = some s → next.results.outcome? id = some s := by
  cases event with
  | move move => exact step_results h next move new met
  | spill worker answer =>
    obtain ⟨job, _, _, rfl, _⟩ := spill_some h next worker answer new met
    have freed : Pendings.Later h.results (h.relinquish worker job).1.results := by
      rw [relinquish_results]
      exact deliver_later job h.results _
    have later := freed.trans (bury_later _ worker)
    exact ⟨later.length, later.kept⟩
  | startle worker answer =>
    obtain ⟨job, id, _, _, rfl, _⟩ := startle_some h next worker answer new met
    have freed : Pendings.Later h.results (h.conclude worker answer job).1.results := by
      rw [conclude_results]
      exact deliver_later job h.results _
    have later := freed.trans (bury_later _ worker)
    exact ⟨later.length, later.kept⟩

end Host

namespace Ledger

variable {workers : Nat} {thread : Nat → String} {h next : Host α ε} {notes new : List (Note ε)}
  {jobs : List (Job α ε)} {fate : JobId → Fate α}

theorem relinquish (ledger : Ledger workers thread h notes jobs fate) (worker : Nat) (answer : α)
    (job : Job α ε) (held : h.pool.slots[worker]? = some (.busy job)) :
    Ledger workers thread (h.relinquish worker job).1
      (notes ++ h.relinquishing worker answer job) jobs
      (assign fate job.id (.spilled worker answer)) := by
  apply ledger.put_down worker job held (.spilled worker answer) (.error .abandoned) rfl
    (fun failure same => by cases same) _ (h.relinquish_pool worker job)
    (h.relinquish_results worker job) (h.relinquishing worker answer job) ?_
    (h.story_relinquishing_other worker answer job)
    (h.settlements_relinquishing worker answer job)
    (h.relinquishing_unlost worker answer job)
  rw [Host.story_relinquishing_self, ledger.named]
  simp [Fate.story]

theorem spill (ledger : Ledger workers thread h notes jobs fate) (worker : Nat) (answer : α)
    (spilled : h.spill? worker answer = some (next, new)) :
    ∃ job fate', h.pool.slots[worker]? = some (.busy job) ∧
      Ledger workers thread next (notes ++ new) jobs fate' ∧
      (fate' job.id = .spilled worker answer ∨ fate' job.id = .dropped) := by
  obtain ⟨job, held, _, rfl, rfl⟩ := h.spill_some next worker answer new spilled
  have relinquished := ledger.relinquish worker answer job held
  have idle : (h.relinquish worker job).1.pool.slots[worker]? = some .idle := by
    rw [Host.relinquish_pool]
    exact List.getElem?_set_self (List.getElem?_eq_some_iff.1 held).1
  have seen : .spilled job.id worker ∈ notes ++ h.relinquishing worker answer job :=
    List.mem_append_right _ (List.mem_append_right _ (.head _))
  obtain ⟨fate', buried, changed⟩ :=
    relinquished.bury worker idle (Or.inr ⟨_, seen, rfl⟩)
  refine ⟨job, fate', held, ?_, ?_⟩
  · rw [← List.append_assoc]
    exact buried
  · rw [← assign_self fate job.id (.spilled worker answer)]
    exact changed job.id

theorem startle (ledger : Ledger workers thread h notes jobs fate) (worker : Nat) (answer : α)
    (startled : h.startle? worker answer = some (next, new)) :
    ∃ fate', Ledger workers thread next (notes ++ new) jobs fate' := by
  obtain ⟨job, id, held, _, rfl, rfl⟩ := h.startle_some next worker answer new startled
  have concluded := (ledger.conclude worker answer job held).quiet [.startled worker]
    fun note seen => List.mem_singleton.1 seen ▸ rfl
  obtain ⟨fate', buried, _⟩ := concluded.bury worker (h.conclude_idle worker answer job held)
    (Or.inr ⟨.startled worker, List.mem_append_right _ (.head _), rfl⟩)
  refine ⟨fate', ?_⟩
  simpa using buried

end Ledger

namespace Host

theorem meet_ledger (workers : Nat) (thread : Nat → String) (h next : Host α ε)
    (notes new : List (Note ε)) (jobs : List (Job α ε)) (fate : JobId → Fate α)
    (event : Event α ε) (ledger : Ledger workers thread h notes jobs fate)
    (met : h.meet? event = some (next, new)) :
    ∃ fate', Ledger workers thread next (notes ++ new)
      (jobs ++ submissions h.pool.submitted h.results.length event.move?.toList) fate' := by
  cases event with
  | move move =>
    obtain ⟨fate', after, _⟩ :=
      step_ledger workers thread h next notes new jobs fate move ledger met
    exact ⟨fate', after⟩
  | spill worker answer =>
    obtain ⟨job, fate', _, after, _⟩ := ledger.spill worker answer met
    exact ⟨fate', by simpa [Event.move?, submissions] using after⟩
  | startle worker answer =>
    obtain ⟨fate', after⟩ := ledger.startle worker answer met
    exact ⟨fate', by simpa [Event.move?, submissions] using after⟩

def handedIn (submitted results : Nat) (events : List (Event α ε)) : List (Job α ε) :=
  submissions submitted results (events.filterMap Event.move?)

theorem handed_in_cons (event : Event α ε) (rest : List (Event α ε)) (submitted results : Nat) :
    handedIn submitted results (event :: rest) =
      submissions submitted results event.move?.toList ++
        handedIn (submitted + (submissions submitted results event.move?.toList).length)
          (results + event.made) rest := by
  cases event with
  | move move => exact submissions_cons move _ submitted results
  | _ => rfl

theorem endure_follows (h : Host α ε) (events : List (Event α ε)) :
    h.endure? events = follow meet? h events := by
  induction events generalizing h with
  | nil => rfl
  | cons event rest ih => simp only [endure?, follow, ih]

-- Without mishaps it is the run of the moves that is endured.
theorem endure_moves (h : Host α ε) (moves : List (Move α ε)) :
    h.endure? (moves.map .move) = h.run? moves := by
  induction moves generalizing h with
  | nil => rfl
  | cons move rest ih => simp only [List.map_cons, endure?, run?, meet?, ih]

theorem endure_keeps (workers : Nat) (thread : Nat → String)
    (Inv : Host α ε → List (Note ε) → List (Job α ε) → Prop)
    (kept : ∀ h next notes new jobs fate event, Ledger workers thread h notes jobs fate →
      Inv h notes jobs → h.meet? event = some (next, new) →
        Inv next (notes ++ new)
          (jobs ++ submissions h.pool.submitted h.results.length event.move?.toList))
    (h last : Host α ε) (notes new : List (Note ε)) (jobs : List (Job α ε)) (fate : JobId → Fate α)
    (events : List (Event α ε)) (ledger : Ledger workers thread h notes jobs fate)
    (holds : Inv h notes jobs) (ran : h.endure? events = some (last, new)) :
    (∃ fate', Ledger workers thread last (notes ++ new)
        (jobs ++ handedIn h.pool.submitted h.results.length events) fate') ∧
      Inv last (notes ++ new) (jobs ++ handedIn h.pool.submitted h.results.length events) := by
  rw [endure_follows] at ran
  induction events generalizing h notes new jobs fate with
  | nil =>
    simp only [follow, Option.some.injEq, Prod.mk.injEq] at ran
    obtain ⟨rfl, rfl⟩ := ran
    simpa [handedIn, submissions] using ⟨⟨fate, ledger⟩, holds⟩
  | cons event rest ih =>
    obtain ⟨next, first, others, met, went, rfl⟩ :=
      follow_cons_some meet? h event rest last new ran
    obtain ⟨middle, now⟩ :=
      meet_ledger workers thread h next notes first jobs fate event ledger met
    have after := ih next (notes ++ first) others _ middle now
      (kept h next notes first jobs fate event ledger holds met) went
    -- Jobs and results are numbered as they come, so the rest goes on from where this event ends.
    have counted := now.places.counted
    rw [List.length_append, ← ledger.places.counted] at counted
    rw [counted, (meet_results h next event first met).1] at after
    rw [handed_in_cons]
    simpa only [List.append_assoc] using after

theorem endure_ledger (workers : Nat) (thread : Nat → String) (h last : Host α ε)
    (notes new : List (Note ε)) (jobs : List (Job α ε)) (fate : JobId → Fate α)
    (events : List (Event α ε)) (ledger : Ledger workers thread h notes jobs fate)
    (ran : h.endure? events = some (last, new)) :
    ∃ fate', Ledger workers thread last (notes ++ new)
      (jobs ++ handedIn h.pool.submitted h.results.length events) fate' :=
  (endure_keeps workers thread (fun _ _ _ => True) (fun _ _ _ _ _ _ _ _ _ _ => trivial) h last
    notes new jobs fate events ledger trivial ran).1

end Host

end HostBridge
