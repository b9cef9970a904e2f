import HostBridge.Proofs.Pool.Ledger

set_option autoImplicit false

namespace HostBridge

variable {α ε : Type}

namespace Host

theorem pick_up_some (h next : Host α ε) (worker : Nat) (new : List (Note ε))
    (picked : h.pickUp? worker = some (next, new)) :
    ∃ job rest, h.pool.slots[worker]? = some .idle ∧ h.pool.queue = job :: rest ∧
      next = { h with pool := { h.pool with
        slots := h.pool.slots.set worker (.busy job), queue := rest } } ∧
      new = job.beginning worker := by
  unfold pickUp? at picked
  split at picked
  · next job rest idle first =>
    simp only [Option.some.injEq, Prod.mk.injEq] at picked
    exact ⟨job, rest, idle, first, picked.1.symm, picked.2.symm⟩
  · cases picked

theorem busy_of_job (slots : List (Slot α ε)) (worker : Nat) (job : Job α ε)
    (held : slots[worker]?.bind Slot.job? = some job) : slots[worker]? = some (.busy job) := by
  cases slot : slots[worker]? with
  | none => simp [slot] at held
  | some occupant =>
    cases occupant with
    | idle => simp [slot, Slot.job?] at held
    | dead => simp [slot, Slot.job?] at held
    | busy other =>
      simp only [slot, Option.bind_some, Slot.job?, Option.some.injEq] at held
      rw [held]

def performing (h : Host α ε) (worker : Nat) (answer : α) (job : Job α ε) : List (Note ε) :=
  (job.work.closing (h.pool.threadOf worker) answer).1.map
      (.acted (.worker worker) (some job.id)) ++
    .ended job.id worker (job.ending h.pool.threadOf worker answer) ::
      breakageNotes (job.ending h.pool.threadOf worker answer)

-- A worker's job is over and its outcome goes where it belongs. The worker is idle again, unless
-- the job's hook breaks off: that kills it only afterwards.
def conclude (h : Host α ε) (worker : Nat) (answer : α) (job : Job α ε) :
    Host α ε × List (Note ε) × Bool :=
  complete { h with pool := { h.pool with slots := h.pool.slots.set worker .idle } }
    (.worker worker) job (job.ending h.pool.threadOf worker answer).outcome

def concluding (h : Host α ε) (worker : Nat) (answer : α) (job : Job α ε) : List (Note ε) :=
  h.performing worker answer job ++ (h.conclude worker answer job).2.1

theorem finish_some (h next : Host α ε) (worker : Nat) (answer : α) (new : List (Note ε))
    (finished : h.finish? worker answer = some (next, new)) :
    ∃ job done brokeOff, h.pool.slots[worker]? = some (.busy job) ∧
      (h.conclude worker answer job).1 = done ∧
      (h.conclude worker answer job).2.2 = brokeOff ∧
      next = (if brokeOff then done.bury worker else (done, [])).1 ∧
      new = h.concluding worker answer job ++
        (if brokeOff then done.bury worker else (done, [])).2 := by
  unfold finish? at finished
  split at finished
  · cases finished
  · next job held =>
    simp only [Option.some.injEq, Prod.mk.injEq] at finished
    exact ⟨job, _, _, busy_of_job _ worker job held, rfl, rfl, finished.1.symm, finished.2.symm⟩

section Conclude

variable (h : Host α ε) (worker : Nat) (answer : α) (job : Job α ε)

theorem story_performing_self : storyOf (h.performing worker answer job) job.id =
    (job.work.closing (h.pool.threadOf worker) answer).1.map
        (.acted (.worker worker) (some job.id)) ++
      [.ended job.id worker (job.ending h.pool.threadOf worker answer)] := by
  have asides := breakage_asides (ε := ε) (job.ending h.pool.threadOf worker answer)
  rw [performing, story_append, story_cons, story_acts, asides.story]
  simp [Note.job?]

theorem story_performing_other (other : JobId) (differ : job.id ≠ other) :
    storyOf (h.performing worker answer job) other = [] := by
  have asides := breakage_asides (ε := ε) (job.ending h.pool.threadOf worker answer)
  rw [performing, story_append, story_cons, story_acts, asides.story]
  simp [Note.job?, differ]

theorem settlements_performing (id : PendingId) :
    settlementsOf (h.performing worker answer job) id = [] := by
  have asides := breakage_asides (ε := ε) (job.ending h.pool.threadOf worker answer)
  rw [performing, settlements_append, settlements_cons, settlements_acts, asides.settlements]
  rfl

theorem performing_unlost : ∀ note ∈ h.performing worker answer job, note.isLoss = false := by
  intro note shown
  have asides := breakage_asides (ε := ε) (job.ending h.pool.threadOf worker answer)
  rcases List.mem_append.1 shown with act | last
  · obtain ⟨_, _, rfl⟩ := List.mem_map.1 act
    rfl
  · rcases List.mem_cons.1 last with rfl | warned
    · rfl
    · exact asides.unlost note warned

theorem conclude_pool : (h.conclude worker answer job).1.pool =
    { h.pool with slots := h.pool.slots.set worker .idle } :=
  complete_pool _ _ job _

theorem conclude_idle (held : h.pool.slots[worker]? = some (.busy job)) :
    (h.conclude worker answer job).1.pool.slots[worker]? = some .idle := by
  rw [conclude_pool]
  exact List.getElem?_set_self (List.getElem?_eq_some_iff.1 held).1

theorem conclude_results : (h.conclude worker answer job).1.results =
    job.deliver h.results (job.ending h.pool.threadOf worker answer).outcome :=
  complete_results _ _ job _

theorem story_concluding_self : storyOf (h.concluding worker answer job) job.id =
    job.conclusion h.pool.threadOf worker answer := by
  rw [concluding, conclude, story_append, story_complete_self, story_performing_self,
    Job.conclusion, List.append_assoc, List.singleton_append]

theorem story_concluding_other (other : JobId) (differ : job.id ≠ other) :
    storyOf (h.concluding worker answer job) other = [] := by
  rw [concluding, conclude, story_append, story_complete_other _ _ _ _ _ differ,
    story_performing_other h worker answer job other differ, List.append_nil]

theorem settlements_concluding (id : PendingId) :
    settlementsOf (h.concluding worker answer job) id =
      if job.owed? = some id then [(job.ending h.pool.threadOf worker answer).outcome] else [] := by
  rw [concluding, conclude, settlements_append, settlements_complete, settlements_performing,
    List.nil_append]

theorem concluding_unlost : ∀ note ∈ h.concluding worker answer job, note.isLoss = false := by
  intro note shown
  rcases List.mem_append.1 shown with early | late
  · exact h.performing_unlost worker answer job note early
  · exact complete_unlost _ _ _ _ note late

end Conclude

section Abandon

variable (h : Host α ε) (job : Job α ε)

theorem abandon_pool : (h.abandon job).1.pool = h.pool := by
  unfold abandon
  split <;> rfl

theorem abandon_results :
    (h.abandon job).1.results = job.deliver h.results (.error .abandoned) := by
  unfold abandon Job.deliver
  split <;> simp_all [settle]

theorem story_abandon (other : JobId) : storyOf (h.abandon job).2 other = [] := by
  unfold abandon
  split <;> rfl

theorem settlements_abandon (id : PendingId) :
    settlementsOf (h.abandon job).2 id =
      if job.owed? = some id then [.error .abandoned] else [] := by
  unfold abandon
  split
  · next own owed =>
    by_cases same : own = id <;> simp [settlementsOf, Note.settlementOf?, Job.owed?, owed, same]
  · next owed => simp [settlementsOf, Job.owed?, owed]

theorem abandon_unlost : ∀ note ∈ (h.abandon job).2, note.isLoss = false := by
  intro note shown
  unfold abandon at shown
  split at shown
  · rw [List.mem_singleton.1 shown]
    rfl
  · cases shown

end Abandon

theorem discard_pool (h : Host α ε) (gone : List (Job α ε)) :
    (h.discard gone).1.pool = h.pool := by
  induction gone generalizing h with
  | nil => rfl
  | cons job rest ih => exact (ih (h.abandon job).1).trans (h.abandon_pool job)

theorem discard_nobody_dies (h : Host α ε) (gone : List (Job α ε)) (worker : Nat) :
    .died worker ∉ (h.discard gone).2 := by
  induction gone generalizing h with
  | nil => simp [discard]
  | cons job rest ih =>
    intro died
    rcases List.mem_cons.1 died with same | later
    · cases same
    · rcases List.mem_append.1 later with lost | after
      · cases h.abandon_unlost job _ lost
      · exact ih _ after

theorem discard_accounts (thread : Nat → String) (notes : List (Note ε)) (jobs : List (Job α ε))
    (fate : JobId → Fate α) (h : Host α ε) (gone : List (Job α ε)) (numbered : Numbered jobs)
    (stories : Stories thread notes jobs fate) (debts : Debts thread h.results notes jobs fate)
    (members : ∀ job ∈ gone, job ∈ jobs ∧ fate job.id = .waiting)
    (distinct : gone.Pairwise fun job other => job.id ≠ other.id) :
    ∃ fate', Stories thread (notes ++ (h.discard gone).2) jobs fate' ∧
      Debts thread (h.discard gone).1.results (notes ++ (h.discard gone).2) jobs fate' ∧
      Drops gone fate fate' := by
  induction gone generalizing h notes fate with
  | nil =>
    refine ⟨fate, ?_, ?_, .nobody fate⟩
    · simpa [discard] using stories
    · simpa [discard] using debts
  | cons job rest ih =>
    obtain ⟨member, waiting⟩ := members job List.mem_cons_self
    obtain ⟨apart, others⟩ := List.pairwise_cons.1 distinct
    let shown : List (Note ε) := .discarded job.id :: (h.abandon job).2
    have told := stories.assign numbered job member .dropped shown
      (by rw [waiting, story_cons, story_abandon]; simp [Note.job?, Fate.story]) fun other differ =>
        by rw [story_cons, story_abandon]; simp [Note.job?, differ]
    have paid := debts.settle numbered job member .dropped (.error .abandoned)
      (by rw [waiting]; rfl) rfl shown (h.settlements_abandon job)
    rw [← abandon_results] at paid
    have left : ∀ other ∈ rest,
        other ∈ jobs ∧ assign fate job.id .dropped other.id = .waiting := by
      intro other after
      obtain ⟨also, waits⟩ := members other (List.mem_cons_of_mem job after)
      exact ⟨also, (assign_other fate job.id other.id _ (Ne.symm (apart other after))).trans waits⟩
    obtain ⟨fate', stories', debts', drops⟩ := ih (notes ++ shown) (assign fate job.id .dropped)
      (h.abandon job).1 told paid left others
    rw [List.append_assoc] at stories' debts'
    exact ⟨fate', stories', debts', drops.cons job apart⟩

end Host

theorem waiting_of_isWaiting (f : Fate α) (waiting : f.isWaiting = true) : f = .waiting := by
  cases f with
  | waiting => rfl
  | running => cases waiting
  | finished => cases waiting
  | spilled => cases waiting
  | refused => cases waiting
  | dropped => cases waiting

namespace Ledger

variable {workers : Nat} {thread : Nat → String} {h : Host α ε} {notes : List (Note ε)}
  {jobs : List (Job α ε)} {fate : JobId → Fate α}

theorem pick_up (ledger : Ledger workers thread h notes jobs fate) (worker : Nat)
    (next : Host α ε) (new : List (Note ε)) (picked : h.pickUp? worker = some (next, new)) :
    ∃ job ∈ jobs, fate job.id = .waiting ∧
      Ledger workers thread next (notes ++ new) jobs (assign fate job.id (.running worker)) := by
  obtain ⟨job, rest, idle, first, rfl, rfl⟩ := Host.pick_up_some h next worker new picked
  obtain ⟨member, waits⟩ := (ledger.places.waits job).1 (first ▸ List.mem_cons_self)
  have waiting := waiting_of_isWaiting _ waits
  refine ⟨job, member, waiting, ledger.named, ledger.numbered, ?_, ?_, ?_, ?_, ?_⟩
  · exact ledger.grounds_assign job.id _ fun f same => by cases same
  · refine ledger.stories.assign ledger.numbered job member _ _ ?_ fun other differ => ?_
    · rw [waiting]
      simp [storyOf, Note.job?, Fate.story, Job.beginning]
    · simp [storyOf, Note.job?, Job.beginning, differ]
  · refine (ledger.debts.keep _ fun other also => ?_).quiet _ fun id => ?_
    · by_cases same : other.id = job.id
      · rw [same, assign_self, waiting]
        rfl
      · rw [assign_other fate job.id other.id _ same]
    · simp [settlementsOf, Note.settlementOf?, Job.beginning]
  · exact ledger.places.pick_up ledger.numbered worker job rest idle first
  · refine ledger.deaths.rehold worker (.busy job) (fun same => by cases same) rest
      (fun _ => by simp [first]) _ fun note shown => ?_
    simp only [Job.beginning, List.mem_cons, List.mem_map] at shown
    rcases shown with rfl | ⟨act, _, rfl⟩ <;> rfl

theorem desert (ledger : Ledger workers thread h notes jobs fate)
    (gone : h.pool.hasLiveWorker = false) :
    let emptied : Host α ε := { h with pool := { h.pool with queue := [] } }
    ∃ fate', Ledger workers thread (emptied.discard h.pool.queue).1
        (notes ++ (emptied.discard h.pool.queue).2) jobs fate' ∧
      Drops h.pool.queue fate fate' := by
  intro emptied
  have waiting : ∀ job ∈ h.pool.queue, job ∈ jobs ∧ fate job.id = .waiting := by
    intro job queued
    obtain ⟨member, waits⟩ := (ledger.places.waits job).1 queued
    exact ⟨member, waiting_of_isWaiting _ waits⟩
  have distinct : h.pool.queue.Pairwise fun job other => job.id ≠ other.id := by
    rw [ledger.places.queued]
    exact ledger.numbered.pairwise.filter _
  obtain ⟨fate', stories, debts, drops⟩ := Host.discard_accounts thread notes jobs fate emptied
    h.pool.queue ledger.numbered ledger.stories ledger.debts waiting distinct
  refine ⟨fate', ⟨?_, ledger.numbered, fun job f refused => ?_, stories, debts, ?_, ?_⟩, drops⟩
  · rw [Host.discard_pool]
    exact ledger.named
  · rcases drops.either job with same | dropped
    · exact ledger.grounds job f (same ▸ refused)
    · rw [dropped] at refused
      cases refused
  · rw [Host.discard_pool]
    exact ledger.places.empty_queue fate' drops
  · rw [Host.discard_pool]
    by_cases empty : h.pool.queue = []
    · have same : emptied.pool = h.pool := by simp only [emptied, ← empty]
      rw [same, empty]
      simpa [Host.discard] using ledger.deaths
    · have unclosed : h.pool.phase ≠ .closed := fun closed => empty (ledger.places.ended closed).1
      exact ledger.deaths.desert unclosed gone (ledger.deaths.served empty) _
        (Host.discard_nobody_dies emptied h.pool.queue)

theorem sweep (ledger : Ledger workers thread h notes jobs fate) :
    ∃ fate', Ledger workers thread h.sweep.1 (notes ++ h.sweep.2) jobs fate' ∧
      ∀ job, fate' job = fate job ∨ fate' job = .dropped := by
  unfold Host.sweep
  split
  · next lost =>
    obtain ⟨fate', swept, drops⟩ := ledger.desert lost.1
    exact ⟨fate', swept, drops.either⟩
  · exact ⟨fate, by simpa using ledger, fun _ => Or.inl rfl⟩

theorem bury (ledger : Ledger workers thread h notes jobs fate) (worker : Nat)
    (idle : h.pool.slots[worker]? = some .idle) (perilous : Perilous notes jobs) :
    ∃ fate', Ledger workers thread (h.bury worker).1 (notes ++ (h.bury worker).2) jobs fate' ∧
      ∀ job, fate' job = fate job ∨ fate' job = .dropped := by
  have buried : Ledger workers thread
      { h with pool := { h.pool with slots := h.pool.slots.set worker .dead } }
      (notes ++ [.died worker]) jobs fate := by
    refine ⟨ledger.named, ledger.numbered, ledger.grounds, ledger.stories.quiet _ ?_,
      ledger.debts.quiet _ ?_, ?_, ledger.deaths.bury worker perilous⟩
    · simp [storyOf, Note.job?]
    · simp [settlementsOf, Note.settlementOf?]
    · refine ledger.places.replace worker .dead (fun other busy => ?_)
        fun other same => by cases same
      rw [idle] at busy
      cases busy
  obtain ⟨fate', swept, changed⟩ := buried.sweep
  refine ⟨fate', ?_, changed⟩
  rw [List.append_assoc] at swept
  exact swept

theorem put_down (ledger : Ledger workers thread h notes jobs fate) (worker : Nat) (job : Job α ε)
    (held : h.pool.slots[worker]? = some (.busy job)) (f : Fate α) (outcome : Settlement)
    (ended : f.outcome? thread job = some outcome) (unrefused : ∀ failure, f ≠ .refused failure)
    (done : Host α ε) (pool : done.pool = { h.pool with slots := h.pool.slots.set worker .idle })
    (results : done.results = job.deliver h.results outcome) (shown : List (Note ε))
    (own : (Fate.running worker).story thread job ++ storyOf shown job.id = f.story thread job)
    (others : ∀ other, job.id ≠ other → storyOf shown other = [])
    (settled : ∀ id, settlementsOf shown id = if job.owed? = some id then [outcome] else [])
    (unlost : ∀ note ∈ shown, note.isLoss = false) :
    Ledger workers thread done (notes ++ shown) jobs (assign fate job.id f) := by
  obtain ⟨member, running⟩ := (ledger.places.busy worker job).1 held
  refine ⟨?_, ledger.numbered, ?_, ?_, ?_, ?_, ?_⟩
  · rw [pool]
    exact ledger.named
  · exact ledger.grounds_assign job.id f fun failure same => absurd same (unrefused failure)
  · apply ledger.stories.assign ledger.numbered job member f shown ?_ others
    rw [running, own]
  · rw [results]
    apply ledger.debts.settle ledger.numbered job member f outcome ?_ ended shown settled
    rw [running]
    rfl
  · rw [pool]
    apply ledger.places.free ledger.numbered worker job held f
    · cases f <;> first | rfl | cases ended
    · intro other same
      rw [same] at ended
      cases ended
  · rw [pool]
    exact ledger.deaths.rehold worker .idle (fun same => by cases same) h.pool.queue
      (fun filled => filled) shown unlost

theorem conclude (ledger : Ledger workers thread h notes jobs fate) (worker : Nat) (answer : α)
    (job : Job α ε) (held : h.pool.slots[worker]? = some (.busy job)) :
    Ledger workers thread (h.conclude worker answer job).1
      (notes ++ h.concluding worker answer job) jobs
      (assign fate job.id (.finished worker answer)) := by
  apply ledger.put_down worker job held (.finished worker answer) _ rfl
    (fun failure same => by cases same) _ (h.conclude_pool worker answer job) ?_
    (h.concluding worker answer job) ?_ (h.story_concluding_other worker answer job) ?_
    (h.concluding_unlost worker answer job)
  · rw [Host.conclude_results, ledger.named]
  · rw [Host.story_concluding_self, ledger.named]
    simp [Fate.story]
  · rw [← ledger.named]
    exact h.settlements_concluding worker answer job

theorem finish (ledger : Ledger workers thread h notes jobs fate) (worker : Nat) (answer : α)
    (next : Host α ε) (new : List (Note ε))
    (finished : h.finish? worker answer = some (next, new)) :
    ∃ job fate', h.pool.slots[worker]? = some (.busy job) ∧
      Ledger workers thread next (notes ++ new) jobs fate' ∧
      ∀ other, fate' other = assign fate job.id (.finished worker answer) other ∨
        fate' other = .dropped := by
  obtain ⟨job, done, brokeOff, held, rfl, broke, rfl, rfl⟩ :=
    Host.finish_some h next worker answer new finished
  have concluded := ledger.conclude worker answer job held
  cases brokeOff with
  | false =>
    refine ⟨job, _, held, ?_, fun _ => Or.inl rfl⟩
    simpa using concluded
  | true =>
    have lethal : job.Lethal := Host.complete_breaks_off _ _ _ _ broke
    have idle := h.conclude_idle worker answer job held
    obtain ⟨fate', buried, changed⟩ := concluded.bury worker idle
      (Or.inl ⟨job, ((ledger.places.busy worker job).1 held).1, lethal⟩)
    refine ⟨job, fate', held, ?_, changed⟩
    rw [← List.append_assoc]
    exact buried

theorem close (ledger : Ledger workers thread h notes jobs fate) :
    ∃ fate', Ledger workers thread h.close.1 (notes ++ h.close.2) jobs fate' ∧
      ∀ job, fate' job = fate job ∨ fate' job = .dropped := by
  unfold Host.close
  split
  · next taking =>
    have closing : Ledger workers thread { h with pool := { h.pool with phase := .closing } }
        notes jobs fate :=
      ⟨ledger.named, ledger.numbered, ledger.grounds, ledger.stories, ledger.debts,
        ledger.places.close,
        fun _ => ledger.deaths.staffed (by simp [taking]), ledger.deaths.marked,
        ledger.deaths.killed, ledger.deaths.desolate, ledger.deaths.served⟩
    exact closing.sweep
  · exact ⟨fate, by simpa using ledger, fun _ => Or.inl rfl⟩

theorem join (ledger : Ledger workers thread h notes jobs fate) (next : Host α ε)
    (new : List (Note ε)) (joined : h.join? = some (next, new)) :
    Ledger workers thread next (notes ++ new) jobs fate := by
  unfold Host.join? at joined
  split at joined
  · next drained =>
    obtain ⟨closing, empty, idle⟩ := drained
    simp only [Option.some.injEq, Prod.mk.injEq] at joined
    obtain ⟨rfl, rfl⟩ := joined
    have nobody : ∀ (worker : Nat) (job : Job α ε), h.pool.slots[worker]? ≠ some (.busy job) := by
      intro worker job held
      have none := List.all_eq_true.1 idle _ (List.mem_of_getElem? held)
      cases none
    have asides : Asides (List.replicate h.pool.deadCount (Note.warned (ε := ε) .workerDied)) :=
      fun note shown => List.eq_of_mem_replicate shown ▸ rfl
    refine ⟨ledger.named, ledger.numbered, ledger.grounds, ledger.stories.quiet _ asides.story,
      ledger.debts.quiet _ asides.settlements,
      ledger.places.join (List.isEmpty_iff.1 empty) nobody, ?_⟩
    refine ledger.deaths.harmless _ _ _ asides.unlost (fun _ also => also)
      (fun unclosed => absurd rfl unclosed) (fun worker dead => ?_) ledger.deaths.served
    cases dead
  · cases joined

end Ledger

end HostBridge
