import HostBridge.Proofs.Pool.Moves

set_option autoImplicit false

namespace HostBridge

variable {α ε : Type}

-- What work does and how it ends is left out: it is no matter of the pool.
def Note.isMilestone : Note ε → Bool
  | .acted _ _ _ => false
  | .ended _ _ _ => false
  | .settled _ _ => false
  | .kept _ _ => false
  | _ => true

def milestones (notes : List (Note ε)) : List (Note ε) := notes.filter Note.isMilestone

theorem milestones_append (notes more : List (Note ε)) :
    milestones (notes ++ more) = milestones notes ++ milestones more := by
  simp [milestones]

theorem milestones_cons (note : Note ε) (rest : List (Note ε)) :
    milestones (note :: rest) =
      if note.isMilestone then note :: milestones rest else milestones rest := by
  simp [milestones, List.filter_cons]

theorem milestones_acts (acts : List ε) (site : Site) (owner : Option JobId) :
    milestones (acts.map (Note.acted site owner)) = [] := by
  simp [milestones, Note.isMilestone]

theorem mem_milestones (notes : List (Note ε)) (note : Note ε) (passed : note.isMilestone = true) :
    note ∈ milestones notes ↔ note ∈ notes := by
  simp [milestones, passed]

theorem calm_of_milestones (notes : List (Note ε))
    (calm : ∀ note ∈ milestones notes, note.isMishap = false) :
    ∀ note ∈ notes, note.isMishap = false := by
  intro note seen
  by_cases passed : note.isMilestone = true
  · exact calm note ((mem_milestones notes note passed).2 seen)
  · cases note <;> first | rfl | exact absurd rfl passed

theorem filterMap_milestones {β : Type} (read : Note ε → Option β)
    (silent : ∀ note, note.isMilestone = false → read note = none) (notes : List (Note ε)) :
    (milestones notes).filterMap read = notes.filterMap read := by
  rw [milestones, List.filterMap_filter]
  refine congrArg (fun f => notes.filterMap f) (funext fun note => ?_)
  cases passed : note.isMilestone with
  | true => rfl
  | false => exact (silent note passed).symm

theorem countP_milestones (counts : Note ε → Bool)
    (silent : ∀ note, note.isMilestone = false → counts note = false) (notes : List (Note ε)) :
    (milestones notes).countP counts = notes.countP counts := by
  rw [milestones, List.countP_filter]
  refine List.countP_congr fun note _ => ?_
  cases passed : note.isMilestone with
  | true => simp
  | false => simp [silent note passed]

namespace Job

def alarm (job : Job α ε) (site : Site) (outcome : Settlement) : List (Note ε) :=
  match job.completion, outcome with
  | .detached origin none, .error f => [.warned (.failedAfterReturning origin f)]
  | .detached origin (some _), .error f =>
    [.warned (.failedAfterReturning origin f), .hooked job.id site f]
  | _, _ => []

def fatal (job : Job α ε) (site : Site) (outcome : Settlement) : Bool :=
  match job.completion, outcome with
  | .detached _ (some hook), .error f => hook.breaksOff site f
  | _, _ => false

end Job

theorem fatal_iff (job : Job α ε) (site : Site) (outcome : Settlement) :
    job.fatal site outcome = true ↔
      ∃ origin hook f, job.completion = .detached origin (some hook) ∧ outcome = .error f ∧
        hook.breaksOff site f = true := by
  unfold Job.fatal
  constructor
  · intro fatal
    split at fatal
    · next origin hook f owed => exact ⟨origin, hook, f, owed, rfl, fatal⟩
    · cases fatal
  · rintro ⟨origin, hook, f, owed, rfl, broke⟩
    simp only [owed, broke]

theorem mem_alarm (job : Job α ε) (site : Site) (outcome : Settlement) (note : Note ε)
    (said : note ∈ job.alarm site outcome) :
    (∃ warning, warning ≠ .workerDied ∧ note = .warned warning) ∨
      ∃ f, note = .hooked job.id site f := by
  unfold Job.alarm at said
  split at said <;> simp only [List.mem_cons, List.not_mem_nil, or_false] at said
  · exact Or.inl ⟨_, Warning.noConfusion, said⟩
  · rcases said with said | said
    · exact Or.inl ⟨_, Warning.noConfusion, said⟩
    · exact Or.inr ⟨_, said⟩

theorem mem_ending (job : Job α ε) (site : Site) (ending : Ending) (note : Note ε)
    (said : note ∈ Host.breakageNotes ending ++ job.alarm site ending.outcome) :
    (∃ warning, warning ≠ .workerDied ∧ note = .warned warning) ∨
      ∃ f, note = .hooked job.id site f := by
  rcases List.mem_append.1 said with breakage | alarm
  · cases ending with
    | returned => cases breakage
    | brokeOff => exact Or.inl ⟨_, Warning.noConfusion, List.mem_singleton.1 breakage⟩
  · exact mem_alarm job site _ note alarm

inductive Swept (p : Pool α ε) : Pool α ε → List (Note ε) → Prop where
  | kept (needed : p.hasLiveWorker = true ∨ p.lasting = true ∧ p.phase = .taking) : Swept p p []
  | emptied (lost : p.hasLiveWorker = false) (brief : p.lasting = false ∨ p.phase ≠ .taking) :
      Swept p { p with queue := [] } (p.queue.map fun job => .discarded job.id)

-- All that is said of the number of workers and of the order of jobs is read off the motions.
inductive Motion (p : Pool α ε) : Pool α ε → List (Note ε) → Prop where
  | accepts (job : Job α ε) (next : job.id = p.submitted) (accepted : p.refusal? = none) :
      Motion p { p with queue := p.queue ++ [job], submitted := p.submitted + 1 }
        [.accepted job.id]
  | refuses (job : Job α ε) (next : job.id = p.submitted) (f : Failure)
      (refused : p.refusal? = some f) :
      Motion p { p with submitted := p.submitted + 1 }
        (.rejected job.id f :: job.alarm .caller (.error f))
  | starts (worker : Nat) (job : Job α ε) (rest : List (Job α ε))
      (idle : p.slots[worker]? = some .idle) (first : p.queue = job :: rest) :
      Motion p { p with slots := p.slots.set worker (.busy job), queue := rest }
        [.started job.id worker]
  | ends (worker : Nat) (job : Job α ε) (ending : Ending)
      (busy : p.slots[worker]? = some (.busy job))
      (mild : job.fatal (.worker worker) ending.outcome = false) :
      Motion p { p with slots := p.slots.set worker .idle }
        (Host.breakageNotes ending ++ job.alarm (.worker worker) ending.outcome)
  | kills (worker : Nat) (job : Job α ε) (ending : Ending) (p' : Pool α ε) (lost : List (Note ε))
      (busy : p.slots[worker]? = some (.busy job))
      (fatal : job.fatal (.worker worker) ending.outcome = true)
      (swept : Swept { p with slots := p.slots.set worker .dead } p' lost) :
      Motion p p' (Host.breakageNotes ending ++ job.alarm (.worker worker) ending.outcome ++
        .died worker :: lost)
  | closes (p' : Pool α ε) (lost : List (Note ε)) (taking : p.phase = .taking)
      (swept : Swept { p with phase := .closing } p' lost) : Motion p p' lost
  | rests (stopped : p.phase ≠ .taking) : Motion p p []
  | joins (closing : p.phase = .closing) (empty : p.queue = [])
      (free : ∀ (worker : Nat) (job : Job α ε), p.slots[worker]? ≠ some (.busy job)) :
      Motion p { p with slots := [], phase := .closed }
        (List.replicate p.deadCount (.warned .workerDied))

theorem live_of_slot (p : Pool α ε) (worker : Nat) (slot : Slot α ε) (live : slot.isLive = true)
    (held : p.slots[worker]? = some slot) : p.hasLiveWorker = true :=
  List.any_eq_true.2 ⟨slot, List.mem_of_getElem? held, live⟩

theorem Swept.same {p p' : Pool α ε} {lost : List (Note ε)} (swept : Swept p p' lost) :
    p' = { p with queue := p'.queue } := by
  cases swept <;> rfl

theorem Swept.lost {p p' : Pool α ε} {lost : List (Note ε)} (swept : Swept p p' lost)
    (note : Note ε) (member : note ∈ lost) : ∃ job ∈ p.queue, note = .discarded job.id := by
  cases swept with
  | kept => cases member
  | emptied =>
    obtain ⟨job, queued, rfl⟩ := List.mem_map.1 member
    exact ⟨job, queued, rfl⟩

namespace Motion

variable {p p' : Pool α ε} {shown : List (Note ε)}

theorem settings (motion : Motion p p' shown) :
    p'.capacity = p.capacity ∧ p'.lasting = p.lasting := by
  cases motion with
  | kills worker job ending p' lost busy fatal swept => rw [swept.same]; exact ⟨rfl, rfl⟩
  | closes p' lost taking swept => rw [swept.same]; exact ⟨rfl, rfl⟩
  | _ => exact ⟨rfl, rfl⟩

theorem lifeless (motion : Motion p p' shown) (gone : p.hasLiveWorker = false) :
    p'.hasLiveWorker = false := by
  have nobody : ∀ (worker : Nat) (slot : Slot α ε), slot.isLive = true →
      p.slots[worker]? ≠ some slot := fun worker slot live held => by
    rw [live_of_slot p worker slot live held] at gone
    cases gone
  cases motion with
  | accepts => exact gone
  | refuses => exact gone
  | starts worker job rest idle => exact absurd idle (nobody worker _ rfl)
  | ends worker job ending busy => exact absurd busy (nobody worker _ rfl)
  | kills worker job ending p' lost busy => exact absurd busy (nobody worker _ rfl)
  | closes p' lost taking swept => rw [swept.same]; exact gone
  | rests => exact gone
  | joins => rfl

def Grounds (p p' : Pool α ε) : Note ε → Prop
  | .rejected _ f => p.refusal? = some f
  | .discarded _ => p'.hasLiveWorker = false
  | .spilled _ _ => False
  | .startled _ => False
  | _ => True

theorem alarm_grounds (p p' : Pool α ε) (job : Job α ε) (site : Site) (outcome : Settlement)
    (note : Note ε) (said : note ∈ job.alarm site outcome) : Grounds p p' note := by
  rcases mem_alarm job site outcome note said with ⟨_, _, rfl⟩ | ⟨_, rfl⟩ <;> trivial

theorem ending_grounds (p p' : Pool α ε) (job : Job α ε) (site : Site) (ending : Ending)
    (note : Note ε) (said : note ∈ Host.breakageNotes ending ++ job.alarm site ending.outcome) :
    Grounds p p' note := by
  rcases mem_ending job site ending note said with ⟨_, _, rfl⟩ | ⟨_, rfl⟩ <;> trivial

theorem swept_grounds (p q q' : Pool α ε) (lost : List (Note ε)) (swept : Swept q q' lost)
    (note : Note ε) (said : note ∈ lost) : Grounds p q' note := by
  cases swept with
  | kept => cases said
  | emptied gone =>
    obtain ⟨job, _, rfl⟩ := List.mem_map.1 said
    exact gone

theorem grounds (motion : Motion p p' shown) (note : Note ε) (said : note ∈ shown) :
    Grounds p p' note := by
  cases motion with
  | accepts => exact List.mem_singleton.1 said ▸ trivial
  | refuses job next f refused =>
    rcases List.mem_cons.1 said with rfl | alarm
    · exact refused
    · exact alarm_grounds _ _ job _ _ note alarm
  | starts => exact List.mem_singleton.1 said ▸ trivial
  | ends worker job ending => exact ending_grounds _ _ job _ ending note said
  | kills worker job ending _ lost busy fatal swept =>
    rcases List.mem_append.1 said with ended | later
    · exact ending_grounds _ _ job _ ending note ended
    · rcases List.mem_cons.1 later with rfl | gone
      · trivial
      · exact swept_grounds _ _ _ lost swept note gone
  | closes _ _ taking swept => exact swept_grounds _ _ _ _ swept note said
  | rests => cases said
  | joins => exact List.eq_of_mem_replicate said ▸ trivial

theorem rejection (motion : Motion p p' shown) (id : JobId) (f : Failure)
    (rejected : .rejected id f ∈ shown) : p.refusal? = some f :=
  motion.grounds _ rejected

theorem discard (motion : Motion p p' shown) (id : JobId) (gone : .discarded id ∈ shown) :
    p'.hasLiveWorker = false :=
  motion.grounds _ gone

theorem calm (motion : Motion p p' shown) : ∀ note ∈ shown, note.isMishap = false := by
  intro note said
  have ground := motion.grounds note said
  cases note with
  | spilled job worker => exact ground.elim
  | startled worker => exact ground.elim
  | _ => rfl

theorem stopped (motion : Motion p p' shown) (stopped : p.phase ≠ .taking) :
    p'.phase ≠ .taking := by
  cases motion with
  | kills worker job ending _ lost busy fatal swept =>
    rw [swept.same]
    exact stopped
  | closes _ _ taking swept => exact absurd taking stopped
  | joins => exact Phase.noConfusion
  | _ => exact stopped

end Motion

namespace Host

theorem milestones_complete (h : Host α ε) (site : Site) (job : Job α ε) (outcome : Settlement) :
    milestones (h.complete site job outcome).2.1 = job.alarm site outcome := by
  unfold complete
  split <;> rename_i owed
  · simp [milestones, Note.isMilestone, Job.alarm, owed]
  · simp [milestones, Job.alarm, owed]
  · simp [milestones, Note.isMilestone, Job.alarm, owed]
  · simp only [milestones_cons, Note.isMilestone, milestones_acts, Job.alarm, owed, if_true]

theorem complete_fatal (h : Host α ε) (site : Site) (job : Job α ε) (outcome : Settlement) :
    (h.complete site job outcome).2.2 = job.fatal site outcome := by
  unfold complete
  split <;> rename_i owed <;> simp [Job.fatal, owed]

theorem submit_fatal (h : Host α ε) (work : Work α ε) (completion : Completion ε) :
    (h.submit work completion).2.2 = h.pool.refusal?.any fun f =>
      Job.fatal ⟨h.pool.submitted, work, completion⟩ .caller (.error f) := by
  cases verdict : h.pool.refusal? with
  | none => rw [submit_accepting h work completion verdict, Option.any_none]
  | some f =>
    rw [submit_refusing h work completion f verdict, Option.any_some]
    exact complete_fatal _ _ _ _

theorem detached_breaks_off_iff (h : Host α ε) (work : Work α ε) (origin : String)
    (hook : Option (Hook ε)) : (h.submitDetached work origin hook).2.2 = true ↔
      ∃ own f, hook = some own ∧ h.pool.refusal? = some f ∧ own.breaksOff .caller f = true := by
  rw [submitDetached, submit_fatal, Option.any_eq_true]
  constructor
  · rintro ⟨f, refused, fatal⟩
    obtain ⟨_, own, g, owed, same, broke⟩ := (fatal_iff _ _ _).1 fatal
    cases owed
    cases same
    exact ⟨own, f, rfl, refused, broke⟩
  · rintro ⟨own, f, rfl, refused, broke⟩
    exact ⟨f, refused, broke⟩

theorem milestones_breakage (ending : Ending) :
    milestones (breakageNotes (ε := ε) ending) = breakageNotes ending := by
  cases ending <;> rfl

theorem milestones_performing (h : Host α ε) (worker : Nat) (answer : α) (job : Job α ε) :
    milestones (h.performing worker answer job) =
      breakageNotes (job.ending h.pool.threadOf worker answer) := by
  rw [performing, milestones_append, milestones_acts, List.nil_append]
  exact milestones_breakage _

theorem milestones_concluding (h : Host α ε) (worker : Nat) (answer : α) (job : Job α ε) :
    milestones (h.concluding worker answer job) =
      breakageNotes (job.ending h.pool.threadOf worker answer) ++
        job.alarm (.worker worker) (job.ending h.pool.threadOf worker answer).outcome := by
  rw [concluding, conclude, milestones_append, milestones_complete, milestones_performing]

theorem milestones_abandon (h : Host α ε) (job : Job α ε) :
    milestones (h.abandon job).2 = [] := by
  unfold abandon
  split <;> rfl

theorem milestones_discard (h : Host α ε) (gone : List (Job α ε)) :
    milestones (h.discard gone).2 = gone.map fun job => .discarded job.id := by
  induction gone generalizing h with
  | nil => rfl
  | cons job rest ih =>
    change .discarded job.id :: milestones ((h.abandon job).2 ++ _) = _
    rw [milestones_append, milestones_abandon, ih]
    rfl

theorem sweep_motion (h : Host α ε) : Swept h.pool h.sweep.1.pool (milestones h.sweep.2) := by
  unfold sweep
  split
  · next gone =>
    rw [milestones_discard, discard_pool]
    exact .emptied gone.1 gone.2
  · next needed =>
    refine .kept ?_
    cases live : h.pool.hasLiveWorker with
    | true => exact Or.inl rfl
    | false => exact Or.inr (by simpa [live] using needed)

theorem bury_swept (h : Host α ε) (p : Pool α ε) (worker : Nat)
    (freed : h.pool = { p with slots := p.slots.set worker .idle }) :
    ∃ lost, milestones (h.bury worker).2 = .died worker :: lost ∧
      Swept { p with slots := p.slots.set worker .dead } (h.bury worker).1.pool lost := by
  let buried : Host α ε :=
    { h with pool := { h.pool with slots := h.pool.slots.set worker .dead } }
  have swept := sweep_motion buried
  have pool : buried.pool = { p with slots := p.slots.set worker .dead } := by
    simp only [buried, freed, List.set_set]
  rw [pool] at swept
  exact ⟨milestones buried.sweep.2, rfl, swept⟩

theorem submit_motion (h : Host α ε) (work : Work α ε) (completion : Completion ε) :
    Motion h.pool (h.submit work completion).1.pool
      (milestones (h.submit work completion).2.1) := by
  cases verdict : h.pool.refusal? with
  | none =>
    rw [submit_accepting h work completion verdict]
    exact .accepts ⟨h.pool.submitted, work, completion⟩ rfl verdict
  | some f =>
    rw [submit_refusing h work completion f verdict]
    change Motion h.pool _ (.rejected h.pool.submitted f :: milestones _)
    rw [milestones_complete, complete_pool]
    exact .refuses ⟨h.pool.submitted, work, completion⟩ rfl f verdict

theorem pick_up_motion (h next : Host α ε) (worker : Nat) (new : List (Note ε))
    (picked : h.pickUp? worker = some (next, new)) :
    Motion h.pool next.pool (milestones new) := by
  obtain ⟨job, rest, idle, first, rfl, rfl⟩ := pick_up_some h next worker new picked
  have shown : milestones (job.beginning worker) = [.started job.id worker] :=
    congrArg _ (milestones_acts job.work.opening _ _)
  rw [shown]
  exact .starts worker job rest idle first

theorem finish_motion (h next : Host α ε) (worker : Nat) (answer : α) (new : List (Note ε))
    (finished : h.finish? worker answer = some (next, new)) :
    ∃ job, h.pool.slots[worker]? = some (.busy job) ∧
      let ending := job.ending h.pool.threadOf worker answer
      let shown := breakageNotes ending ++ job.alarm (.worker worker) ending.outcome
      (job.fatal (.worker worker) ending.outcome = false ∧ milestones new = shown ∧
          next.pool = { h.pool with slots := h.pool.slots.set worker .idle }) ∨
        job.fatal (.worker worker) ending.outcome = true ∧
          ∃ lost, milestones new = shown ++ .died worker :: lost ∧
            Swept { h.pool with slots := h.pool.slots.set worker .dead } next.pool lost := by
  obtain ⟨job, done, brokeOff, busy, rfl, broke, rfl, rfl⟩ :=
    finish_some h next worker answer new finished
  have fatal : job.fatal (.worker worker) (job.ending h.pool.threadOf worker answer).outcome =
      brokeOff := (complete_fatal _ _ _ _).symm.trans broke
  refine ⟨job, busy, ?_⟩
  cases brokeOff with
  | false =>
    refine Or.inl ⟨fatal, ?_, conclude_pool h worker answer job⟩
    rw [milestones_append, milestones_concluding]
    exact List.append_nil _
  | true =>
    obtain ⟨lost, shown, swept⟩ := bury_swept _ h.pool worker (h.conclude_pool worker answer job)
    refine Or.inr ⟨fatal, lost, ?_, swept⟩
    rw [milestones_append, milestones_concluding, if_pos rfl, shown]

theorem close_motion (h : Host α ε) : Motion h.pool h.close.1.pool (milestones h.close.2) := by
  unfold close
  split
  · next taking =>
    exact .closes _ _ taking (sweep_motion { h with pool := { h.pool with phase := .closing } })
  · next stopped => exact .rests stopped

theorem join_motion (h next : Host α ε) (new : List (Note ε))
    (joined : h.join? = some (next, new)) : Motion h.pool next.pool (milestones new) := by
  unfold join? at joined
  split at joined
  · next drained =>
    obtain ⟨closing, empty, idle⟩ := drained
    simp only [Option.some.injEq, Prod.mk.injEq] at joined
    obtain ⟨rfl, rfl⟩ := joined
    have shown : milestones (List.replicate h.pool.deadCount (Note.warned (ε := ε) .workerDied)) =
        List.replicate h.pool.deadCount (.warned .workerDied) :=
      List.filter_eq_self.2 fun note member => List.eq_of_mem_replicate member ▸ rfl
    rw [shown]
    refine .joins closing (List.isEmpty_iff.1 empty) fun worker job held => ?_
    cases List.all_eq_true.1 idle _ (List.mem_of_getElem? held)
  · cases joined

theorem step_motion (h next : Host α ε) (move : Move α ε) (new : List (Note ε))
    (moved : h.step? move = some (next, new)) : Motion h.pool next.pool (milestones new) := by
  cases move with
  | promise work =>
    simp only [step?, Option.some.injEq, Prod.mk.injEq] at moved
    obtain ⟨rfl, rfl⟩ := moved
    exact submit_motion { h with results := h.results ++ [Cell.fresh] } work _
  | detach work origin hook =>
    simp only [step?, Option.some.injEq, Prod.mk.injEq] at moved
    obtain ⟨rfl, rfl⟩ := moved
    exact submit_motion h work _
  | pickUp worker => exact pick_up_motion h next worker new moved
  | finish worker answer =>
    obtain ⟨job, busy, ⟨mild, shown, pool⟩ | ⟨fatal, lost, shown, swept⟩⟩ :=
      finish_motion h next worker answer new moved
    · rw [shown, pool]
      exact .ends worker job _ busy mild
    · rw [shown]
      exact .kills worker job _ _ lost busy fatal swept
  | close =>
    simp only [step?, Option.some.injEq] at moved
    obtain rfl : h.close.1 = next := congrArg Prod.fst moved
    obtain rfl : h.close.2 = new := congrArg Prod.snd moved
    exact close_motion h
  | join => exact join_motion h next new moved

theorem step_calm (h next : Host α ε) (move : Move α ε) (new : List (Note ε))
    (moved : h.step? move = some (next, new)) : ∀ note ∈ new, note.isMishap = false :=
  calm_of_milestones new (step_motion h next move new moved).calm

def Move.submits : Move α ε → Bool
  | .promise _ => true
  | .detach _ _ _ => true
  | _ => false

theorem submission_refused_iff (h next : Host α ε) (move : Move α ε) (new : List (Note ε))
    (submits : move.submits = true) (moved : h.step? move = some (next, new)) (f : Failure) :
    .rejected h.pool.submitted f ∈ new ↔ h.pool.refusal? = some f := by
  have refused : ∀ (start : Host α ε) (work : Work α ε) (completion : Completion ε),
      start.pool.refusal? = some f →
        .rejected start.pool.submitted f ∈ (start.submit work completion).2.1 := by
    intro start work completion verdict
    rw [submit_refusing start work completion f verdict]
    exact .head _
  refine ⟨fun rejected => (step_motion h next move new moved).rejection h.pool.submitted f
    ((mem_milestones new _ rfl).2 rejected), fun verdict => ?_⟩
  cases move with
  | promise work =>
    simp only [step?, Option.some.injEq, Prod.mk.injEq] at moved
    rw [← moved.2]
    exact refused { h with results := h.results ++ [Cell.fresh] } work _ verdict
  | detach work origin hook =>
    simp only [step?, Option.some.injEq, Prod.mk.injEq] at moved
    rw [← moved.2]
    exact refused h work _ verdict
  | _ => cases submits

end Host

end HostBridge
