import HostBridge.Proofs.Pool.Account

set_option autoImplicit false

namespace HostBridge

variable {α ε : Type}

structure Places (pool : Pool α ε) (jobs : List (Job α ε)) (fate : JobId → Fate α) : Prop where
  counted : pool.submitted = jobs.length
  queued : pool.queue = jobs.filter fun job => (fate job.id).isWaiting
  busy : ∀ (worker : Nat) (job : Job α ε), pool.slots[worker]? = some (.busy job) ↔
    job ∈ jobs ∧ fate job.id = .running worker
  ended : pool.phase = .closed → pool.queue = [] ∧ pool.slots = []

namespace Places

variable {pool : Pool α ε} {jobs : List (Job α ε)} {fate : JobId → Fate α}

theorem waits (places : Places pool jobs fate) (job : Job α ε) :
    job ∈ pool.queue ↔ job ∈ jobs ∧ (fate job.id).isWaiting = true := by
  rw [places.queued, List.mem_filter]

theorem push (places : Places pool jobs fate) (numbered : Numbered jobs) (job : Job α ε)
    (next : job.id = jobs.length) (f : Fate α) (free : ∀ worker, f ≠ .running worker)
    (pool' : Pool α ε) (counted : pool'.submitted = pool.submitted + 1)
    (queued : pool'.queue = pool.queue ++ if f.isWaiting then [job] else [])
    (slots : pool'.slots = pool.slots)
    (ended : pool'.phase = .closed → pool'.queue = [] ∧ pool'.slots = []) :
    Places pool' (jobs ++ [job]) (assign fate job.id f) := by
  have unchanged : ∀ other ∈ jobs, assign fate job.id f other.id = fate other.id :=
    fun other old => assign_other fate job.id other.id f
      (next ▸ Nat.ne_of_lt (numbered.lt other old))
  refine ⟨?_, ?_, fun worker other => ?_, ended⟩
  · simp [counted, places.counted]
  · have old : (jobs.filter fun other => (assign fate job.id f other.id).isWaiting) =
        jobs.filter fun other => (fate other.id).isWaiting :=
      List.filter_congr fun other member => by rw [unchanged other member]
    rw [queued, places.queued, List.filter_append, old]
    congr 1
    cases waiting : f.isWaiting <;> simp [assign_self, waiting]
  · rw [slots, places.busy]
    constructor
    · rintro ⟨old, running⟩
      exact ⟨List.mem_append_left _ old, (unchanged other old).trans running⟩
    · rintro ⟨member, running⟩
      rcases List.mem_append.1 member with old | added
      · exact ⟨old, (unchanged other old).symm.trans running⟩
      · obtain rfl : other = job := by simpa using added
        rw [assign_self] at running
        exact absurd running (free worker)

theorem rehold (places : Places pool jobs fate) (numbered : Numbered jobs) (worker : Nat)
    (slot : Slot α ε) (job : Job α ε) (f : Fate α) (member : job ∈ jobs)
    (bound : worker < pool.slots.length)
    (before : ∀ held, pool.slots[worker]? = some (.busy held) → held = job)
    (elsewhere : ∀ other, fate job.id = .running other → other = worker)
    (after : ∀ held, slot = .busy held ↔ held = job ∧ f = .running worker)
    (nowhere : ∀ other, f = .running other → other = worker) (other : Nat) (held : Job α ε) :
    (pool.slots.set worker slot)[other]? = some (.busy held) ↔
      held ∈ jobs ∧ assign fate job.id f held.id = .running other := by
  by_cases here : worker = other
  · subst here
    rw [List.getElem?_set_self bound, Option.some.injEq, after]
    constructor
    · rintro ⟨rfl, now⟩
      exact ⟨member, (assign_self fate held.id f).trans now⟩
    · rintro ⟨also, running⟩
      by_cases same : held.id = job.id
      · rw [same, assign_self] at running
        exact ⟨numbered.unique job held member also same, running⟩
      · rw [assign_other fate job.id held.id f same] at running
        have own := before held ((places.busy worker held).2 ⟨also, running⟩)
        exact absurd (congrArg Job.id own) same
  · rw [List.getElem?_set_ne here, places.busy]
    refine and_congr_right fun also => ?_
    by_cases same : held.id = job.id
    · rw [same, assign_self]
      constructor
      · intro running
        exact absurd (elsewhere other running).symm here
      · intro running
        exact absurd (nowhere other running).symm here
    · rw [assign_other fate job.id held.id f same]

theorem pick_up (places : Places pool jobs fate) (numbered : Numbered jobs) (worker : Nat)
    (job : Job α ε) (rest : List (Job α ε)) (idle : pool.slots[worker]? = some .idle)
    (first : pool.queue = job :: rest) :
    Places { pool with slots := pool.slots.set worker (.busy job), queue := rest } jobs
      (assign fate job.id (.running worker)) := by
  obtain ⟨member, waiting⟩ := (places.waits job).1 (first ▸ List.mem_cons_self)
  have bound : worker < pool.slots.length := (List.getElem?_eq_some_iff.1 idle).1
  refine ⟨places.counted, ?_, fun other held => ?_, fun closed => ?_⟩
  · have distinct : (job :: rest).Pairwise fun a b => a.id ≠ b.id := by
      rw [← first, places.queued]
      exact numbered.pairwise.filter _
    have later : ∀ other ∈ rest, other.id ≠ job.id := fun other after =>
      Ne.symm ((List.pairwise_cons.1 distinct).1 other after)
    have kept : (jobs.filter fun other =>
        (assign fate job.id (.running worker) other.id).isWaiting) =
          (jobs.filter fun other => (fate other.id).isWaiting).filter fun other =>
            other.id != job.id := by
      rw [List.filter_filter]
      refine List.filter_congr fun other _ => ?_
      by_cases same : other.id = job.id <;> simp [assign, same, Fate.isWaiting]
    change rest = _
    rw [kept, ← places.queued, first, List.filter_cons]
    simp only [bne_self_eq_false, Bool.false_eq_true, if_false]
    exact (List.filter_eq_self.2 fun other after => by simpa using later other after).symm
  · refine places.rehold numbered worker (.busy job) job _ member bound (fun held busy => ?_)
      (fun other running => ?_) (fun held => ?_) (fun other same => (Fate.running.inj same).symm)
      other held
    · rw [idle] at busy
      cases busy
    · rw [running] at waiting
      cases waiting
    · simp [eq_comm]
  · have none := (places.ended closed).1
    rw [first] at none
    cases none

theorem replace (places : Places pool jobs fate) (worker : Nat) (slot : Slot α ε)
    (before : ∀ job, pool.slots[worker]? ≠ some (.busy job)) (after : ∀ job, slot ≠ .busy job) :
    Places { pool with slots := pool.slots.set worker slot } jobs fate := by
  refine ⟨places.counted, places.queued, fun other job => ?_, fun closed => ?_⟩
  · rw [← places.busy]
    change (pool.slots.set worker slot)[other]? = some (.busy job) ↔ _
    by_cases here : worker = other
    · subst here
      rw [List.getElem?_set]
      constructor
      · intro held
        split at held
        · split at held
          · exact absurd (Option.some.inj held) (after job)
          · cases held
        · contradiction
      · intro held
        exact absurd held (before job)
    · rw [List.getElem?_set_ne here]
  · obtain ⟨empty, gone⟩ := places.ended closed
    exact ⟨empty, by simp [gone]⟩

theorem free (places : Places pool jobs fate) (numbered : Numbered jobs) (worker : Nat)
    (job : Job α ε) (held : pool.slots[worker]? = some (.busy job)) (f : Fate α)
    (left : f.isWaiting = false) (stopped : ∀ other, f ≠ .running other) :
    Places { pool with slots := pool.slots.set worker .idle } jobs (assign fate job.id f) := by
  obtain ⟨member, running⟩ := (places.busy worker job).1 held
  have bound : worker < pool.slots.length := (List.getElem?_eq_some_iff.1 held).1
  refine ⟨places.counted, ?_, fun other kept => ?_, fun closed => ?_⟩
  · change pool.queue = _
    rw [places.queued]
    refine List.filter_congr fun other _ => ?_
    by_cases same : other.id = job.id
    · rw [same, assign_self, running, left]
      rfl
    · rw [assign_other fate job.id other.id f same]
  · refine places.rehold numbered worker .idle job f member bound (fun other busy => ?_)
      (fun other moved => ?_) (fun other => ?_) (fun other same => absurd same (stopped other))
      other kept
    · rw [held] at busy
      cases busy
      rfl
    · rw [running] at moved
      exact (Fate.running.inj moved).symm
    · simp [stopped worker]
  · have gone := (places.ended closed).2
    rw [gone] at held
    cases held

theorem empty_queue (places : Places pool jobs fate) (fate' : JobId → Fate α)
    (drops : Drops pool.queue fate fate') : Places { pool with queue := [] } jobs fate' := by
  have waited : ∀ job ∈ jobs, (fate job.id).isWaiting = true → fate' job.id = .dropped :=
    fun job member waiting => drops.dropped job ((places.waits job).2 ⟨member, waiting⟩)
  have stayed : ∀ job, (fate job).isWaiting = false → fate' job = fate job := by
    intro job unqueued
    refine drops.kept job fun other queued same => ?_
    rw [← same, ((places.waits other).1 queued).2] at unqueued
    cases unqueued
  refine ⟨places.counted, ?_, fun worker job => ?_, fun closed => ⟨rfl, (places.ended closed).2⟩⟩
  · refine (List.filter_eq_nil_iff.2 fun job member => ?_).symm
    cases waiting : (fate job.id).isWaiting with
    | true => simp [waited job member waiting, Fate.isWaiting]
    | false => simp [stayed job.id waiting, waiting]
  · rw [places.busy]
    refine and_congr_right fun member => ?_
    cases waiting : (fate job.id).isWaiting with
    | true =>
      rw [waited job member waiting]
      constructor
      · intro running
        rw [running] at waiting
        cases waiting
      · intro running
        cases running
    | false => rw [stayed job.id waiting]

theorem close (places : Places pool jobs fate) :
    Places { pool with phase := .closing } jobs fate :=
  ⟨places.counted, places.queued, places.busy, fun closed => by cases closed⟩

theorem join (places : Places pool jobs fate) (empty : pool.queue = [])
    (free : ∀ (worker : Nat) (job : Job α ε), pool.slots[worker]? ≠ some (.busy job)) :
    Places { pool with slots := [], phase := .closed } jobs fate := by
  refine ⟨places.counted, places.queued, fun worker job => ?_, fun _ => ⟨empty, rfl⟩⟩
  rw [← places.busy]
  constructor
  · intro held
    cases held
  · intro held
    exact absurd held (free worker job)

end Places

end HostBridge
