import HostBridge.Proofs.Pool.Account
import HostBridge.Proofs.Pool.Whereabouts

set_option autoImplicit false

namespace HostBridge

variable {α ε : Type}

def Perilous (notes : List (Note ε)) (jobs : List (Job α ε)) : Prop :=
  (∃ job ∈ jobs, job.Lethal) ∨ ∃ note ∈ notes, note.isMishap = true

theorem Perilous.append {notes : List (Note ε)} {jobs jobs' : List (Job α ε)}
    (perilous : Perilous notes jobs) (new : List (Note ε)) (more : ∀ job ∈ jobs, job ∈ jobs') :
    Perilous (notes ++ new) jobs' := by
  rcases perilous with ⟨job, member, lethal⟩ | ⟨note, seen, mishap⟩
  · exact Or.inl ⟨job, more job member, lethal⟩
  · exact Or.inr ⟨note, List.mem_append_left new seen, mishap⟩

theorem not_perilous {notes : List (Note ε)} {jobs : List (Job α ε)}
    (peaceful : ∀ job ∈ jobs, ¬ job.Lethal) (calm : ∀ note ∈ notes, note.isMishap = false) :
    ¬ Perilous notes jobs := by
  rintro (⟨job, member, lethal⟩ | ⟨note, seen, mishap⟩)
  · exact peaceful job member lethal
  · rw [calm note seen] at mishap
    cases mishap

structure Deaths (workers : Nat) (pool : Pool α ε) (notes : List (Note ε))
    (jobs : List (Job α ε)) : Prop where
  staffed : pool.phase ≠ .closed → pool.slots.length = workers
  marked : ∀ worker : Nat, pool.slots[worker]? = some .dead → .died worker ∈ notes
  killed : ∀ worker, .died worker ∈ notes → Perilous notes jobs
  desolate : ∀ job, .discarded job ∈ notes →
    0 < workers ∧ ∀ worker < workers, .died worker ∈ notes
  served : pool.queue ≠ [] → 0 < workers

namespace Deaths

variable {workers : Nat} {pool : Pool α ε} {notes : List (Note ε)} {jobs : List (Job α ε)}

theorem none_left (deaths : Deaths workers pool notes jobs) (unclosed : pool.phase ≠ .closed)
    (gone : pool.hasLiveWorker = false) : ∀ worker < workers, .died worker ∈ notes := by
  intro worker less
  have bound : worker < pool.slots.length := by rwa [deaths.staffed unclosed]
  refine deaths.marked worker ?_
  have dead : (pool.slots[worker]).isLive = false :=
    Bool.eq_false_iff.2 (List.any_eq_false.1 gone _ (List.getElem_mem bound))
  rw [List.getElem?_eq_getElem bound]
  cases held : pool.slots[worker] with
  | dead => rfl
  | idle => rw [held] at dead; cases dead
  | busy job => rw [held] at dead; cases dead

theorem harmless (deaths : Deaths workers pool notes jobs) (pool' : Pool α ε)
    (new : List (Note ε)) (jobs' : List (Job α ε)) (unlost : ∀ note ∈ new, note.isLoss = false)
    (more : ∀ job ∈ jobs, job ∈ jobs')
    (staffed : pool'.phase ≠ .closed → pool'.slots.length = workers)
    (marked : ∀ worker : Nat, pool'.slots[worker]? = some .dead →
      pool.slots[worker]? = some .dead)
    (served : pool'.queue ≠ [] → 0 < workers) : Deaths workers pool' (notes ++ new) jobs' := by
  have old : ∀ note, note.isLoss = true → note ∈ notes ++ new → note ∈ notes := by
    intro note loss member
    rcases List.mem_append.1 member with before | after
    · exact before
    · rw [unlost note after] at loss
      cases loss
  refine ⟨staffed, fun worker dead => ?_, fun worker died => ?_, fun job discarded => ?_, served⟩
  · exact List.mem_append_left _ (deaths.marked worker (marked worker dead))
  · exact (deaths.killed worker (old _ rfl died)).append new more
  · obtain ⟨some, all⟩ := deaths.desolate job (old _ rfl discarded)
    exact ⟨some, fun worker less => List.mem_append_left _ (all worker less)⟩

theorem rehold (deaths : Deaths workers pool notes jobs) (worker : Nat) (slot : Slot α ε)
    (live : slot ≠ .dead) (queue : List (Job α ε)) (filled : queue ≠ [] → pool.queue ≠ [])
    (new : List (Note ε)) (unlost : ∀ note ∈ new, note.isLoss = false) :
    Deaths workers { pool with slots := pool.slots.set worker slot, queue := queue }
      (notes ++ new) jobs := by
  refine deaths.harmless _ new jobs unlost (fun _ also => also) (fun unclosed => ?_)
    (fun other dead => ?_) fun some => deaths.served (filled some)
  · rw [← deaths.staffed unclosed]
    exact List.length_set
  · change (pool.slots.set worker slot)[other]? = some .dead at dead
    rw [List.getElem?_set] at dead
    split at dead
    · split at dead
      · exact absurd (Option.some.inj dead) live
      · cases dead
    · exact dead

theorem desert (deaths : Deaths workers pool notes jobs) (unclosed : pool.phase ≠ .closed)
    (gone : pool.hasLiveWorker = false) (some : 0 < workers) (new : List (Note ε))
    (nobody : ∀ worker, .died worker ∉ new) :
    Deaths workers { pool with queue := [] } (notes ++ new) jobs := by
  have old : ∀ worker, .died worker ∈ notes ++ new → .died worker ∈ notes := fun worker died =>
    (List.mem_append.1 died).resolve_right (nobody worker)
  refine ⟨deaths.staffed, fun worker dead => ?_, fun worker died => ?_, fun job _ => ?_,
    fun filled => absurd rfl filled⟩
  · exact List.mem_append_left _ (deaths.marked worker dead)
  · exact (deaths.killed worker (old worker died)).append new fun _ also => also
  · exact ⟨some, fun worker less =>
      List.mem_append_left _ (deaths.none_left unclosed gone worker less)⟩

theorem bury (deaths : Deaths workers pool notes jobs) (worker : Nat)
    (perilous : Perilous notes jobs) :
    Deaths workers { pool with slots := pool.slots.set worker .dead } (notes ++ [.died worker])
      jobs := by
  refine ⟨fun unclosed => ?_, fun other dead => ?_, fun other died => ?_, fun other lost => ?_,
    deaths.served⟩
  · rw [← deaths.staffed unclosed]
    exact List.length_set
  · by_cases here : worker = other
    · simp [here]
    · change (pool.slots.set worker .dead)[other]? = some .dead at dead
      rw [List.getElem?_set_ne here] at dead
      exact List.mem_append_left _ (deaths.marked other dead)
  · exact perilous.append _ fun _ also => also
  · have before : .discarded other ∈ notes := by simpa using lost
    obtain ⟨some, all⟩ := deaths.desolate other before
    exact ⟨some, fun worker less => List.mem_append_left _ (all worker less)⟩

end Deaths

structure Ledger (workers : Nat) (thread : Nat → String) (h : Host α ε) (notes : List (Note ε))
    (jobs : List (Job α ε)) (fate : JobId → Fate α) : Prop where
  named : h.pool.threadOf = thread
  numbered : Numbered jobs
  grounds : ∀ job f, fate job = .refused f → f = .queueFull ∨ f = .poolClosed
  stories : Stories thread notes jobs fate
  debts : Debts thread h.results notes jobs fate
  places : Places h.pool jobs fate
  deaths : Deaths workers h.pool notes jobs

def Pool.verdict (p : Pool α ε) : Fate α :=
  match p.refusal? with
  | none => .waiting
  | some f => .refused f

theorem refusal_grounds (p : Pool α ε) (f : Failure) (refused : p.refusal? = some f) :
    f = .queueFull ∨ f = .poolClosed := by
  unfold Pool.refusal? at refused
  split at refused
  · exact Or.inr (Option.some.inj refused).symm
  · split at refused
    · cases refused
    · exact Or.inl (Option.some.inj refused).symm

theorem accepting_open (p : Pool α ε) (accepted : p.refusal? = none) :
    p.phase = .taking ∧ p.hasLiveWorker = true := by
  unfold Pool.refusal? at accepted
  split at accepted
  · cases accepted
  · next fine =>
    simpa only [ne_eq, not_or, Decidable.not_not, Bool.not_eq_false] using fine

theorem accepting_room (p : Pool α ε) (accepted : p.refusal? = none) (places : 0 < p.capacity) :
    p.queue.length < p.capacity := by
  unfold Pool.refusal? at accepted
  split at accepted
  · cases accepted
  · split at accepted
    · next room =>
      simp only [Pool.hasRoom, Bool.or_eq_true, beq_iff_eq, decide_eq_true_eq] at room
      exact room.resolve_left (Nat.ne_of_gt places)
    · cases accepted

theorem Host.submit_accepting (h : Host α ε) (work : Work α ε) (completion : Completion ε)
    (accepted : h.pool.refusal? = none) :
    h.submit work completion =
      ({ h with pool := { h.pool with
          queue := h.pool.queue ++ [⟨h.pool.submitted, work, completion⟩]
          submitted := h.pool.submitted + 1 } },
        [.accepted h.pool.submitted], false) := by
  simp [submit, accepted]

theorem Host.submit_refusing (h : Host α ε) (work : Work α ε) (completion : Completion ε)
    (f : Failure) (refused : h.pool.refusal? = some f) :
    h.submit work completion =
      let done := complete { h with pool := { h.pool with submitted := h.pool.submitted + 1 } }
        .caller ⟨h.pool.submitted, work, completion⟩ (.error f)
      (done.1, .rejected h.pool.submitted f :: done.2.1, done.2.2) := by
  simp [submit, refused]

namespace Ledger

variable {workers : Nat} {thread : Nat → String} {h : Host α ε} {notes : List (Note ε)}
  {jobs : List (Job α ε)} {fate : JobId → Fate α}

theorem quiet (ledger : Ledger workers thread h notes jobs fate) (new : List (Note ε))
    (asides : Asides new) : Ledger workers thread h (notes ++ new) jobs fate :=
  ⟨ledger.named, ledger.numbered, ledger.grounds, ledger.stories.quiet new asides.story,
    ledger.debts.quiet new asides.settlements, ledger.places,
    ledger.deaths.harmless h.pool new jobs asides.unlost (fun _ member => member)
      ledger.deaths.staffed (fun _ dead => dead) ledger.deaths.served⟩

theorem extend (ledger : Ledger workers thread h notes jobs fate) (cell : Cell) :
    Ledger workers thread { h with results := h.results ++ [cell] } notes jobs fate :=
  ⟨ledger.named, ledger.numbered, ledger.grounds, ledger.stories, ledger.debts.extend cell,
    ledger.places, ledger.deaths⟩

theorem grounds_assign (ledger : Ledger workers thread h notes jobs fate) (job : JobId)
    (f : Fate α) (sound : ∀ failure, f = .refused failure →
      failure = .queueFull ∨ failure = .poolClosed) (other : JobId) (failure : Failure)
    (refused : assign fate job f other = .refused failure) :
    failure = .queueFull ∨ failure = .poolClosed := by
  by_cases same : other = job
  · rw [same, assign_self] at refused
    exact sound failure refused
  · rw [assign_other fate job other f same] at refused
    exact ledger.grounds other failure refused

def Fresh (h : Host α ε) (jobs : List (Job α ε)) (job : Job α ε) : Prop :=
  ∀ id, job.owed? = some id → id < h.results.length ∧ h.results.outcome? id = none ∧
    ∀ other ∈ jobs, other.owed? ≠ some id

theorem submit_accepted (ledger : Ledger workers thread h notes jobs fate) (work : Work α ε)
    (completion : Completion ε) (fresh : Fresh h jobs ⟨h.pool.submitted, work, completion⟩)
    (accepted : h.pool.refusal? = none) :
    Ledger workers thread (h.submit work completion).1 (notes ++ (h.submit work completion).2.1)
      (jobs ++ [⟨h.pool.submitted, work, completion⟩]) (assign fate h.pool.submitted .waiting) := by
  have next := ledger.places.counted
  obtain ⟨taking, live⟩ := accepting_open h.pool accepted
  have crowd : 0 < workers := by
    obtain ⟨slot, member, _⟩ := List.any_eq_true.1 live
    rw [← ledger.deaths.staffed (by simp [taking])]
    exact List.length_pos_of_mem member
  rw [Host.submit_accepting h work completion accepted]
  refine ⟨ledger.named, ledger.numbered.push _ next, ?_, ?_, ?_, ?_, ?_⟩
  · exact ledger.grounds_assign h.pool.submitted .waiting fun f same => by cases same
  · refine ledger.stories.push ledger.numbered ⟨h.pool.submitted, work, completion⟩ next .waiting _
      ?_ fun other differ => ?_
    · simp [storyOf, Note.job?, Fate.story]
    · simpa [storyOf, Note.job?] using differ
  · exact (ledger.debts.push ledger.numbered _ next fresh).quiet _ fun id => by
      simp [settlementsOf, Note.settlementOf?]
  · refine ledger.places.push ledger.numbered ⟨h.pool.submitted, work, completion⟩ next .waiting
      (fun worker same => by cases same) _ rfl rfl rfl fun closed => ?_
    rw [show h.pool.phase = .closed from closed] at taking
    cases taking
  · refine ledger.deaths.harmless _ _ _ (fun note member => ?_)
      (fun job member => List.mem_append_left _ member) ledger.deaths.staffed
      (fun worker dead => dead) fun _ => crowd
    rw [List.mem_singleton.1 member]
    rfl

theorem submit_refused (ledger : Ledger workers thread h notes jobs fate) (work : Work α ε)
    (completion : Completion ε) (fresh : Fresh h jobs ⟨h.pool.submitted, work, completion⟩)
    (f : Failure) (refused : h.pool.refusal? = some f) :
    Ledger workers thread (h.submit work completion).1 (notes ++ (h.submit work completion).2.1)
      (jobs ++ [⟨h.pool.submitted, work, completion⟩])
      (assign fate h.pool.submitted (.refused f)) := by
  have next := ledger.places.counted
  have numbered := ledger.numbered.push ⟨h.pool.submitted, work, completion⟩ next
  rw [Host.submit_refusing h work completion f refused]
  generalize owner : (⟨h.pool.submitted, work, completion⟩ : Job α ε) = job at *
  have same : h.pool.submitted = job.id := by rw [← owner]
  rw [same] at next ⊢
  refine ⟨?_, numbered, ?_, ?_, ?_, ?_, ?_⟩
  · rw [Host.complete_pool]
    exact ledger.named
  · exact ledger.grounds_assign job.id (.refused f) fun failure equal => by
      cases equal
      exact refusal_grounds h.pool f refused
  · refine ledger.stories.push ledger.numbered job next (.refused f) _ ?_ fun other differ => ?_
    · change storyOf ([.rejected job.id f] ++ _) job.id = _
      rw [story_append, Host.story_complete_self]
      simp [storyOf, Note.job?, Fate.story]
    · change storyOf ([.rejected job.id f] ++ _) other = _
      rw [story_append, Host.story_complete_other _ _ _ _ _ differ]
      simpa [storyOf, Note.job?] using differ
  · have debts := ledger.debts.push ledger.numbered job next fresh
    rw [Host.complete_results, ← assign_twice fate job.id .waiting (.refused f)]
    refine debts.settle numbered job (by simp) (.refused f) (.error f) ?_ rfl _ fun id => ?_
    · rw [assign_self]
      rfl
    · change settlementsOf ([.rejected job.id f] ++ _) id = _
      rw [settlements_append, Host.settlements_complete]
      simp [settlementsOf, Note.settlementOf?]
  · rw [Host.complete_pool]
    refine ledger.places.push ledger.numbered job next (.refused f)
      (fun worker equal => by cases equal) _ (same ▸ rfl) ?_ rfl ledger.places.ended
    simp [Fate.isWaiting]
  · rw [Host.complete_pool]
    refine ledger.deaths.harmless _ _ _ (fun note member => ?_)
      (fun job member => List.mem_append_left _ member) ledger.deaths.staffed
      (fun worker dead => dead) ledger.deaths.served
    rcases List.mem_cons.1 member with rfl | within
    · rfl
    · exact Host.complete_unlost _ _ _ _ note within

theorem submit (ledger : Ledger workers thread h notes jobs fate) (work : Work α ε)
    (completion : Completion ε) (fresh : Fresh h jobs ⟨h.pool.submitted, work, completion⟩) :
    Ledger workers thread (h.submit work completion).1 (notes ++ (h.submit work completion).2.1)
      (jobs ++ [⟨h.pool.submitted, work, completion⟩])
      (assign fate h.pool.submitted h.pool.verdict) := by
  cases verdict : h.pool.refusal? with
  | none =>
    simpa only [Pool.verdict, verdict] using ledger.submit_accepted work completion fresh verdict
  | some f =>
    simpa only [Pool.verdict, verdict] using ledger.submit_refused work completion fresh f verdict

end Ledger

end HostBridge
