import HostBridge.Proofs.Pool.History

set_option autoImplicit false

namespace HostBridge

variable {α ε : Type}

inductive Place where
  | queued
  | running
  | finished
  | rejected
  | discarded
deriving DecidableEq

def Fate.place : Fate α → Place
  | waiting => .queued
  | running _ => .running
  | finished _ _ => .finished
  | spilled _ _ => .finished
  | refused _ => .rejected
  | dropped => .discarded

inductive Mark where
  | started
  | ended
  | rejected
  | discarded
deriving DecidableEq

def Note.mark? : Note ε → Option (JobId × Mark)
  | .started job _ => some (job, .started)
  | .ended job _ _ => some (job, .ended)
  | .rejected job _ => some (job, .rejected)
  | .discarded job => some (job, .discarded)
  | _ => none

def marks (notes : List (Note ε)) (job : JobId) (mark : Mark) : Nat :=
  notes.countP fun note => note.mark? == some (job, mark)

-- How often a job is met in a place: in the queue, with the workers, or among what was observed.
def occurrences (h : Host α ε) (notes : List (Note ε)) (job : JobId) : Place → Nat
  | .queued => h.pool.queue.countP fun other => other.id == job
  | .running => h.pool.slots.countP fun slot => slot.job?.any fun other => other.id == job
  | .finished => marks notes job .ended
  | .rejected => marks notes job .rejected
  | .discarded => marks notes job .discarded

theorem marks_story (notes : List (Note ε)) (job : JobId) (mark : Mark) :
    marks notes job mark = marks (storyOf notes job) job mark := by
  unfold marks storyOf
  rw [List.countP_filter]
  refine List.countP_congr fun note _ => ?_
  cases note <;> simp [Note.mark?, Note.job?]
  all_goals exact fun same _ => same

theorem marks_nil (job : JobId) (mark : Mark) : marks ([] : List (Note ε)) job mark = 0 := rfl

theorem marks_append (notes more : List (Note ε)) (job : JobId) (mark : Mark) :
    marks (notes ++ more) job mark = marks notes job mark + marks more job mark := by
  simp [marks]

theorem marks_cons (note : Note ε) (rest : List (Note ε)) (job : JobId) (mark : Mark) :
    marks (note :: rest) job mark =
      marks rest job mark + if note.mark? = some (job, mark) then 1 else 0 := by
  simp [marks, List.countP_cons]

theorem marks_acts (acts : List ε) (site : Site) (owner : Option JobId) (job : JobId)
    (mark : Mark) : marks (acts.map (Note.acted site owner)) job mark = 0 := by
  simp [marks, Note.mark?]

theorem marks_report (job : Job α ε) (site : Site) (outcome : Settlement) (mark : Mark) :
    marks (job.report site outcome) job.id mark = 0 := by
  unfold Job.report
  split
  · rw [marks_cons, marks_acts]
    simp [Note.mark?]
  · rfl

theorem marks_of_fate (thread : Nat → String) (job : Job α ε) (fate : Fate α) (mark : Mark) :
    marks (fate.story thread job) job.id mark =
      match mark with
      | .started => if fate.place = .running ∨ fate.place = .finished then 1 else 0
      | .ended => if fate.place = .finished then 1 else 0
      | .rejected => if fate.place = .rejected then 1 else 0
      | .discarded => if fate.place = .discarded then 1 else 0 := by
  cases fate <;> cases mark <;>
    simp [Fate.story, Fate.place, Job.beginning, Job.conclusion, Job.spillage, marks_cons,
      marks_append, marks_acts, marks_report, marks_nil, Note.mark?]

theorem countP_single {β : Type} (items : List β) (p : β → Bool) (i : Nat) (x : β)
    (found : items[i]? = some x) (holds : p x = true)
    (others : ∀ (j : Nat) (y : β), j ≠ i → items[j]? = some y → p y = false) :
    items.countP p = 1 := by
  induction items generalizing i with
  | nil => cases found
  | cons head tail ih =>
    cases i with
    | zero =>
      obtain rfl : head = x := Option.some.inj found
      have none : tail.countP p = 0 := by
        refine List.countP_eq_zero.2 fun y member => ?_
        obtain ⟨j, at_j⟩ := List.mem_iff_getElem?.1 member
        simp [others (j + 1) y (by omega) at_j]
      simp [holds, none]
    | succ i =>
      have rest := ih i found fun j y differ at_j => others (j + 1) y (by omega) at_j
      have first : p head = false := others 0 head (by omega) rfl
      simp [first, rest]

namespace Places

variable {pool : Pool α ε} {jobs : List (Job α ε)} {fate : JobId → Fate α}

theorem count_queued (places : Places pool jobs fate) (numbered : Numbered jobs) (job : Job α ε)
    (member : job ∈ jobs) : (pool.queue.countP fun other => other.id == job.id) =
      if (fate job.id).place = .queued then 1 else 0 := by
  rw [places.queued, List.countP_filter]
  cases waiting : (fate job.id).isWaiting with
  | true =>
    rw [waiting_of_isWaiting _ waiting]
    refine countP_single jobs _ job.id job (numbered.get job member) (by simp [waiting]) ?_
    intro i other differ found
    simp [numbered i other found, differ]
  | false =>
    have elsewhere : (fate job.id).place ≠ .queued := by
      intro queued
      cases held : fate job.id <;> rw [held] at waiting queued
      · cases waiting
      all_goals cases queued
    rw [if_neg elsewhere]
    refine List.countP_eq_zero.2 fun other also => ?_
    by_cases same : other.id = job.id <;> simp [same, waiting]

theorem count_running (places : Places pool jobs fate) (job : Job α ε) (member : job ∈ jobs) :
    (pool.slots.countP fun slot => slot.job?.any fun other => other.id == job.id) =
      if (fate job.id).place = .running then 1 else 0 := by
  -- Whoever is busy under this number is busy with this job.
  have busy : ∀ (worker : Nat) (slot : Slot α ε), pool.slots[worker]? = some slot →
      (slot.job?.any fun other => other.id == job.id) = true →
        fate job.id = .running worker := by
    intro worker slot found holds
    cases slot with
    | idle => cases holds
    | dead => cases holds
    | busy other =>
      have same : other.id = job.id := by simpa [Slot.job?] using holds
      obtain ⟨also, running⟩ := (places.busy worker other).1 found
      rwa [same] at running
  by_cases running : ∃ worker, fate job.id = .running worker
  · obtain ⟨worker, running⟩ := running
    rw [running]
    refine countP_single pool.slots _ worker (.busy job)
      ((places.busy worker job).2 ⟨member, running⟩) (by simp [Slot.job?]) ?_
    intro other slot differ found
    refine Bool.eq_false_iff.2 fun holds => differ ?_
    exact Fate.running.inj ((busy other slot found holds).symm.trans running)
  · have elsewhere : (fate job.id).place ≠ .running := by
      intro here
      cases held : fate job.id with
      | running worker => exact running ⟨worker, held⟩
      | waiting => rw [held] at here; cases here
      | finished => rw [held] at here; cases here
      | spilled => rw [held] at here; cases here
      | refused => rw [held] at here; cases here
      | dropped => rw [held] at here; cases here
    rw [if_neg elsewhere]
    refine List.countP_eq_zero.2 fun slot among holds => running ?_
    obtain ⟨worker, found⟩ := List.mem_iff_getElem?.1 among
    exact ⟨worker, busy worker slot found holds⟩

end Places

theorem Ledger.located {workers : Nat} {thread : Nat → String} {h : Host α ε}
    {notes : List (Note ε)} {jobs : List (Job α ε)} {fate : JobId → Fate α}
    (ledger : Ledger workers thread h notes jobs fate) (job : Job α ε) (member : job ∈ jobs)
    (place : Place) :
    occurrences h notes job.id place = if place = (fate job.id).place then 1 else 0 := by
  have told := ledger.stories.told job member
  cases place with
  | queued =>
    rw [occurrences, ledger.places.count_queued ledger.numbered job member]
    simp only [eq_comm]
  | running =>
    rw [occurrences, ledger.places.count_running job member]
    simp only [eq_comm]
  | finished =>
    rw [occurrences, marks_story, told, marks_of_fate]
    simp only [eq_comm]
  | rejected =>
    rw [occurrences, marks_story, told, marks_of_fate]
    simp only [eq_comm]
  | discarded =>
    rw [occurrences, marks_story, told, marks_of_fate]
    simp only [eq_comm]

theorem Ledger.closed_place {workers : Nat} {thread : Nat → String} {h : Host α ε}
    {notes : List (Note ε)} {jobs : List (Job α ε)} {fate : JobId → Fate α}
    (ledger : Ledger workers thread h notes jobs fate) (closed : h.pool.phase = .closed)
    (job : Job α ε) (member : job ∈ jobs) :
    (fate job.id).place ≠ .queued ∧ (fate job.id).place ≠ .running := by
  obtain ⟨empty, gone⟩ := ledger.places.ended closed
  constructor
  · intro queued
    have count := ledger.located job member .queued
    rw [if_pos queued.symm, occurrences, empty] at count
    cases count
  · intro running
    have count := ledger.located job member .running
    rw [if_pos running.symm, occurrences, gone] at count
    cases count

/-- What a run leaves of one of its jobs. An outcome that is there stays whatever moves follow, and
none of them settles the result again. -/
structure Accounted (start h : Host α ε) (moves : List (Host.Move α ε)) (notes : List (Note ε))
    (job : Job α ε) (fate : Fate α) : Prop where
  place : ∀ place, occurrences h notes job.id place = if place = fate.place then 1 else 0
  begun : marks notes job.id .started =
    if fate.place = .running ∨ fate.place = .finished then 1 else 0
  story : storyOf notes job.id = fate.story h.pool.threadOf job
  unspilled : ∀ worker answer, fate ≠ .spilled worker answer
  grounds : ∀ f, fate = .refused f → f = .queueFull ∨ f = .poolClosed
  answered : ∀ worker answer, fate = .finished worker answer →
    Answered Host.step? .finish start moves job.id worker answer
  outcome : ∀ id, job.completion = .settle id →
    h.results.outcome? id = fate.outcome? h.pool.threadOf job ∧
      settlementsOf notes id = (fate.outcome? h.pool.threadOf job).toList
  unsettled : ∀ id, job.completion = .settle id →
    (h.results.outcome? id = none ↔ fate.place = .queued ∨ fate.place = .running)
  final : ∀ id outcome, job.completion = .settle id → h.results.outcome? id = some outcome →
    ∀ later last more, h.run? later = some (last, more) →
      last.results.outcome? id = some outcome ∧ settlementsOf more id = []
  ended : h.pool.phase = .closed → ∀ id, job.completion = .settle id →
    h.results.outcome? id ≠ none

theorem outcome_none_iff (fate : Fate α) (thread : Nat → String) (job : Job α ε) :
    fate.outcome? thread job = none ↔ fate.place = .queued ∨ fate.place = .running := by
  cases fate <;> simp [Fate.outcome?, Fate.place]

theorem Ledger.settled_once {workers : Nat} {thread : Nat → String} {h last : Host α ε}
    {notes more : List (Note ε)} {jobs : List (Job α ε)} {fate : JobId → Fate α}
    (ledger : Ledger workers thread h notes jobs fate) (job : Job α ε) (member : job ∈ jobs)
    (id : PendingId) (owed : job.owed? = some id) (outcome : Settlement)
    (settled : h.results.outcome? id = some outcome) (later : List (Host.Move α ε))
    (ran : h.run? later = some (last, more)) : settlementsOf more id = [] := by
  obtain ⟨fate', after, _⟩ := Host.run_ledger workers thread h last notes more jobs fate later
    ledger ran
  have before := ledger.debts.once job member id owed
  rw [← ledger.debts.paid job member id owed, settled] at before
  have whole := after.debts.once job (List.mem_append_left _ member) id owed
  rw [← after.debts.paid job (List.mem_append_left _ member) id owed,
    Host.run_keeps_outcomes h last later more ran id outcome settled, settlements_append,
    before] at whole
  simpa using whole

theorem Ledger.accounted {workers : Nat} {thread : Nat → String} {start h : Host α ε}
    {moves : List (Host.Move α ε)} {notes : List (Note ε)} {jobs : List (Job α ε)}
    {fate : JobId → Fate α} (ledger : Ledger workers thread h notes jobs fate)
    (answered : ∀ job worker answer, fate job = .finished worker answer →
      Answered Host.step? .finish start moves job worker answer)
    (calm : ∀ note ∈ notes, note.isMishap = false) (job : Job α ε) (member : job ∈ jobs) :
    Accounted start h moves notes job (fate job.id) := by
  have told := ledger.stories.told job member
  have owes : ∀ id, job.completion = .settle id → job.owed? = some id := fun id completion => by
    simp [Job.owed?, completion]
  have paid : ∀ id, job.completion = .settle id →
      h.results.outcome? id = (fate job.id).outcome? thread job := fun id completion =>
    ledger.debts.paid job member id (owes id completion)
  refine ⟨ledger.located job member, ?_, ?_, ledger.never_spilled calm job member,
    ledger.grounds job.id, answered job.id, ?_, ?_, ?_, ?_⟩
  · rw [marks_story, told, marks_of_fate]
  · rw [told, ledger.named]
  · intro id completion
    rw [ledger.named]
    exact ⟨paid id completion, ledger.debts.once job member id (owes id completion)⟩
  · intro id completion
    rw [paid id completion, outcome_none_iff]
  · intro id outcome completion settled later last more ran
    exact ⟨Host.run_keeps_outcomes h last later more ran id outcome settled,
      ledger.settled_once job member id (owes id completion) outcome settled later ran⟩
  · intro closed id completion
    rw [paid id completion, ne_eq, outcome_none_iff]
    obtain ⟨unqueued, idle⟩ := ledger.closed_place closed job member
    exact not_or.2 ⟨unqueued, idle⟩

theorem every_job_is_accounted_for (threadName : String) (capacity workers : Nat)
    (moves : List (Host.Move α ε)) (h : Host α ε) (notes : List (Note ε))
    (ran : (Host.start threadName capacity workers).run? moves = some (h, notes)) :
    Numbered (Host.submissions 0 0 moves) ∧
      (Host.submissions 0 0 moves).length = h.pool.submitted ∧
      (∀ job, job ∈ h.pool.queue ∨ .busy job ∈ h.pool.slots → job ∈ Host.submissions 0 0 moves) ∧
      ∀ job ∈ Host.submissions 0 0 moves, ∃ fate,
        Accounted (.start threadName capacity workers) h moves notes job fate := by
  obtain ⟨fate, ledger, answered, calm⟩ := Host.run_ledger workers _ _ h [] notes [] _ moves
    (Ledger.start threadName capacity workers) ran
  simp only [List.nil_append] at ledger
  refine ⟨ledger.numbered, ledger.places.counted.symm, fun job met => ?_, fun job member => ?_⟩
  · rcases met with queued | busy
    · exact ((ledger.places.waits job).1 queued).1
    · obtain ⟨worker, held⟩ := List.mem_iff_getElem?.1 busy
      exact ((ledger.places.busy worker job).1 held).1
  · refine ⟨fate job.id, ledger.accounted (fun job worker answer finished => ?_) calm job member⟩
    rcases answered job worker answer finished with before | given
    · cases before
    · exact given

def uttering (ending : Ending) : Work Unit Unit := ⟨[()], fun _ _ => ([], ending)⟩

def calmHook : Hook Unit := ⟨fun _ => [()], fun _ _ => false⟩

def fatalHook : Hook Unit := ⟨fun _ => [()], fun _ _ => true⟩

-- One worker and a queue of one place: the third job finds it full, the fourth finds it closed.
def crowdedRun : List (Host.Move Unit Unit) :=
  [.promise (uttering (.returned (.ok .null))), .pickUp 0,
    .promise (uttering (.brokeOff (.said "out of range"))),
    .promise (uttering (.returned (.ok .null))), .finish 0 (), .pickUp 0, .finish 0 (), .close,
    .promise (uttering (.returned (.ok .null))), .join]

theorem crowded_run_is_accounted_for : ∃ h notes,
    (Host.start "io" 1 1).run? crowdedRun = some (h, notes) ∧
      h.results.map Cell.outcome = [some (.ok .null), some (.error (.brokenOff "out of range")),
        some (.error .queueFull), some (.error .poolClosed)] ∧
      ∀ job ∈ Host.submissions 0 0 crowdedRun, ∃ fate,
        Accounted (.start "io" 1 1) h crowdedRun notes job fate :=
  ⟨_, _, rfl, rfl, (every_job_is_accounted_for "io" 1 1 crowdedRun _ _ rfl).2.2.2⟩

end HostBridge
