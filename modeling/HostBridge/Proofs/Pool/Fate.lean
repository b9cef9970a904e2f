import HostBridge.Pool.Step

set_option autoImplicit false

namespace HostBridge

variable {α ε : Type}

-- The job that a note is about. Settling names the result, not the job that owed it.
def Note.job? : Note ε → Option JobId
  | .acted _ job _ => job
  | .accepted job => some job
  | .rejected job _ => some job
  | .started job _ => some job
  | .ended job _ _ => some job
  | .discarded job => some job
  | .hooked job _ _ => some job
  | .spilled job _ => some job
  | .settled _ _ => none
  | .startled _ => none
  | .died _ => none
  | .warned _ => none
  | .kept _ _ => none

def Note.settlementOf? (id : PendingId) : Note ε → Option Settlement
  | .settled other outcome => if other = id then some outcome else none
  | _ => none

def storyOf (notes : List (Note ε)) (job : JobId) : List (Note ε) :=
  notes.filter fun note => note.job? == some job

def settlementsOf (notes : List (Note ε)) (id : PendingId) : List Settlement :=
  notes.filterMap (Note.settlementOf? id)

theorem story_append (notes more : List (Note ε)) (job : JobId) :
    storyOf (notes ++ more) job = storyOf notes job ++ storyOf more job := by
  simp [storyOf]

theorem settlements_append (notes more : List (Note ε)) (id : PendingId) :
    settlementsOf (notes ++ more) id = settlementsOf notes id ++ settlementsOf more id := by
  simp [settlementsOf]

theorem story_cons (note : Note ε) (rest : List (Note ε)) (job : JobId) :
    storyOf (note :: rest) job =
      if note.job? = some job then note :: storyOf rest job else storyOf rest job := by
  simp [storyOf, List.filter_cons]

theorem settlements_cons (note : Note ε) (rest : List (Note ε)) (id : PendingId) :
    settlementsOf (note :: rest) id = (note.settlementOf? id).toList ++ settlementsOf rest id := by
  cases settled : note.settlementOf? id <;> simp [settlementsOf, settled]

theorem story_acts (acts : List ε) (site : Site) (owner : Option JobId) (job : JobId) :
    storyOf (acts.map (Note.acted site owner)) job =
      if owner = some job then acts.map (Note.acted site owner) else [] := by
  by_cases same : owner = some job <;> simp [storyOf, Note.job?, same]

theorem settlements_acts (acts : List ε) (site : Site) (owner : Option JobId) (id : PendingId) :
    settlementsOf (acts.map (Note.acted site owner)) id = [] := by
  simp [settlementsOf, Note.settlementOf?]

theorem mem_story (notes : List (Note ε)) (note : Note ε) (job : JobId)
    (about : note.job? = some job) : note ∈ storyOf notes job ↔ note ∈ notes := by
  simp [storyOf, about]

def Note.isLoss : Note ε → Bool
  | .died _ => true
  | .discarded _ => true
  | _ => false

def Note.isAside : Note ε → Bool
  | .acted _ none _ => true
  | .startled _ => true
  | .warned _ => true
  | .kept _ _ => true
  | _ => false

def Note.isMishap : Note ε → Bool
  | .spilled _ _ => true
  | .startled _ => true
  | _ => false

theorem aside_tells_nothing (note : Note ε) (aside : note.isAside = true) :
    note.job? = none ∧ (∀ id, note.settlementOf? id = none) ∧ note.isLoss = false := by
  cases note with
  | startled worker => exact ⟨rfl, fun _ => rfl, rfl⟩
  | warned warning => exact ⟨rfl, fun _ => rfl, rfl⟩
  | kept keeper id => exact ⟨rfl, fun _ => rfl, rfl⟩
  | acted site owner act =>
    cases owner with
    | none => exact ⟨rfl, fun _ => rfl, rfl⟩
    | some job => cases aside
  | _ => cases aside

def Asides (notes : List (Note ε)) : Prop := ∀ note ∈ notes, note.isAside = true

namespace Asides

variable {notes : List (Note ε)}

theorem story (asides : Asides notes) (job : JobId) : storyOf notes job = [] := by
  refine List.filter_eq_nil_iff.2 fun note shown => ?_
  simp [(aside_tells_nothing note (asides note shown)).1]

theorem settlements (asides : Asides notes) (id : PendingId) : settlementsOf notes id = [] :=
  List.filterMap_eq_nil_iff.2 fun note shown =>
    (aside_tells_nothing note (asides note shown)).2.1 id

theorem unlost (asides : Asides notes) : ∀ note ∈ notes, note.isLoss = false :=
  fun note shown => (aside_tells_nothing note (asides note shown)).2.2

end Asides

namespace Job

def owed? (job : Job α ε) : Option PendingId :=
  match job.completion with
  | .settle id => some id
  | .detached _ _ => none

def deliver (job : Job α ε) (results : Pendings) (outcome : Settlement) : Pendings :=
  match job.completion with
  | .settle id => (results.settle id outcome).1
  | .detached _ _ => results

def report (job : Job α ε) (site : Site) (outcome : Settlement) : List (Note ε) :=
  match job.completion, outcome with
  | .detached _ (some hook), .error f =>
    .hooked job.id site f :: (hook.acts f).map (.acted site (some job.id))
  | _, _ => []

def Lethal (job : Job α ε) : Prop :=
  ∃ origin hook worker f, job.completion = .detached origin (some hook) ∧
    hook.breaksOff (.worker worker) f = true

def beginning (job : Job α ε) (worker : Nat) : List (Note ε) :=
  .started job.id worker :: job.work.opening.map (.acted (.worker worker) (some job.id))

def ending (job : Job α ε) (thread : Nat → String) (worker : Nat) (answer : α) : Ending :=
  (job.work.closing (thread worker) answer).2

def conclusion (job : Job α ε) (thread : Nat → String) (worker : Nat) (answer : α) :
    List (Note ε) :=
  (job.work.closing (thread worker) answer).1.map (.acted (.worker worker) (some job.id)) ++
    .ended job.id worker (job.ending thread worker answer) ::
      job.report (.worker worker) (job.ending thread worker answer).outcome

def spillage (job : Job α ε) (thread : Nat → String) (worker : Nat) (answer : α) :
    List (Note ε) :=
  (job.work.closing (thread worker) answer).1.map (.acted (.worker worker) (some job.id)) ++
    [.ended job.id worker (job.ending thread worker answer), .spilled job.id worker]

end Job

inductive Fate (α : Type) where
  | waiting
  | running (worker : Nat)
  | finished (worker : Nat) (answer : α)
  -- Done, but its worker was killed before the outcome went anywhere.
  | spilled (worker : Nat) (answer : α)
  | refused (failure : Failure)
  | dropped

namespace Fate

def isWaiting : Fate α → Bool
  | waiting => true
  | _ => false

-- Each fate has exactly one story, so that what a fate rules out cannot have been observed.
def story (thread : Nat → String) (job : Job α ε) : Fate α → List (Note ε)
  | waiting => [.accepted job.id]
  | running worker => .accepted job.id :: job.beginning worker
  | finished worker answer =>
    .accepted job.id :: (job.beginning worker ++ job.conclusion thread worker answer)
  | spilled worker answer =>
    .accepted job.id :: (job.beginning worker ++ job.spillage thread worker answer)
  | refused f => .rejected job.id f :: job.report .caller (.error f)
  | dropped => [.accepted job.id, .discarded job.id]

def outcome? (thread : Nat → String) (job : Job α ε) : Fate α → Option Settlement
  | waiting => none
  | running _ => none
  | finished worker answer => some (job.ending thread worker answer).outcome
  | spilled _ _ => some (.error .abandoned)
  | refused f => some (.error f)
  | dropped => some (.error .abandoned)

end Fate

theorem mem_of_story (notes : List (Note ε)) (job : Job α ε) (thread : Nat → String)
    (fate : Fate α) (told : storyOf notes job.id = fate.story thread job) (note : Note ε)
    (shown : note ∈ fate.story thread job) : note ∈ notes := by
  rw [← told] at shown
  exact (List.mem_filter.1 shown).1

theorem deliver_length (job : Job α ε) (results : Pendings) (outcome : Settlement) :
    (job.deliver results outcome).length = results.length := by
  unfold Job.deliver
  split
  · unfold Pendings.settle
    split <;> simp
  · rfl

theorem deliver_owed (job : Job α ε) (results : Pendings) (outcome : Settlement) (id : PendingId)
    (owed : job.owed? = some id) (made : id < results.length) :
    (job.deliver results outcome).outcome? id = some ((results.outcome? id).getD outcome) := by
  unfold Job.owed? at owed
  unfold Job.deliver
  split at owed
  · cases owed
    exact Pendings.outcome_settle_self results id outcome made
  · cases owed

theorem deliver_other (job : Job α ε) (results : Pendings) (outcome : Settlement) (id : PendingId)
    (differ : job.owed? ≠ some id) :
    (job.deliver results outcome).outcome? id = results.outcome? id := by
  unfold Job.owed? at differ
  unfold Job.deliver
  split
  · next own completion =>
    have apart : id ≠ own := fun same => differ (by simp [completion, same])
    exact Pendings.outcome_settle_other results own id outcome apart
  · rfl

namespace Host

theorem complete_pool (h : Host α ε) (site : Site) (job : Job α ε) (outcome : Settlement) :
    (h.complete site job outcome).1.pool = h.pool := by
  unfold complete
  split <;> rfl

theorem complete_results (h : Host α ε) (site : Site) (job : Job α ε) (outcome : Settlement) :
    (h.complete site job outcome).1.results = job.deliver h.results outcome := by
  unfold complete Job.deliver
  split <;> simp_all [settle]

theorem story_complete_self (h : Host α ε) (site : Site) (job : Job α ε) (outcome : Settlement) :
    storyOf (h.complete site job outcome).2.1 job.id = job.report site outcome := by
  unfold complete
  split <;> rename_i owed <;> simp [storyOf, Note.job?, Job.report, owed]

theorem story_complete_other (h : Host α ε) (site : Site) (job : Job α ε) (outcome : Settlement)
    (other : JobId) (differ : job.id ≠ other) :
    storyOf (h.complete site job outcome).2.1 other = [] := by
  unfold complete
  split <;> simp [storyOf, Note.job?, differ]

theorem settlements_complete (h : Host α ε) (site : Site) (job : Job α ε) (outcome : Settlement)
    (id : PendingId) : settlementsOf (h.complete site job outcome).2.1 id =
      if job.owed? = some id then [outcome] else [] := by
  unfold complete
  split
  · next own owed =>
    by_cases same : own = id <;> simp [settlementsOf, Note.settlementOf?, Job.owed?, owed, same]
  all_goals
    rename_i owed
    simp [settlementsOf, Note.settlementOf?, Job.owed?, owed]

theorem complete_unlost (h : Host α ε) (site : Site) (job : Job α ε) (outcome : Settlement) :
    ∀ note ∈ (h.complete site job outcome).2.1, note.isLoss = false := by
  intro note member
  unfold complete at member
  split at member <;> simp only [List.mem_cons, List.mem_map, List.not_mem_nil, or_false] at member
  · rw [member]; rfl
  · rw [member]; rfl
  · rcases member with rfl | rfl | ⟨act, _, rfl⟩ <;> rfl

theorem breakage_asides (ending : Ending) : Asides (breakageNotes (ε := ε) ending) := by
  intro note shown
  cases ending with
  | returned outcome => cases shown
  | brokeOff breakage =>
    obtain rfl := List.mem_singleton.1 shown
    rfl

theorem complete_breaks_off (h : Host α ε) (worker : Nat) (job : Job α ε) (outcome : Settlement)
    (brokeOff : (h.complete (.worker worker) job outcome).2.2 = true) : job.Lethal := by
  unfold complete at brokeOff
  split at brokeOff
  · cases brokeOff
  · cases brokeOff
  · cases brokeOff
  · next origin hook f owed => exact ⟨origin, hook, worker, f, owed, brokeOff⟩

end Host

end HostBridge
