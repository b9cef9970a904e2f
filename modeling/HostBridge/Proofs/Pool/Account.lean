import HostBridge.Proofs.Pool.Fate

set_option autoImplicit false

namespace HostBridge

variable {α ε : Type}

def assign (fate : JobId → Fate α) (job : JobId) (f : Fate α) : JobId → Fate α :=
  fun other => if other = job then f else fate other

theorem assign_self (fate : JobId → Fate α) (job : JobId) (f : Fate α) :
    assign fate job f job = f := by
  simp [assign]

theorem assign_other (fate : JobId → Fate α) (job other : JobId) (f : Fate α)
    (differ : other ≠ job) : assign fate job f other = fate other := by
  simp [assign, differ]

theorem assign_twice (fate : JobId → Fate α) (job : JobId) (f g : Fate α) :
    assign (assign fate job f) job g = assign fate job g := by
  funext other
  by_cases same : other = job <;> simp [assign, same]

theorem assign_finished (fate : JobId → Fate α) (job other : JobId) (f : Fate α) (worker : Nat)
    (answer : α) (finished : assign fate job f other = .finished worker answer) :
    other = job ∧ f = .finished worker answer ∨ fate other = .finished worker answer := by
  by_cases same : other = job
  · rw [same, assign_self] at finished
    exact Or.inl ⟨same, finished⟩
  · rw [assign_other fate job other f same] at finished
    exact Or.inr finished

structure Drops (gone : List (Job α ε)) (fate fate' : JobId → Fate α) : Prop where
  dropped : ∀ job ∈ gone, fate' job.id = .dropped
  kept : ∀ other, (∀ job ∈ gone, job.id ≠ other) → fate' other = fate other

namespace Drops

variable {gone : List (Job α ε)} {fate fate' : JobId → Fate α}

theorem nobody (fate : JobId → Fate α) : Drops ([] : List (Job α ε)) fate fate :=
  ⟨fun _ member => (List.not_mem_nil member).elim, fun _ _ => rfl⟩

theorem either (drops : Drops gone fate fate') (job : JobId) :
    fate' job = fate job ∨ fate' job = .dropped := by
  by_cases among : ∃ other ∈ gone, other.id = job
  · obtain ⟨other, member, rfl⟩ := among
    exact Or.inr (drops.dropped other member)
  · exact Or.inl (drops.kept job fun other member same => among ⟨other, member, same⟩)

theorem cons (job : Job α ε) (apart : ∀ other ∈ gone, job.id ≠ other.id)
    (drops : Drops gone (assign fate job.id .dropped) fate') : Drops (job :: gone) fate fate' := by
  refine ⟨fun other among => ?_, fun other outside => ?_⟩
  · rcases List.mem_cons.1 among with rfl | after
    · rw [drops.kept other.id fun later after => Ne.symm (apart later after), assign_self]
    · exact drops.dropped other after
  · rw [drops.kept other fun later after => outside later (List.mem_cons_of_mem job after),
      assign_other fate job.id other _ (Ne.symm (outside job List.mem_cons_self))]

end Drops

def Numbered (jobs : List (Job α ε)) : Prop :=
  ∀ (i : Nat) (job : Job α ε), jobs[i]? = some job → job.id = i

namespace Numbered

variable {jobs : List (Job α ε)}

theorem get (numbered : Numbered jobs) (job : Job α ε) (member : job ∈ jobs) :
    jobs[job.id]? = some job := by
  obtain ⟨i, found⟩ := List.mem_iff_getElem?.1 member
  rw [numbered i job found]
  exact found

theorem lt (numbered : Numbered jobs) (job : Job α ε) (member : job ∈ jobs) :
    job.id < jobs.length :=
  (List.getElem?_eq_some_iff.1 (numbered.get job member)).1

theorem unique (numbered : Numbered jobs) (job other : Job α ε) (member : job ∈ jobs)
    (also : other ∈ jobs) (same : other.id = job.id) : other = job := by
  have found := numbered.get other also
  rw [same, numbered.get job member] at found
  exact (Option.some.inj found).symm

theorem push (numbered : Numbered jobs) (job : Job α ε) (next : job.id = jobs.length) :
    Numbered (jobs ++ [job]) := by
  intro i other found
  by_cases before : i < jobs.length
  · rw [List.getElem?_append_left before] at found
    exact numbered i other found
  · have bound := (List.getElem?_eq_some_iff.1 found).1
    simp only [List.length_append, List.length_singleton] at bound
    obtain rfl : i = jobs.length := by omega
    rw [List.getElem?_concat_length] at found
    exact Option.some.inj found ▸ next

theorem pairwise (numbered : Numbered jobs) : jobs.Pairwise fun job other => job.id ≠ other.id := by
  refine List.pairwise_iff_getElem.2 fun i j hi hj less => ?_
  have first := numbered i jobs[i] (List.getElem?_eq_getElem hi)
  have second := numbered j jobs[j] (List.getElem?_eq_getElem hj)
  exact fun same => Nat.ne_of_lt less (first.symm.trans (same.trans second))

end Numbered

structure Stories (thread : Nat → String) (notes : List (Note ε)) (jobs : List (Job α ε))
    (fate : JobId → Fate α) : Prop where
  told : ∀ job ∈ jobs, storyOf notes job.id = (fate job.id).story thread job
  untold : ∀ job, jobs.length ≤ job → storyOf notes job = []

namespace Stories

variable {thread : Nat → String} {notes : List (Note ε)} {jobs : List (Job α ε)}
  {fate : JobId → Fate α}

theorem quiet (stories : Stories thread notes jobs fate) (new : List (Note ε))
    (silent : ∀ job, storyOf new job = []) : Stories thread (notes ++ new) jobs fate := by
  refine ⟨fun job member => ?_, fun job beyond => ?_⟩
  · rw [story_append, silent, List.append_nil, stories.told job member]
  · rw [story_append, silent, List.append_nil, stories.untold job beyond]

theorem assign (stories : Stories thread notes jobs fate) (numbered : Numbered jobs)
    (job : Job α ε) (member : job ∈ jobs) (f : Fate α) (new : List (Note ε))
    (own : (fate job.id).story thread job ++ storyOf new job.id = f.story thread job)
    (others : ∀ other, job.id ≠ other → storyOf new other = []) :
    Stories thread (notes ++ new) jobs (assign fate job.id f) := by
  refine ⟨fun other also => ?_, fun other beyond => ?_⟩
  · rw [story_append, stories.told other also]
    by_cases same : other.id = job.id
    · rw [numbered.unique job other member also same, assign_self]
      exact own
    · rw [assign_other fate job.id other.id f same, others other.id (Ne.symm same),
        List.append_nil]
  · have apart : job.id ≠ other := Nat.ne_of_lt (Nat.lt_of_lt_of_le (numbered.lt job member) beyond)
    rw [story_append, stories.untold other beyond, others other apart, List.append_nil]

theorem push (stories : Stories thread notes jobs fate) (numbered : Numbered jobs)
    (job : Job α ε) (next : job.id = jobs.length) (f : Fate α) (new : List (Note ε))
    (own : storyOf new job.id = f.story thread job)
    (others : ∀ other, job.id ≠ other → storyOf new other = []) :
    Stories thread (notes ++ new) (jobs ++ [job]) (HostBridge.assign fate job.id f) := by
  refine ⟨fun other also => ?_, fun other beyond => ?_⟩
  · rcases List.mem_append.1 also with old | added
    · have differ : other.id ≠ job.id := next ▸ Nat.ne_of_lt (numbered.lt other old)
      rw [story_append, stories.told other old, others other.id (Ne.symm differ),
        assign_other fate job.id other.id f differ, List.append_nil]
    · obtain rfl : other = job := by simpa using added
      rw [story_append, stories.untold other.id (Nat.le_of_eq next.symm), own, assign_self,
        List.nil_append]
  · simp only [List.length_append, List.length_singleton] at beyond
    have apart : job.id ≠ other := next ▸ Nat.ne_of_lt beyond
    rw [story_append, stories.untold other (Nat.le_of_succ_le beyond), others other apart,
      List.append_nil]

end Stories

structure Debts (thread : Nat → String) (results : Pendings) (notes : List (Note ε))
    (jobs : List (Job α ε)) (fate : JobId → Fate α) : Prop where
  made : ∀ job ∈ jobs, ∀ id, job.owed? = some id → id < results.length
  paid : ∀ job ∈ jobs, ∀ id, job.owed? = some id →
    results.outcome? id = (fate job.id).outcome? thread job
  once : ∀ job ∈ jobs, ∀ id, job.owed? = some id →
    settlementsOf notes id = ((fate job.id).outcome? thread job).toList
  apart : ∀ job ∈ jobs, ∀ other ∈ jobs, ∀ id, job.owed? = some id → other.owed? = some id →
    job.id = other.id
  unowed : ∀ id, (∀ job ∈ jobs, job.owed? ≠ some id) → settlementsOf notes id = []

namespace Debts

variable {thread : Nat → String} {results : Pendings} {notes : List (Note ε)}
  {jobs : List (Job α ε)} {fate : JobId → Fate α}

theorem quiet (debts : Debts thread results notes jobs fate) (new : List (Note ε))
    (silent : ∀ id, settlementsOf new id = []) :
    Debts thread results (notes ++ new) jobs fate := by
  refine ⟨debts.made, debts.paid, fun job member id owed => ?_, debts.apart, fun id free => ?_⟩
  · rw [settlements_append, silent, List.append_nil, debts.once job member id owed]
  · rw [settlements_append, silent, List.append_nil, debts.unowed id free]

theorem extend (debts : Debts thread results notes jobs fate) (cell : Cell) :
    Debts thread (results ++ [cell]) notes jobs fate := by
  refine ⟨fun job member id owed => ?_, fun job member id owed => ?_, debts.once, debts.apart,
    debts.unowed⟩
  · have bound := debts.made job member id owed
    simp only [List.length_append, List.length_singleton]
    exact Nat.lt_succ_of_lt bound
  · have bound := debts.made job member id owed
    rw [← debts.paid job member id owed]
    simp only [Pendings.outcome?, List.getElem?_append_left bound]

theorem keep (debts : Debts thread results notes jobs fate) (other : JobId → Fate α)
    (same : ∀ job ∈ jobs, (other job.id).outcome? thread job = (fate job.id).outcome? thread job) :
    Debts thread results notes jobs other := by
  refine ⟨debts.made, fun job member id owed => ?_, fun job member id owed => ?_, debts.apart,
    debts.unowed⟩
  · rw [same job member, debts.paid job member id owed]
  · rw [same job member, debts.once job member id owed]

theorem settle (debts : Debts thread results notes jobs fate) (numbered : Numbered jobs)
    (job : Job α ε) (member : job ∈ jobs) (f : Fate α) (outcome : Settlement)
    (unpaid : (fate job.id).outcome? thread job = none)
    (ended : f.outcome? thread job = some outcome) (new : List (Note ε))
    (settled : ∀ id, settlementsOf new id = if job.owed? = some id then [outcome] else []) :
    Debts thread (job.deliver results outcome) (notes ++ new) jobs (assign fate job.id f) := by
  refine ⟨fun other also id owed => ?_, fun other also id owed => ?_, fun other also id owed => ?_,
    debts.apart, fun id free => ?_⟩
  · rw [deliver_length]
    exact debts.made other also id owed
  · by_cases same : other.id = job.id
    · obtain rfl := numbered.unique job other member also same
      rw [assign_self, ended, deliver_owed other results outcome id owed
        (debts.made other also id owed), debts.paid other also id owed, unpaid]
      rfl
    · have differ : job.owed? ≠ some id := fun owes =>
        same (debts.apart other also job member id owed owes)
      rw [assign_other fate job.id other.id f same, deliver_other job results outcome id differ,
        debts.paid other also id owed]
  · rw [settlements_append, debts.once other also id owed, settled]
    by_cases same : other.id = job.id
    · obtain rfl := numbered.unique job other member also same
      simp [assign_self, ended, unpaid, owed]
    · have differ : job.owed? ≠ some id := fun owes =>
        same (debts.apart other also job member id owed owes)
      simp [assign_other fate job.id other.id f same, differ]
  · rw [settlements_append, debts.unowed id free, settled, if_neg (free job member),
      List.append_nil]

theorem push (debts : Debts thread results notes jobs fate) (numbered : Numbered jobs)
    (job : Job α ε) (next : job.id = jobs.length)
    (fresh : ∀ id, job.owed? = some id → id < results.length ∧ results.outcome? id = none ∧
      ∀ other ∈ jobs, other.owed? ≠ some id) :
    Debts thread results notes (jobs ++ [job]) (assign fate job.id .waiting) := by
  have unchanged : ∀ other ∈ jobs, assign fate job.id .waiting other.id = fate other.id :=
    fun other old => assign_other fate job.id other.id .waiting
      (next ▸ Nat.ne_of_lt (numbered.lt other old))
  refine ⟨?_, ?_, ?_, ?_, fun id free => debts.unowed id fun other old => ?_⟩
  · intro other also id owed
    rcases List.mem_append.1 also with old | added
    · exact debts.made other old id owed
    · obtain rfl : other = job := by simpa using added
      exact (fresh id owed).1
  · intro other also id owed
    rcases List.mem_append.1 also with old | added
    · rw [unchanged other old, debts.paid other old id owed]
    · obtain rfl : other = job := by simpa using added
      rw [assign_self, (fresh id owed).2.1]
      rfl
  · intro other also id owed
    rcases List.mem_append.1 also with old | added
    · rw [unchanged other old, debts.once other old id owed]
    · obtain rfl : other = job := by simpa using added
      rw [assign_self, debts.unowed id (fresh id owed).2.2]
      rfl
  · intro first here second there id owed owes
    rcases List.mem_append.1 here with old | added <;>
      rcases List.mem_append.1 there with before | new
    · exact debts.apart first old second before id owed owes
    · obtain rfl : second = job := by simpa using new
      exact absurd owed ((fresh id owes).2.2 first old)
    · obtain rfl : first = job := by simpa using added
      exact absurd owes ((fresh id owed).2.2 second before)
    · obtain rfl : first = job := by simpa using added
      obtain rfl : second = first := by simpa using new
      rfl
  · exact free other (List.mem_append_left _ old)

end Debts

end HostBridge
