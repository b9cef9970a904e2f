import HostBridge.Proofs.Pool.Conservation

set_option autoImplicit false

namespace HostBridge

variable {α ε : Type}

def actsOf (notes : List (Note ε)) (job : JobId) : List ε :=
  (storyOf notes job).filterMap Note.act?

def Job.reaction (job : Job α ε) (outcome : Settlement) : List ε :=
  match job.completion, outcome with
  | .detached _ (some hook), .error f => hook.acts f
  | _, _ => []

theorem acts_acted (acts : List ε) (site : Site) (owner : Option JobId) :
    (acts.map (Note.acted site owner)).filterMap Note.act? = acts := by
  rw [List.filterMap_map]
  exact List.filterMap_some

theorem acts_report (job : Job α ε) (site : Site) (outcome : Settlement) :
    (job.report site outcome).filterMap Note.act? = job.reaction outcome := by
  unfold Job.report Job.reaction
  cases job.completion with
  | settle id => rfl
  | detached origin hook =>
    cases hook with
    | none => rfl
    | some hook =>
      cases outcome with
      | ok v => rfl
      | error f => rw [List.filterMap_cons_none rfl, acts_acted]

theorem acts_refused (thread : Nat → String) (job : Job α ε) (f : Failure) :
    ((Fate.refused f).story thread job).filterMap Note.act? = job.reaction (.error f) := by
  rw [Fate.story, List.filterMap_cons_none rfl, acts_report]

theorem acts_finished (thread : Nat → String) (job : Job α ε) (worker : Nat) (answer : α) :
    ((Fate.finished worker answer).story thread job).filterMap Note.act? =
      job.work.opening ++ (job.work.closing (thread worker) answer).1 ++
        job.reaction (job.ending thread worker answer).outcome := by
  rw [Fate.story, List.filterMap_cons_none rfl, List.filterMap_append, Job.beginning,
    List.filterMap_cons_none rfl, acts_acted, Job.conclusion, List.filterMap_append, acts_acted,
    List.filterMap_cons_none rfl, acts_report, List.append_assoc]

theorem story_head (thread : Nat → String) (job : Job α ε) (fate : Fate α) :
    (fate.story thread job).head? =
      some (match fate with
        | .refused f => .rejected job.id f
        | _ => .accepted job.id) := by
  cases fate <;> rfl

namespace Ledger

variable {workers : Nat} {thread : Nat → String} {h last : Host α ε} {notes new : List (Note ε)}
  {jobs more : List (Job α ε)} {fate fate' : JobId → Fate α}

theorem refusal_stays (before : Ledger workers thread h notes jobs fate)
    (after : Ledger workers thread last (notes ++ new) more fate') (job : Job α ε)
    (member : job ∈ jobs) (also : job ∈ more) (f : Failure) :
    fate job.id = .refused f ↔ fate' job.id = .refused f := by
  have heads : ((fate' job.id).story thread job).head? =
      ((fate job.id).story thread job).head? := by
    rw [← after.stories.told job also, story_append, before.stories.told job member,
      List.head?_append, story_head]
    rfl
  rw [story_head, story_head] at heads
  have same := Option.some.inj heads
  cases old : fate job.id <;> cases now : fate' job.id <;> simp [old, now] at same ⊢
  rw [same]

theorem never_dropped (ledger : Ledger workers thread h notes jobs fate)
    (peaceful : ¬ Perilous notes jobs) (job : Job α ε) (member : job ∈ jobs) :
    fate job.id ≠ .dropped := by
  intro dropped
  have told := ledger.stories.told job member
  rw [dropped] at told
  have lost : .discarded job.id ∈ notes :=
    mem_of_story notes job thread .dropped told _ (by simp [Fate.story])
  obtain ⟨some, all⟩ := ledger.deaths.desolate job.id lost
  exact peaceful (ledger.deaths.killed 0 (all 0 some))

theorem concluded (ledger : Ledger workers thread h notes jobs fate)
    (closed : h.pool.phase = .closed) (peaceful : ¬ Perilous notes jobs) (job : Job α ε)
    (member : job ∈ jobs) :
    (∃ f, fate job.id = .refused f) ∨ ∃ worker answer, fate job.id = .finished worker answer := by
  obtain ⟨unqueued, idle⟩ := ledger.closed_place closed job member
  cases held : fate job.id with
  | waiting => exact absurd (by rw [held]; rfl) unqueued
  | running worker => exact absurd (by rw [held]; rfl) idle
  | finished worker answer => exact Or.inr ⟨worker, answer, rfl⟩
  | spilled worker answer =>
    have calm : ∀ note ∈ notes, note.isMishap = false := fun note seen =>
      Bool.eq_false_iff.2 fun mishap => peaceful (Or.inr ⟨note, seen, mishap⟩)
    exact absurd held (ledger.never_spilled calm job member worker answer)
  | refused f => exact Or.inl ⟨f, rfl⟩
  | dropped => exact absurd held (ledger.never_dropped peaceful job member)

end Ledger

end HostBridge
