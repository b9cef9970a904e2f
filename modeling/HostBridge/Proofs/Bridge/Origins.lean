import HostBridge.Proofs.Bridge.Shaping

set_option autoImplicit false

namespace HostBridge

variable {α ε : Type}

def Note.Owned (note : Note ε) : Prop := ∀ site act, note ≠ .acted site none act

theorem acts_owned (acts : List ε) (site : Site) (job : JobId) :
    ∀ note ∈ acts.map (Note.acted site (some job)), note.Owned := by
  intro note shown other act same
  obtain ⟨_, _, rfl⟩ := List.mem_map.1 shown
  cases same

namespace Host

theorem complete_owned (h : Host α ε) (site : Site) (job : Job α ε) (outcome : Settlement) :
    ∀ note ∈ (h.complete site job outcome).2.1, note.Owned := by
  intro note shown other act same
  unfold complete at shown
  subst same
  split at shown <;> simp at shown

theorem concluding_owned (h : Host α ε) (worker : Nat) (answer : α) (job : Job α ε) :
    ∀ note ∈ h.concluding worker answer job, note.Owned := by
  intro note shown
  rcases List.mem_append.1 shown with early | late
  · rcases List.mem_append.1 early with act | last
    · exact acts_owned _ _ _ note act
    · intro other act same
      subst same
      rcases List.mem_cons.1 last with ended | warned
      · cases ended
      · cases ending : job.ending h.pool.threadOf worker answer <;>
          simp [breakageNotes, ending] at warned
  · exact complete_owned _ _ _ _ note late

theorem discard_owned (h : Host α ε) (gone : List (Job α ε)) :
    ∀ note ∈ (h.discard gone).2, note.Owned := by
  intro note shown other act same
  subst same
  induction gone generalizing h with
  | nil => simp [discard] at shown
  | cons job rest ih =>
    rcases List.mem_cons.1 shown with same | later
    · cases same
    · rcases List.mem_append.1 later with lost | after
      · split at lost <;> simp at lost
      · exact ih _ after

theorem sweep_owned (h : Host α ε) : ∀ note ∈ h.sweep.2, note.Owned := by
  unfold sweep
  split
  · exact discard_owned _ _
  · intro note shown
    cases shown

theorem sweep_submits_nothing (h : Host α ε) : h.sweep.1.pool.submitted = h.pool.submitted := by
  unfold sweep
  split
  · rw [discard_pool]
  · rfl

end Host

namespace Bridge

variable {b : Bridge α ε}

structure Inward (h next : Host α ε) (new : List (Note ε)) : Prop where
  submitted : next.pool.submitted = h.pool.submitted
  owned : ∀ note ∈ new, note.Owned

theorem pick_up_inward (h next : Host α ε) (worker : Nat) (new : List (Note ε))
    (moved : h.pickUp? worker = some (next, new)) : Inward h next new := by
  obtain ⟨job, rest, _, _, rfl, rfl⟩ := Host.pick_up_some h next worker new moved
  refine ⟨rfl, fun note shown => ?_⟩
  rcases List.mem_cons.1 shown with rfl | act
  · intro site act same
    cases same
  · exact acts_owned _ _ _ note act

theorem finish_inward (h next : Host α ε) (worker : Nat) (answer : α) (new : List (Note ε))
    (moved : h.finish? worker answer = some (next, new)) : Inward h next new := by
  obtain ⟨job, done, brokeOff, _, rfl, _, rfl, rfl⟩ :=
    Host.finish_some h next worker answer new moved
  have concluded := h.conclude_pool worker answer job
  cases brokeOff with
  | false =>
    refine ⟨by simp [concluded], fun note shown => ?_⟩
    rw [if_neg Bool.false_ne_true, List.append_nil] at shown
    exact h.concluding_owned worker answer job note shown
  | true =>
    refine ⟨?_, fun note shown => ?_⟩
    · rw [if_pos rfl]
      exact (Host.sweep_submits_nothing _).trans (by simp [concluded])
    · rcases List.mem_append.1 shown with early | late
      · exact h.concluding_owned worker answer job note early
      · rcases List.mem_cons.1 late with rfl | swept
        · intro site act same
          cases same
        · exact Host.sweep_owned _ note swept

theorem close_inward (h : Host α ε) : Inward h h.close.1 h.close.2 := by
  unfold Host.close
  split
  · exact ⟨Host.sweep_submits_nothing _, Host.sweep_owned _⟩
  · exact ⟨rfl, fun note shown => by cases shown⟩

theorem join_inward (h next : Host α ε) (new : List (Note ε))
    (moved : h.join? = some (next, new)) : Inward h next new := by
  unfold Host.join? at moved
  split at moved
  · simp only [Option.some.injEq, Prod.mk.injEq] at moved
    obtain ⟨rfl, rfl⟩ := moved
    refine ⟨rfl, fun note shown site act same => ?_⟩
    rw [List.eq_of_mem_replicate shown] at same
    cases same
  · cases moved

theorem step_inward (h next : Host α ε) (move : Move α) (new : List (Note ε))
    (moved : b.step? h move = some (next, new)) :
    (∃ module method args, move = .invoke module method args) ∨ Inward h next new := by
  cases move with
  | invoke module method args => exact Or.inl ⟨module, method, args, rfl⟩
  | pickUp worker => exact Or.inr (pick_up_inward h next worker new moved)
  | finish worker answer => exact Or.inr (finish_inward h next worker answer new moved)
  | close =>
    simp only [step?, Option.some.injEq] at moved
    have closed := close_inward h
    rw [moved] at closed
    exact Or.inr closed
  | join => exact Or.inr (join_inward h next new moved)

end Bridge

theorem Served.submits {h next : Host α ε} {new : List (Note ε)} {made : List (Job α ε)}
    (served : Served h next new made) :
    made = [] ∧ next.pool.submitted = h.pool.submitted ∨
      ∃ job, made = [job] ∧ job.id = h.pool.submitted ∧
        next.pool.submitted = h.pool.submitted + 1 := by
  cases served with
  | still => exact Or.inl ⟨rfl, rfl⟩
  | stored => exact Or.inl ⟨rfl, rfl⟩
  | promised work =>
    have pool := Host.submit_pool { h with results := h.results ++ [Cell.fresh] } work
      (.settle h.results.length)
    exact Or.inr ⟨_, rfl, rfl, congrArg Pool.submitted pool⟩
  | detached work origin hook =>
    have pool := h.submit_pool work (.detached origin hook)
    exact Or.inr ⟨_, rfl, rfl, congrArg Pool.submitted pool⟩

theorem Bridge.step_submits (b : Bridge α ε) (h next : Host α ε) (move : Move α)
    (new : List (Note ε)) (moved : b.step? h move = some (next, new)) :
    next.pool.submitted ≤ h.pool.submitted + 1 := by
  rcases step_inward h next move new moved with ⟨module, method, args, rfl⟩ | inward
  · simp only [step?, Option.some.injEq, Prod.mk.injEq] at moved
    obtain ⟨_, _, _, served, _⟩ := b.invoke_served h module method args
    rw [← moved.1]
    rcases served.submits with ⟨_, same⟩ | ⟨_, _, _, more⟩ <;> omega
  · exact Nat.le_succ_of_le (Nat.le_of_eq inward.submitted)

namespace Invocation

variable {b : Bridge α ε} {start : Host α ε}

def moves (c : Invocation b start) : List (Bridge.Move α) :=
  c.before ++ .invoke c.module c.method c.args :: c.after

theorem of_follow (before after : List (Bridge.Move α)) (mid last : Host α ε)
    (earlier later : List (Note ε)) (module method : String) (args : List Value)
    (reached : follow b.step? start before = some (mid, earlier))
    (left : follow b.step? (b.invoke mid module method args).1 after = some (last, later)) :
    ∃ c : Invocation b start, c.moves = before ++ .invoke module method args :: after ∧
      c.host = mid ∧ c.earlier = earlier ∧ c.next = (b.invoke mid module method args).1 ∧
      c.during = (b.invoke mid module method args).2.1 ∧ c.last = last ∧ c.later = later := by
  rw [← bridge_run_follows] at reached left
  exact ⟨⟨before, mid, earlier, reached, module, method, args, after, last, later, left⟩,
    rfl, rfl, rfl, rfl, rfl, rfl, rfl⟩

variable (moves : List (Bridge.Move α)) (last : Host α ε) (notes : List (Note ε))

theorem of_job (ran : b.run? start moves = some (last, notes)) (job : JobId)
    (made : start.pool.submitted ≤ job) (less : job < last.pool.submitted) :
    ∃ c : Invocation b start, c.moves = moves ∧ c.last = last ∧ c.notes = notes ∧
      c.host.pool.submitted = job ∧ c.next.pool.submitted = job + 1 := by
  rw [bridge_run_follows] at ran
  obtain ⟨before, move, after, mid, earlier, next, new, later, rfl, reached, moved, left, rfl, old,
      more⟩ := follow_passes b.step? (fun h => h.pool.submitted) b.step_submits start last moves
    notes ran job made less
  rcases Bridge.step_inward mid next move new moved with ⟨module, method, args, rfl⟩ | inward
  · simp only [Bridge.step?, Option.some.injEq, Prod.mk.injEq] at moved
    obtain ⟨rfl, rfl⟩ := moved
    obtain ⟨c, same, rfl, rfl, after, during, ended, rfl⟩ :=
      of_follow before after mid last earlier later module method args reached left
    refine ⟨c, same, ended, ?_, old, after ▸ more⟩
    rw [Invocation.notes, during, List.append_assoc]
  · have same := inward.submitted
    omega

theorem of_act (site : Site) (act : ε) (early late : List (Note ε))
    (ran : b.run? start moves = some (last, early ++ .acted site none act :: late)) :
    ∃ (c : Invocation b start) (front back : List (Note ε)), c.moves = moves ∧ c.last = last ∧
      c.during = front ++ .acted site none act :: back ∧ early = c.earlier ++ front ∧
      late = back ++ c.later := by
  rw [bridge_run_follows] at ran
  obtain ⟨before, move, after, mid, earlier, next, front, back, later, rfl, reached, moved, left,
      rfl, rfl⟩ := follow_shows b.step? start last moves _ early late ran
  rcases Bridge.step_inward mid next move _ moved with ⟨module, method, args, rfl⟩ | inward
  · simp only [Bridge.step?, Option.some.injEq, Prod.mk.injEq] at moved
    obtain ⟨rfl, shown⟩ := moved
    obtain ⟨c, same, _, rfl, _, during, ended, rfl⟩ :=
      of_follow before after mid last earlier later module method args reached left
    exact ⟨c, front, back, same, ended, during.trans shown, rfl, rfl⟩
  · exact absurd rfl (inward.owned _ (List.mem_append_right front (.head _)) site act)

end Invocation

section Started

variable {b : Bridge α ε} {threadName : String} {capacity workers : Nat}

theorem Bridge.shown_job_lt {moves : List (Bridge.Move α)} {last : Host α ε}
    {notes : List (Note ε)} (ran : b.run? (.start threadName capacity workers) moves =
      some (last, notes)) (note : Note ε) (job : JobId) (about : note.job? = some job)
    (shown : note ∈ notes) : job < last.pool.submitted := by
  obtain ⟨jobs, fate, course⟩ := run_course (Ledger.start threadName capacity workers) moves ran
  have ledger := course.ledger
  rw [List.nil_append, List.nil_append] at ledger
  rw [ledger.places.counted]
  refine Nat.lt_of_not_le fun above => ?_
  have told := (mem_story notes note job about).2 shown
  rw [ledger.stories.untold job above] at told
  cases told

end Started

end HostBridge
