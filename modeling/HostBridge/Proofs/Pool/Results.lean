import HostBridge.Proofs.Pool.Moves
import HostBridge.Proofs.Run

set_option autoImplicit false

namespace HostBridge

variable {α ε : Type}

structure Pendings.Later (before after : Pendings) : Prop where
  length : after.length = before.length
  kept : ∀ id s, before.outcome? id = some s → after.outcome? id = some s

namespace Pendings.Later

theorem refl (results : Pendings) : Later results results := ⟨rfl, fun _ _ settled => settled⟩

theorem trans {first second third : Pendings} (left : Later first second)
    (right : Later second third) : Later first third :=
  ⟨right.length.trans left.length, fun id s settled => right.kept id s (left.kept id s settled)⟩

end Pendings.Later

structure Pendings.Grown (before after : Pendings) : Prop where
  length : before.length ≤ after.length
  kept : ∀ id s, before.outcome? id = some s → after.outcome? id = some s

namespace Pendings.Grown

theorem refl (results : Pendings) : Grown results results :=
  ⟨Nat.le_refl _, fun _ _ settled => settled⟩

theorem trans {first second third : Pendings} (left : Grown first second)
    (right : Grown second third) : Grown first third :=
  ⟨Nat.le_trans left.length right.length,
    fun id s settled => right.kept id s (left.kept id s settled)⟩

end Pendings.Grown

theorem outcome_made (results : Pendings) (id : PendingId) (s : Settlement)
    (settled : results.outcome? id = some s) : id < results.length := by
  unfold Pendings.outcome? at settled
  cases found : results[id]? with
  | none => simp [found] at settled
  | some cell => exact (List.getElem?_eq_some_iff.1 found).1

theorem outcome_push (results : Pendings) (cell : Cell) (id : PendingId) (s : Settlement)
    (settled : results.outcome? id = some s) : (results ++ [cell]).outcome? id = some s := by
  have made := outcome_made results id s settled
  rw [← settled]
  simp only [Pendings.outcome?, List.getElem?_append_left made]

theorem deliver_later (job : Job α ε) (results : Pendings) (outcome : Settlement) :
    Pendings.Later results (job.deliver results outcome) := by
  refine ⟨deliver_length job results outcome, fun id s settled => ?_⟩
  by_cases owed : job.owed? = some id
  · rw [deliver_owed job results outcome id owed (outcome_made results id s settled), settled]
    rfl
  · rw [deliver_other job results outcome id owed, settled]

namespace Host

theorem submit_later (h : Host α ε) (work : Work α ε) (completion : Completion ε) :
    Pendings.Later h.results (h.submit work completion).1.results := by
  cases verdict : h.pool.refusal? with
  | none =>
    rw [submit_accepting h work completion verdict]
    exact .refl h.results
  | some f =>
    rw [submit_refusing h work completion f verdict, complete_results]
    exact deliver_later _ h.results (.error f)

theorem abandon_later (h : Host α ε) (job : Job α ε) :
    Pendings.Later h.results (h.abandon job).1.results := by
  rw [abandon_results]
  exact deliver_later job h.results (.error .abandoned)

theorem discard_later (h : Host α ε) (gone : List (Job α ε)) :
    Pendings.Later h.results (h.discard gone).1.results := by
  induction gone generalizing h with
  | nil => exact .refl h.results
  | cons job rest ih =>
    exact (h.abandon_later job).trans (ih (h.abandon job).1)

theorem sweep_later (h : Host α ε) : Pendings.Later h.results h.sweep.1.results := by
  unfold sweep
  split
  · exact discard_later { h with pool := { h.pool with queue := [] } } h.pool.queue
  · exact .refl h.results

theorem bury_later (h : Host α ε) (worker : Nat) :
    Pendings.Later h.results (h.bury worker).1.results :=
  sweep_later { h with pool := { h.pool with slots := h.pool.slots.set worker .dead } }

theorem pick_up_later (h next : Host α ε) (worker : Nat) (new : List (Note ε))
    (picked : h.pickUp? worker = some (next, new)) : Pendings.Later h.results next.results := by
  obtain ⟨job, rest, _, _, rfl, _⟩ := pick_up_some h next worker new picked
  exact .refl h.results

theorem finish_later (h next : Host α ε) (worker : Nat) (answer : α) (new : List (Note ε))
    (finished : h.finish? worker answer = some (next, new)) :
    Pendings.Later h.results next.results := by
  obtain ⟨job, done, brokeOff, _, rfl, _, rfl, _⟩ := finish_some h next worker answer new finished
  have delivered : Pendings.Later h.results (h.conclude worker answer job).1.results := by
    rw [conclude_results]
    exact deliver_later job h.results _
  split
  · exact delivered.trans (bury_later _ worker)
  · exact delivered

theorem close_later (h : Host α ε) : Pendings.Later h.results h.close.1.results := by
  unfold close
  split
  · exact sweep_later { h with pool := { h.pool with phase := .closing } }
  · exact .refl h.results

theorem join_later (h next : Host α ε) (new : List (Note ε))
    (joined : h.join? = some (next, new)) : Pendings.Later h.results next.results := by
  unfold join? at joined
  split at joined
  · simp only [Option.some.injEq, Prod.mk.injEq] at joined
    rw [← joined.1]
    exact .refl h.results
  · cases joined

def Move.made : Move α ε → Nat
  | .promise _ => 1
  | _ => 0

theorem step_results (h next : Host α ε) (move : Move α ε) (new : List (Note ε))
    (moved : h.step? move = some (next, new)) :
    next.results.length = h.results.length + move.made ∧
      ∀ id s, h.results.outcome? id = some s → next.results.outcome? id = some s := by
  cases move with
  | promise work =>
    simp only [step?, Option.some.injEq, Prod.mk.injEq] at moved
    have later := submit_later { h with results := h.results ++ [Cell.fresh] } work
      (.settle h.results.length)
    rw [← moved.1]
    exact ⟨later.length.trans (by simp [Move.made]), fun id s settled =>
      later.kept id s (outcome_push h.results Cell.fresh id s settled)⟩
  | detach work origin hook =>
    simp only [step?, Option.some.injEq] at moved
    have later := submit_later h work (.detached origin hook)
    rw [show next = (h.submit work (.detached origin hook)).1 from (congrArg Prod.fst moved).symm]
    exact ⟨later.length, later.kept⟩
  | pickUp worker =>
    have later := pick_up_later h next worker new moved
    exact ⟨later.length, later.kept⟩
  | finish worker answer =>
    have later := finish_later h next worker answer new moved
    exact ⟨later.length, later.kept⟩
  | close =>
    simp only [step?, Option.some.injEq] at moved
    rw [show next = h.close.1 from (congrArg Prod.fst moved).symm]
    exact ⟨(close_later h).length, (close_later h).kept⟩
  | join =>
    have later := join_later h next new moved
    exact ⟨later.length, later.kept⟩

theorem run_keeps_outcomes (h last : Host α ε) (moves : List (Move α ε)) (new : List (Note ε))
    (ran : h.run? moves = some (last, new)) (id : PendingId) (s : Settlement)
    (settled : h.results.outcome? id = some s) : last.results.outcome? id = some s := by
  rw [host_run_follows] at ran
  exact follow_invariant step? (fun h _ => h.results.outcome? id = some s)
    (fun h _ move next new holds moved => (step_results h next move new moved).2 id s holds)
    h last [] new moves settled ran

end Host

end HostBridge
