import HostBridge.Proofs.Pool.Motion
import HostBridge.Proofs.Run

set_option autoImplicit false

namespace HostBridge

variable {α ε : Type}

def Host.Move.isWork : Host.Move α ε → Bool
  | .pickUp _ => true
  | .finish _ _ => true
  | _ => false

def Slot.isBusy (slot : Slot α ε) : Bool := slot.job?.isSome

namespace Pool

-- What is left to do: a job that waits has to be taken up and to be ended.
def burden (p : Pool α ε) : Nat := 2 * p.queue.length + p.slots.countP Slot.isBusy

def Tended (p : Pool α ε) : Prop := p.phase = .closing → p.queue = [] ∨ p.hasLiveWorker = true

theorem burden_bound (p : Pool α ε) : p.burden ≤ 2 * p.queue.length + p.slots.length :=
  Nat.add_le_add_left List.countP_le_length _

end Pool

theorem busy_count_set (slots : List (Slot α ε)) (worker : Nat) (held slot : Slot α ε)
    (found : slots[worker]? = some held) :
    (slots.set worker slot).countP Slot.isBusy + (if held.isBusy then 1 else 0) =
      slots.countP Slot.isBusy + if slot.isBusy then 1 else 0 := by
  obtain ⟨bound, same⟩ := List.getElem?_eq_some_iff.1 found
  rw [List.countP_set bound, same]
  by_cases busy : held.isBusy = true
  · have some : 0 < slots.countP Slot.isBusy :=
      List.countP_pos_iff.2 ⟨held, List.mem_of_getElem? found, busy⟩
    rw [if_pos busy]
    omega
  · rw [if_neg busy]
    omega

theorem Swept.lighter {p p' : Pool α ε} {lost : List (Note ε)} (swept : Swept p p' lost) :
    p'.phase = p.phase ∧ p'.burden ≤ p.burden := by
  cases swept with
  | kept => exact ⟨rfl, Nat.le_refl _⟩
  | emptied => exact ⟨rfl, Nat.add_le_add_right (Nat.zero_le _) _⟩

theorem Swept.tended {p p' : Pool α ε} {lost : List (Note ε)} (swept : Swept p p' lost) :
    p'.Tended := by
  cases swept with
  | kept needed =>
    intro closing
    refine Or.inr (needed.resolve_right fun lasting => ?_)
    rw [closing] at lasting
    cases lasting.2
  | emptied => exact fun _ => Or.inl rfl

theorem Motion.tended {p p' : Pool α ε} {shown : List (Note ε)} (motion : Motion p p' shown)
    (tended : p.Tended) : p'.Tended := by
  cases motion with
  | accepts job next open_ =>
    intro closing
    have taking := (accepting_open p open_).1
    rw [show p.phase = .closing from closing] at taking
    cases taking
  | refuses job next f refused => exact tended
  | starts worker job rest idle first =>
    refine fun _ => Or.inr (live_of_slot _ worker (.busy job) rfl ?_)
    exact List.getElem?_set_self (List.getElem?_eq_some_iff.1 idle).1
  | ends worker job ending busy mild =>
    refine fun _ => Or.inr (live_of_slot _ worker .idle rfl ?_)
    exact List.getElem?_set_self (List.getElem?_eq_some_iff.1 busy).1
  | kills worker job ending _ lost busy fatal swept => exact swept.tended
  | closes _ _ taking swept => exact swept.tended
  | rests stopped => exact tended
  | joins closing empty free => exact fun _ => Or.inl empty

namespace Host

theorem work_lightens (h next : Host α ε) (move : Move α ε) (new : List (Note ε))
    (work : move.isWork = true) (moved : h.step? move = some (next, new)) :
    next.pool.phase = h.pool.phase ∧ next.pool.burden < h.pool.burden := by
  cases move with
  | pickUp worker =>
    obtain ⟨job, rest, idle, first, rfl, rfl⟩ := pick_up_some h next worker new moved
    have count : (h.pool.slots.set worker (.busy job)).countP Slot.isBusy + 0 =
        h.pool.slots.countP Slot.isBusy + 1 := busy_count_set _ worker _ (.busy job) idle
    refine ⟨rfl, ?_⟩
    simp only [Pool.burden, first, List.length_cons]
    omega
  | finish worker answer =>
    obtain ⟨job, busy, ⟨_, _, pool⟩ | ⟨_, lost, _, swept⟩⟩ :=
      finish_motion h next worker answer new moved
    · have count : (h.pool.slots.set worker .idle).countP Slot.isBusy + 1 =
          h.pool.slots.countP Slot.isBusy + 0 := busy_count_set _ worker _ .idle busy
      rw [pool]
      refine ⟨rfl, ?_⟩
      simp only [Pool.burden]
      omega
    · have count : (h.pool.slots.set worker .dead).countP Slot.isBusy + 1 =
          h.pool.slots.countP Slot.isBusy + 0 := busy_count_set _ worker _ .dead busy
      obtain ⟨phase, lighter⟩ := swept.lighter
      refine ⟨phase, Nat.lt_of_le_of_lt lighter ?_⟩
      simp only [Pool.burden]
      omega
  | _ => cases work

theorem works_lighten (h last : Host α ε) (works : List (Move α ε)) (new : List (Note ε))
    (working : ∀ move ∈ works, move.isWork = true) (ran : h.run? works = some (last, new)) :
    last.pool.phase = h.pool.phase ∧ works.length + last.pool.burden ≤ h.pool.burden := by
  rw [host_run_follows] at ran
  induction works generalizing h new with
  | nil =>
    simp only [follow, Option.some.injEq, Prod.mk.injEq] at ran
    rw [ran.1]
    exact ⟨rfl, Nat.le_of_eq (Nat.zero_add _)⟩
  | cons move rest ih =>
    obtain ⟨next, first, others, moved, went, rfl⟩ :=
      follow_cons_some step? h move rest last new ran
    obtain ⟨phase, lighter⟩ :=
      work_lightens h next move first (working move List.mem_cons_self) moved
    obtain ⟨still, left⟩ := ih next others (fun other among =>
      working other (List.mem_cons_of_mem _ among)) went
    refine ⟨still.trans phase, ?_⟩
    rw [List.length_cons]
    omega

theorem join_possible (h : Host α ε) (closing : h.pool.phase = .closing) (tended : h.pool.Tended)
    (untaken : ∀ worker, h.step? (.pickUp worker) = none)
    (free : ∀ (worker : Nat) (job : Job α ε), h.pool.slots[worker]? ≠ some (.busy job)) :
    ∃ last new, h.step? .join = some (last, new) := by
  have unqueued : h.pool.queue = [] := by
    refine (tended closing).elim id fun live => ?_
    obtain ⟨slot, member, alive⟩ := List.any_eq_true.1 live
    obtain ⟨worker, held⟩ := List.mem_iff_getElem?.1 member
    cases slot with
    | busy job => exact absurd held (free worker job)
    | dead => cases alive
    | idle =>
      cases queue : h.pool.queue with
      | nil => rfl
      | cons job rest =>
        have none := untaken worker
        simp [step?, pickUp?, held, queue] at none
  have unoccupied : h.pool.slots.all (·.job?.isNone) = true := by
    refine List.all_eq_true.2 fun slot member => ?_
    obtain ⟨worker, held⟩ := List.mem_iff_getElem?.1 member
    cases slot with
    | busy job => exact absurd held (free worker job)
    | _ => rfl
  have ready : h.pool.phase = .closing ∧ h.pool.queue.isEmpty ∧
      h.pool.slots.all (·.job?.isNone) := ⟨closing, by rw [unqueued]; rfl, unoccupied⟩
  exact ⟨_, _, if_pos ready⟩

end Host

end HostBridge
