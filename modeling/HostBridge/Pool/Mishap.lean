import HostBridge.Pool.Step

set_option autoImplicit false

namespace HostBridge.Host

variable {α ε : Type}

-- Nothing is caught when a worker drops what the work of its job has broken off with. If that
-- breaks off again, which no text does, the worker dies with the completion in its hands.
def spill? (h : Host α ε) (worker : Nat) (answer : α) : Option (Host α ε × List (Note ε)) :=
  match h.pool.slots[worker]?.bind Slot.job? with
  | none => none
  | some job =>
    match job.work.closing (h.pool.threadOf worker) answer with
    | (acts, .brokeOff .silent) =>
      let freed := { h.pool with slots := h.pool.slots.set worker .idle }
      let (h, lost) := { h with pool := freed }.abandon job
      let (h, grave) := h.bury worker
      some (h, acts.map (.acted (.worker worker) (some job.id)) ++
        .ended job.id worker (.brokeOff .silent) :: breakageNotes (.brokeOff .silent) ++
          .spilled job.id worker :: lost ++ grave)
    | _ => none

-- Whoever is woken by the outcome of a job is woken on the worker.
def startle? (h : Host α ε) (worker : Nat) (answer : α) : Option (Host α ε × List (Note ε)) :=
  match (h.pool.slots[worker]?.bind Slot.job?).map Job.completion with
  | some (.settle _) => do
    let (h, notes) ← h.finish? worker answer
    let (h, grave) := h.bury worker
    some (h, notes ++ .startled worker :: grave)
  | _ => none

inductive Event (α ε : Type) where
  | move (move : Move α ε)
  | spill (worker : Nat) (answer : α)
  | startle (worker : Nat) (answer : α)

def meet? (h : Host α ε) : Event α ε → Option (Host α ε × List (Note ε))
  | .move move => h.step? move
  | .spill worker answer => h.spill? worker answer
  | .startle worker answer => h.startle? worker answer

def endure? (h : Host α ε) : List (Event α ε) → Option (Host α ε × List (Note ε))
  | [] => some (h, [])
  | event :: rest => do
    let (h, notes) ← h.meet? event
    let (h, others) ← h.endure? rest
    some (h, notes ++ others)

end HostBridge.Host
