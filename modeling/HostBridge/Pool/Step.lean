import HostBridge.Pool.State

set_option autoImplicit false

namespace HostBridge.Host

variable {α ε : Type}

def settle (h : Host α ε) (id : PendingId) (outcome : Settlement) : Host α ε :=
  { h with results := (h.results.settle id outcome).1 }

def complete (h : Host α ε) (site : Site) (job : Job α ε) (outcome : Settlement) :
    Host α ε × List (Note ε) × Bool :=
  match job.completion, outcome with
  | .settle id, outcome => (h.settle id outcome, [.settled id outcome], false)
  | .detached _ _, .ok _ => (h, [], false)
  | .detached origin none, .error f => (h, [.warned (.failedAfterReturning origin f)], false)
  | .detached origin (some hook), .error f =>
    (h, .warned (.failedAfterReturning origin f) :: .hooked job.id site f ::
      (hook.acts f).map (.acted site (some job.id)), hook.breaksOff site f)

-- Says as well whether a hook broke off: then the caller is taken along.
def submit (h : Host α ε) (work : Work α ε) (completion : Completion ε) :
    Host α ε × List (Note ε) × Bool :=
  let job : Job α ε := ⟨h.pool.submitted, work, completion⟩
  let pool := { h.pool with submitted := h.pool.submitted + 1 }
  match h.pool.refusal? with
  | none =>
    ({ h with pool := { pool with queue := pool.queue ++ [job] } }, [.accepted job.id], false)
  | some f =>
    let (h, notes, brokeOff) := complete { h with pool := pool } .caller job (.error f)
    (h, .rejected job.id f :: notes, brokeOff)

def submitPromised (h : Host α ε) (work : Work α ε) : Host α ε × List (Note ε) × PendingId :=
  let (results, id) := h.results.create
  let (h, notes, _) := { h with results := results }.submit work (.settle id)
  (h, notes, id)

def submitDetached (h : Host α ε) (work : Work α ε) (origin : String)
    (hook : Option (Hook ε)) : Host α ε × List (Note ε) × Bool :=
  h.submit work (.detached origin hook)

-- A job is started when it is taken from the queue.
def pickUp? (h : Host α ε) (worker : Nat) : Option (Host α ε × List (Note ε)) :=
  match h.pool.slots[worker]?, h.pool.queue with
  | some .idle, job :: rest =>
    let pool := { h.pool with slots := h.pool.slots.set worker (.busy job), queue := rest }
    some ({ h with pool := pool },
      .started job.id worker :: job.work.opening.map (.acted (.worker worker) (some job.id)))
  | _, _ => none

def abandon (h : Host α ε) (job : Job α ε) : Host α ε × List (Note ε) :=
  match job.completion with
  | .settle id => (h.settle id (.error .abandoned), [.settled id (.error .abandoned)])
  | .detached _ _ => (h, [])

def discard (h : Host α ε) : List (Job α ε) → Host α ε × List (Note ε)
  | [] => (h, [])
  | job :: rest =>
    let (h, shown) := h.abandon job
    let (h, notes) := h.discard rest
    (h, .discarded job.id :: (shown ++ notes))

-- Discards the queue when no worker is left to serve it. A lasting queue keeps its jobs until the
-- pool stops taking more.
def sweep (h : Host α ε) : Host α ε × List (Note ε) :=
  if h.pool.hasLiveWorker = false ∧ (h.pool.lasting = false ∨ h.pool.phase ≠ .taking) then
    discard { h with pool := { h.pool with queue := [] } } h.pool.queue
  else (h, [])

def bury (h : Host α ε) (worker : Nat) : Host α ε × List (Note ε) :=
  let pool := { h.pool with slots := h.pool.slots.set worker .dead }
  let (h, notes) := { h with pool := pool }.sweep
  (h, .died worker :: notes)

def breakageNotes : Ending → List (Note ε)
  | .brokeOff breakage => [.warned (.workBrokeOff breakage.message)]
  | .returned _ => []

def finish? (h : Host α ε) (worker : Nat) (answer : α) : Option (Host α ε × List (Note ε)) :=
  match h.pool.slots[worker]?.bind Slot.job? with
  | none => none
  | some job =>
    let (acts, ending) := job.work.closing (h.pool.threadOf worker) answer
    let freed := { h.pool with slots := h.pool.slots.set worker .idle }
    let (h, notes, brokeOff) :=
      complete { h with pool := freed } (.worker worker) job ending.outcome
    let (h, grave) := if brokeOff then h.bury worker else (h, [])
    some (h, acts.map (.acted (.worker worker) (some job.id)) ++
      .ended job.id worker ending :: breakageNotes ending ++ notes ++ grave)

def close (h : Host α ε) : Host α ε × List (Note ε) :=
  if h.pool.phase = .taking then { h with pool := { h.pool with phase := .closing } }.sweep
  else (h, [])

def join? (h : Host α ε) : Option (Host α ε × List (Note ε)) :=
  if h.pool.phase = .closing ∧ h.pool.queue.isEmpty ∧ h.pool.slots.all (·.job?.isNone) then
    some ({ h with pool := { h.pool with slots := [], phase := .closed } },
      List.replicate h.pool.deadCount (.warned .workerDied))
  else none

inductive Move (α ε : Type) where
  | promise (work : Work α ε)
  | detach (work : Work α ε) (origin : String) (hook : Option (Hook ε))
  | pickUp (worker : Nat)
  | finish (worker : Nat) (answer : α)
  | close
  | join

-- A move that is not possible has no result, and neither has a run with such a move in it. A caller
-- whom a hook has taken along may go on with the next move.
def step? (h : Host α ε) : Move α ε → Option (Host α ε × List (Note ε))
  | .promise work =>
    let (h, notes, _) := h.submitPromised work
    some (h, notes)
  | .detach work origin hook =>
    let (h, notes, _) := h.submitDetached work origin hook
    some (h, notes)
  | .pickUp worker => h.pickUp? worker
  | .finish worker answer => h.finish? worker answer
  | .close => some h.close
  | .join => h.join?

def run? (h : Host α ε) : List (Move α ε) → Option (Host α ε × List (Note ε))
  | [] => some (h, [])
  | move :: rest => do
    let (h, notes) ← h.step? move
    let (h, others) ← h.run? rest
    some (h, notes ++ others)

end HostBridge.Host
