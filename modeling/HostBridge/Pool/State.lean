import HostBridge.Pool.Note

set_option autoImplicit false

namespace HostBridge

inductive Slot (α ε : Type) where
  | idle
  | busy (job : Job α ε)
  | dead

namespace Slot

variable {α ε : Type}

def isIdle : Slot α ε → Bool
  | idle => true
  | _ => false

def isLive : Slot α ε → Bool
  | dead => false
  | _ => true

def job? : Slot α ε → Option (Job α ε)
  | busy job => some job
  | _ => none

end Slot

inductive Phase where
  | taking
  | closing
  | closed
deriving DecidableEq, Repr

structure Pool (α ε : Type) where
  threadName : String
  -- How many jobs the queue holds; zero for any number.
  capacity : Nat
  -- Whether the queue keeps its jobs once no worker is left to take them, until no more can come.
  lasting : Bool
  slots : List (Slot α ε)
  queue : List (Job α ε)
  phase : Phase
  submitted : Nat

structure Host (α ε : Type) where
  pool : Pool α ε
  results : Pendings

namespace Pool

variable {α ε : Type}

def fresh (threadName : String) (capacity : Nat) (lasting : Bool) (workers : Nat) : Pool α ε :=
  ⟨threadName, capacity, lasting, List.replicate workers .idle, [], .taking, 0⟩

-- A queue with a fixed number of places is a lasting one.
def start (threadName : String) (capacity workers : Nat) : Pool α ε :=
  fresh threadName capacity (capacity != 0) workers

def hasLiveWorker (p : Pool α ε) : Bool := p.slots.any Slot.isLive

def hasRoom (p : Pool α ε) : Bool := p.capacity == 0 || decide (p.queue.length < p.capacity)

def workerCount (p : Pool α ε) : Nat := p.slots.length

def deadCount (p : Pool α ε) : Nat := p.slots.countP (!·.isLive)

def refusal? (p : Pool α ε) : Option Failure :=
  if p.phase ≠ .taking ∨ p.hasLiveWorker = false then some .poolClosed
  else if p.hasRoom then none
  else some .queueFull

def threadOf (p : Pool α ε) (worker : Nat) : String := s!"{p.threadName}-{worker}"

end Pool

namespace Host

variable {α ε : Type}

def fresh (threadName : String) (capacity : Nat) (lasting : Bool) (workers : Nat) : Host α ε :=
  ⟨.fresh threadName capacity lasting workers, []⟩

def start (threadName : String) (capacity workers : Nat) : Host α ε :=
  ⟨.start threadName capacity workers, []⟩

end Host

end HostBridge
