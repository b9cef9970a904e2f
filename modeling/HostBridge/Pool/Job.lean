import HostBridge.Pending.Store

/-!
Work talks to the world outside once: what it does before is its opening, and the answer decides
what it does after. Closures that are dropped without having been called are taken to go quietly.
What work has broken off with may break off again as it is dropped, if it is not a text, and so may
whoever is woken by a settlement; these mishaps are no moves of a pool, but events beside them.
-/

set_option autoImplicit false

namespace HostBridge

inductive Site where
  | caller
  | worker (index : Nat)
deriving DecidableEq, Repr

inductive Breakage where
  | said (message : String)
  | silent
deriving DecidableEq, Inhabited, Repr

namespace Breakage

def message : Breakage → String
  | said message => message
  | silent => "unknown panic"

end Breakage

inductive Ending where
  | returned (outcome : Settlement)
  | brokeOff (breakage : Breakage)
deriving Inhabited

namespace Ending

def outcome : Ending → Settlement
  | returned outcome => outcome
  | brokeOff breakage => .error (.brokenOff breakage.message)

end Ending

structure Work (α ε : Type) where
  opening : List ε
  closing : String → α → List ε × Ending

-- What is told about a failure that no caller waits for. A hook may break off after it has acted.
structure Hook (ε : Type) where
  acts : Failure → List ε
  breaksOff : Site → Failure → Bool

inductive Completion (ε : Type) where
  | settle (id : PendingId)
  | detached (origin : String) (hook : Option (Hook ε))

abbrev JobId := Nat

structure Job (α ε : Type) where
  id : JobId
  work : Work α ε
  completion : Completion ε

end HostBridge
