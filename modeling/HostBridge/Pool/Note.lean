import HostBridge.Pool.Job

set_option autoImplicit false

namespace HostBridge

inductive Warning where
  | workBrokeOff (message : String)
  | failedAfterReturning (origin : String) (failure : Failure)
  | workerDied
deriving DecidableEq, Repr

namespace Warning

def message : Warning → String
  | workBrokeOff message => s!"blocking work panicked: {message}"
  | failedAfterReturning _ failure => s!"void method failed after returning: {failure.message}"
  | workerDied => "worker thread panicked outside a job"

end Warning

inductive Note (ε : Type) where
  | acted (site : Site) (job : Option JobId) (act : ε)
  | accepted (job : JobId)
  | rejected (job : JobId) (failure : Failure)
  | started (job : JobId) (worker : Nat)
  | ended (job : JobId) (worker : Nat) (ending : Ending)
  | discarded (job : JobId)
  | settled (id : PendingId) (outcome : Settlement)
  | hooked (job : JobId) (site : Site) (failure : Failure)
  | spilled (job : JobId) (worker : Nat)
  | startled (worker : Nat)
  | died (worker : Nat)
  | warned (warning : Warning)
  | kept (name : String) (id : PendingId)

namespace Note

variable {ε : Type}

def act? : Note ε → Option ε
  | acted _ _ act => some act
  | _ => none

def warning? : Note ε → Option Warning
  | warned w => some w
  | _ => none

end Note

end HostBridge
