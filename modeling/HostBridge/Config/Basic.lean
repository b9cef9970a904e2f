import HostBridge.Text.Chars

set_option autoImplicit false

namespace HostBridge

structure PoolConfig where
  workers : Nat
  queueCapacity : Nat
  threadName : String
deriving DecidableEq, Repr

structure LoggingConfig where
  filter : String
  ansi : Bool
deriving DecidableEq, Repr

structure Config where
  pool : PoolConfig
  logging : LoggingConfig
deriving DecidableEq, Repr

inductive ConfigError where
  | unreadable
  | malformed
  | invalid (reason : String)
deriving DecidableEq, Repr

namespace PoolConfig

def standard : PoolConfig := ⟨2, 256, "adbridge-io"⟩

def maxWorkers : Nat := 256

def workerCount (c : PoolConfig) (processors : Nat) : Nat :=
  if c.workers = 0 then processors else c.workers

end PoolConfig

namespace LoggingConfig

def standard : LoggingConfig := ⟨"info", false⟩

end LoggingConfig

namespace ConfigError

def invalidMessage (reason : String) : String := s!"Invalid config: {reason}"

end ConfigError

namespace Config

def standard : Config := ⟨.standard, .standard⟩

def isBlankText (s : String) : Bool := s.toList.all Text.isBlank

def fault? (c : Config) : Option String :=
  if isBlankText c.pool.threadName then some "pool.thread_name must not be empty"
  else if PoolConfig.maxWorkers < c.pool.workers then
    some s!"pool.workers = {c.pool.workers} exceeds the limit of {PoolConfig.maxWorkers}"
  else if isBlankText c.logging.filter then some "logging.filter must not be empty"
  else none

def validate (c : Config) : Except ConfigError Unit :=
  match c.fault? with
  | some reason => .error (.invalid reason)
  | none => .ok ()

end Config

end HostBridge
