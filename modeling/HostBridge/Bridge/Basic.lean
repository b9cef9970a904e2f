import HostBridge.Config.Basic
import HostBridge.Module
import HostBridge.Pool.State

set_option autoImplicit false

namespace HostBridge

structure Bridge (α ε : Type) where
  modules : KeyMap (Module α ε)

inductive BuildError where
  | config (reason : String)
  | bridge (error : BridgeError)
deriving DecidableEq, Repr

namespace BuildError

def message : BuildError → String
  | config reason => ConfigError.invalidMessage reason
  | bridge error => s!"Bridge error: {error.message}"

end BuildError

namespace Bridge

variable {α ε : Type}

def add (b : Bridge α ε) (m : Module α ε) : Except BridgeError (Bridge α ε) :=
  if b.modules.contains m.name then .error (.duplicateModule m.name)
  else .ok ⟨b.modules.insert m.name m⟩

def ofModules (modules : List (Module α ε)) : Except BridgeError (Bridge α ε) :=
  modules.foldlM add ⟨[]⟩

def build (config : Config) (processors : Nat) (modules : List (Module α ε)) :
    Except BuildError (Bridge α ε × Host α ε) :=
  match config.fault? with
  | some reason => .error (.config reason)
  | none =>
    match ofModules modules with
    | .error e => .error (.bridge e)
    | .ok b =>
      let pool := config.pool
      .ok (b, .start pool.threadName pool.queueCapacity (pool.workerCount processors))

def moduleNames (b : Bridge α ε) : List String := b.modules.keys

def diagnostic (b : Bridge α ε) (workers : Nat) : String :=
  let names := ", ".intercalate (b.moduleNames.map Text.quoted)
  s!"Bridge \x7b modules: [{names}], workers: {workers} \x7d"

def resolve (b : Bridge α ε) (module method : String) : Except BridgeError (Method α ε) :=
  match b.modules.lookup module with
  | none => .error (.unknownModule module)
  | some m => m.resolve method

end Bridge

end HostBridge
