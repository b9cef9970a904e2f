import HostBridge.Signature.Basic
import HostBridge.Value.Basic

set_option autoImplicit false

namespace HostBridge

structure Failure where
  code : String
  message : String
deriving DecidableEq, Inhabited, Repr

namespace Failure

def text (f : Failure) : String := s!"[{f.code}] {f.message}"

def queueFull : Failure := ⟨"bridge/queue-full", "worker pool queue is full"⟩

def poolClosed : Failure := ⟨"bridge/pool-closed", "worker pool is shut down"⟩

def abandoned : Failure := ⟨"bridge/abandoned", "resolver dropped without settling"⟩

def brokenOff (message : String) : Failure := ⟨"bridge/panic", message⟩

def argument (message : String) : Failure := ⟨"bridge/argument", message⟩

def invalidOptions (message : String) : Failure := ⟨"bridge/invalid-options", message⟩

end Failure

abbrev Settlement := Except Failure Value

inductive BridgeError where
  | duplicateMethod (module method : String)
  | duplicateModule (module : String)
  | invalidSignature (method : String) (fault : Misplaced)
  | unknownModule (module : String)
  | unknownMethod (module method : String)
  | missingArgument (position : Nat)
  | typeMismatch (position : Nat) (expected : ParamType) (got : String)
  | returnShapeMismatch (method : String) (declared : Returns) (returned : String)
  | handler (failure : Failure)
deriving DecidableEq, Repr

namespace BridgeError

def message : BridgeError → String
  | duplicateMethod module method =>
    s!"Module '{module}' registers method '{method}' more than once"
  | duplicateModule module => s!"Module '{module}' is registered more than once"
  | invalidSignature method fault => s!"Invalid signature for '{method}': {fault.message}"
  | unknownModule module => s!"Unknown module '{module}'"
  | unknownMethod module method => s!"Unknown method '{method}' in module '{module}'"
  | missingArgument position => s!"Expected argument in position {position} to be passed"
  | typeMismatch position expected got =>
    s!"Argument in position {position}: expected {expected.name}, got {got}"
  | returnShapeMismatch method declared returned =>
    s!"Method '{method}' declared {declared.name} but the handler returned {returned}"
  | handler failure => s!"Handler failed: {failure.text}"

def isShapeError : BridgeError → Bool
  | unknownModule _ => true
  | unknownMethod _ _ => true
  | missingArgument _ => true
  | typeMismatch _ _ _ => true
  | _ => false

end BridgeError

end HostBridge
