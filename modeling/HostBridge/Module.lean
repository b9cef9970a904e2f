import HostBridge.Arguments
import HostBridge.Pool.Job
import HostBridge.Text.Quoted
import HostBridge.Value.Json

set_option autoImplicit false

namespace HostBridge

inductive PendingSource where
  | existing (id : PendingId)
  | fresh (keeper : String)
  | settled (outcome : Settlement)

inductive Outcome (α ε : Type) where
  | value (v : Value)
  | pending (source : PendingSource)
  | blocking (work : Work α ε)
  | detached (work : Work α ε) (hook : Hook ε)

namespace Outcome

variable {α ε : Type}

def done : Outcome α ε := value .undefined

def kind : Outcome α ε → String
  | value _ => "value"
  | pending _ => "pending"
  | blocking _ => "blocking"
  | detached _ _ => "detached"

def diagnostic (ps : Pendings) : Outcome α ε → String
  | value v => s!"Value({v.diagnostic})"
  | pending (.existing id) => s!"Pending({ps.diagnostic id})"
  | pending (.fresh _) => s!"Pending({Pendings.diagnostic [Cell.fresh] 0})"
  | pending (.settled outcome) => s!"Pending({Pendings.diagnostic [⟨some outcome, []⟩] 0})"
  | blocking _ => "Blocking(..)"
  | detached _ _ => "Detached \x7b .. \x7d"

end Outcome

structure Reaction (α ε : Type) where
  acts : List ε
  result : Except Failure (Outcome α ε)

namespace Reaction

variable {α ε : Type}

def quiet (result : Except Failure (Outcome α ε)) : Reaction α ε := ⟨[], result⟩

def reading {β : Type} (read : Except Failure β) (next : β → Reaction α ε) : Reaction α ε :=
  match read with
  | .ok x => next x
  | .error f => quiet (.error f)

end Reaction

abbrev Handler (α ε : Type) := Arguments → Reaction α ε

structure Method (α ε : Type) where
  name : String
  signature : Signature
  handler : Handler α ε

namespace Method

variable {α ε : Type}

def diagnostic (m : Method α ε) : String :=
  s!"MethodDescriptor \x7b name: {Text.quoted m.name}, signature: {m.signature.diagnostic}, .. \x7d"

end Method

structure Module (α ε : Type) where
  name : String
  methods : KeyMap (Method α ε)

namespace Module

variable {α ε : Type}

-- Adds a method. A signature that is malformed is reported before a name that is taken.
def add (m : Module α ε) (method : Method α ε) : Except BridgeError (Module α ε) :=
  match method.signature.misplaced? with
  | some fault => .error (.invalidSignature method.name fault)
  | none =>
    if m.methods.contains method.name then .error (.duplicateMethod m.name method.name)
    else .ok { m with methods := m.methods.insert method.name method }

def build (name : String) (methods : List (Method α ε)) : Except BridgeError (Module α ε) :=
  methods.foldlM add ⟨name, []⟩

def resolve (m : Module α ε) (method : String) : Except BridgeError (Method α ε) :=
  match m.methods.lookup method with
  | some found => .ok found
  | none => .error (.unknownMethod m.name method)

def methodNames (m : Module α ε) : List String := m.methods.keys

def diagnostic (m : Module α ε) : String :=
  let names := ", ".intercalate (m.methodNames.map Text.quoted)
  s!"BridgeModule \x7b name: {Text.quoted m.name}, methods: [{names}] \x7d"

end Module

end HostBridge
