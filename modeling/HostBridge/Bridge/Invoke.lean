import HostBridge.Bridge.Basic
import HostBridge.Pool.Step

set_option autoImplicit false

namespace HostBridge

inductive Reply where
  | void
  | value (v : Value)
  | pending (id : PendingId)
deriving Inhabited

-- What a call comes back with, if it does: a hook that breaks off takes its caller along.
abbrev Return := Option (Except BridgeError Reply)

namespace Host

variable {α ε : Type}

def settledResult (h : Host α ε) (outcome : Settlement) : Host α ε × PendingId :=
  let (results, id) := h.results.createSettled outcome
  ({ h with results := results }, id)

def receive (h : Host α ε) : PendingSource → Host α ε × List (Note ε) × PendingId
  | .existing id => (h, [], id)
  | .settled outcome =>
    let (h, id) := h.settledResult outcome
    (h, [], id)
  | .fresh keeper =>
    let (results, id) := h.results.create
    ({ h with results := results }, [.kept keeper id], id)

def shapeDetached (h : Host α ε) (work : Work α ε) (origin : String) (hook : Option (Hook ε)) :
    Host α ε × List (Note ε) × Return :=
  let (h, notes, brokeOff) := h.submitDetached work origin hook
  (h, notes, if brokeOff then none else some (.ok .void))

def shapeVoid (h : Host α ε) (origin : String) :
    Except Failure (Outcome α ε) → Host α ε × List (Note ε) × Return
  | .error f => (h, [], some (.error (.handler f)))
  | .ok (.value _) => (h, [], some (.ok .void))
  | .ok (.pending source) =>
    let (h, notes, _) := h.receive source
    (h, notes, some (.ok .void))
  | .ok (.blocking work) => h.shapeDetached work origin none
  | .ok (.detached work hook) => h.shapeDetached work origin (some hook)

def shapeValue (h : Host α ε) (method : String) :
    Except Failure (Outcome α ε) → Host α ε × List (Note ε) × Return
  | .error f => (h, [], some (.error (.handler f)))
  | .ok (.value v) => (h, [], some (.ok (.value v)))
  | .ok (.pending source) =>
    let (h, notes, _) := h.receive source
    (h, notes, some (.error (.returnShapeMismatch method .value "pending")))
  | .ok other => (h, [], some (.error (.returnShapeMismatch method .value other.kind)))

def shapePromise (h : Host α ε) (method : String) :
    Except Failure (Outcome α ε) → Host α ε × List (Note ε) × Return
  | .error f =>
    let (h, id) := h.settledResult (.error f)
    (h, [], some (.ok (.pending id)))
  | .ok (.value v) =>
    let (h, id) := h.settledResult (.ok v)
    (h, [], some (.ok (.pending id)))
  | .ok (.pending source) =>
    let (h, notes, id) := h.receive source
    (h, notes, some (.ok (.pending id)))
  | .ok (.blocking work) =>
    let (h, notes, id) := h.submitPromised work
    (h, notes, some (.ok (.pending id)))
  | .ok (.detached _ _) => (h, [], some (.error (.returnShapeMismatch method .promise "detached")))

def shape (h : Host α ε) (module : String) (method : Method α ε)
    (result : Except Failure (Outcome α ε)) :
    Host α ε × List (Note ε) × Return :=
  match method.signature.returns with
  | .void => h.shapeVoid s!"{module}.{method.name}" result
  | .value => h.shapeValue method.name result
  | .promise => h.shapePromise method.name result

end Host

namespace Bridge

variable {α ε : Type}

def target (b : Bridge α ε) (module method : String) (args : List Value) :
    Except BridgeError (Method α ε × Arguments) := do
  let found ← b.resolve module method
  let bound ← found.signature.bind args
  .ok (found, bound)

def invoke (b : Bridge α ε) (h : Host α ε) (module method : String) (args : List Value) :
    Host α ε × List (Note ε) × Return :=
  match b.target module method args with
  | .error e => (h, [], some (.error e))
  | .ok (found, bound) =>
    let reaction := found.handler bound
    let (h, notes, reply) := h.shape module found reaction.result
    (h, reaction.acts.map (.acted .caller none) ++ notes, reply)

inductive Move (α : Type) where
  | invoke (module method : String) (args : List Value)
  | pickUp (worker : Nat)
  | finish (worker : Nat) (answer : α)
  | close
  | join

def step? (b : Bridge α ε) (h : Host α ε) : Move α → Option (Host α ε × List (Note ε))
  | .invoke module method args =>
    let (h, notes, _) := b.invoke h module method args
    some (h, notes)
  | .pickUp worker => h.pickUp? worker
  | .finish worker answer => h.finish? worker answer
  | .close => some h.close
  | .join => h.join?

def run? (b : Bridge α ε) (h : Host α ε) : List (Move α) → Option (Host α ε × List (Note ε))
  | [] => some (h, [])
  | move :: rest => do
    let (h, notes) ← b.step? h move
    let (h, others) ← b.run? h rest
    some (h, notes ++ others)

end Bridge

end HostBridge
