import HostBridge.Bridge.Invoke
import HostBridge.Rehearsal.Schedule

set_option autoImplicit false

namespace HostBridge.Rehearsal

structure Session (α ε β : Type) where
  bridge : Bridge α ε
  scene : Scene α ε β
  kept : List (String × PendingId)
  shown : List PendingId

namespace Session

variable {α ε β : Type}

def start (bridge : Bridge α ε) (host : Host α ε) (gates : Gates β) : Session α ε β :=
  ⟨bridge, ⟨host, gates⟩, [], []⟩

def outcomes (s : Session α ε β) : List (Option Settlement) :=
  s.shown.map s.scene.host.results.outcome?

def keptBy : List (Note ε) → List (String × PendingId)
  | [] => []
  | .kept name id :: rest => (name, id) :: keptBy rest
  | _ :: rest => keptBy rest

def invoke (s : Session α ε β) (staging : Staging α ε β) (module method : String)
    (args : List Value) : Session α ε β × List (Note ε) × Return :=
  let (host, notes, reply) := s.bridge.invoke s.scene.host module method args
  let (scene, others) := { s.scene with host := host }.advance staging
  let shown := match reply with
    | some (.ok (.pending id)) => s.shown ++ [id]
    | _ => s.shown
  ({ s with scene := scene, kept := s.kept ++ keptBy notes, shown := shown }, notes ++ others,
    reply)

def submitPromised (s : Session α ε β) (staging : Staging α ε β) (work : Work α ε) :
    Session α ε β × List (Note ε) × PendingId :=
  let (host, notes, id) := s.scene.host.submitPromised work
  let (scene, others) := { s.scene with host := host }.advance staging
  ({ s with scene := scene, shown := s.shown ++ [id] }, notes ++ others, id)

def submitDetached (s : Session α ε β) (staging : Staging α ε β) (work : Work α ε)
    (origin : String) (hook : Option (Hook ε)) : Session α ε β × List (Note ε) × Bool :=
  let (host, notes, brokeOff) := s.scene.host.submitDetached work origin hook
  let (scene, others) := { s.scene with host := host }.advance staging
  ({ s with scene := scene }, notes ++ others, brokeOff)

def settleKept (s : Session α ε β) (name : String) (outcome : Settlement) :
    Session α ε β × Bool :=
  match s.kept.find? (·.1 == name) with
  | none => (s, false)
  | some (_, id) =>
    ({ s with
        scene := { s.scene with host := s.scene.host.settle id outcome }
        kept := s.kept.eraseP (·.1 == name) },
      true)

def release (s : Session α ε β) (staging : Staging α ε β) (gate : String)
    (brought : Option β) : Session α ε β × List (Note ε) × Bool :=
  let (scene, notes, waiting) := s.scene.release staging gate brought
  ({ s with scene := scene }, notes, waiting)

def shutDown (s : Session α ε β) (staging : Staging α ε β) : Session α ε β × List (Note ε) :=
  let (scene, notes) := s.scene.shutDown staging
  ({ s with scene := scene }, notes)

end Session

end HostBridge.Rehearsal
