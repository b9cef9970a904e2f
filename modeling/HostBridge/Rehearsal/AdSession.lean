import HostBridge.Ads.Modules
import HostBridge.Rehearsal.Backend

set_option autoImplicit false

namespace HostBridge.Rehearsal

open Ads

structure AdSession where
  session : Session Backend Ads.Act ScriptedAnswer
  script : Script
  hub : Hub AdEvent

namespace AdSession

def start (config : Config) (processors : Nat) (script : Script) : Except BuildError AdSession :=
  (Ads.build config processors).map fun (bridge, host) =>
    ⟨.start bridge host .unarmed, script, .empty⟩

def workerCount (s : AdSession) : Nat := s.session.scene.host.pool.workerCount

def after (s : AdSession) (session : Session Backend Ads.Act ScriptedAnswer)
    (notes : List (Note Ads.Act)) : AdSession :=
  { s with session := session, hub := publishAll s.hub notes }

def invoke (s : AdSession) (module method : String) (args : List Value) :
    AdSession × List (Note Ads.Act) × Return :=
  let (session, notes, reply) := s.session.invoke (backendStaging s.script) module method args
  (s.after session notes, notes, reply)

def release (s : AdSession) (gate : String) (told : Option ScriptedAnswer) :
    AdSession × List (Note Ads.Act) × Bool :=
  let (session, notes, waiting) := s.session.release (backendStaging s.script) gate told
  (s.after session notes, notes, waiting)

def shutDown (s : AdSession) : AdSession × List (Note Ads.Act) :=
  let (session, notes) := s.session.shutDown (backendStaging s.script)
  (s.after session notes, notes)

def arm (s : AdSession) (gate : String) : AdSession :=
  let scene := s.session.scene
  { s with session := { s.session with scene := { scene with gates := scene.gates.arm gate } } }

def tell (s : AdSession) (name : String) (answer : ScriptedAnswer) : AdSession :=
  { s with script := s.script.insert name answer }

end AdSession

end HostBridge.Rehearsal
