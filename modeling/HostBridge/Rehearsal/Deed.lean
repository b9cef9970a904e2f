import HostBridge.Module
import HostBridge.Rehearsal.Schedule

set_option autoImplicit false

namespace HostBridge.Rehearsal

inductive Act where
  | called (method : String) (args : Arguments)
  | reached (gate : String)
  | ran (log : Value)
  | hooked (label : String) (failure : Failure)

inductive TaskEnd where
  | given (ending : Ending)
  | threadName

structure Task where
  gate : Option String
  log : Option Value
  ending : TaskEnd

namespace Task

def work (t : Task) : Work Unit Act where
  opening := t.gate.toList.map .reached
  closing thread _ :=
    (t.log.toList.map .ran,
      match t.ending with
      | .given ending => ending
      | .threadName => .returned (.ok (.string thread)))

end Task

-- Records what it is told. If it is to break off, it does so on a worker only.
def recordingHook (label : String) (breaksOff : Bool) : Hook Act :=
  ⟨fun f => [.hooked label f], fun site _ => breaksOff && site != .caller⟩

inductive Deed where
  | value (v : Value)
  | fail (failure : Failure)
  | read (reader : Arguments → Settlement)
  | pending (source : PendingSource)
  | blocking (task : Task)
  | detached (task : Task) (breaksOff : Bool)

namespace Deed

def outcome (label : String) (args : Arguments) : Deed → Except Failure (Outcome Unit Act)
  | value v => .ok (.value v)
  | fail failure => .error failure
  | read reader => (reader args).map .value
  | pending source => .ok (.pending source)
  | blocking task => .ok (.blocking task.work)
  | detached task breaksOff => .ok (.detached task.work (recordingHook label breaksOff))

def handler (label : String) (d : Deed) : Handler Unit Act := fun args =>
  ⟨[.called label args], d.outcome label args⟩

end Deed

def staging : Staging Unit Act Unit where
  gateOf
    | .reached gate => some gate
    | _ => none
  answer _ := ()

end HostBridge.Rehearsal
