import HostBridge.Pool.Step
import HostBridge.Rehearsal.Gates

/-!
Jobs start in the order of the queue, each on the first idle worker, and go on until they end or
wait at a gate, so that a run can be foretold.
-/

set_option autoImplicit false

namespace HostBridge.Rehearsal

structure Staging (α ε β : Type) where
  gateOf : ε → Option String
  answer : Option β → α

structure Scene (α ε β : Type) where
  host : Host α ε
  gates : Gates β

namespace Scene

variable {α ε β : Type}

def finish (s : Scene α ε β) (staging : Staging α ε β) (worker : Nat) (brought : Option β) :
    Scene α ε β × List (Note ε) :=
  match s.host.finish? worker (staging.answer brought) with
  | some (host, notes) => ({ s with host := host }, notes)
  | none => (s, [])

def gateOf? (staging : Staging α ε β) (notes : List (Note ε)) : Option String :=
  notes.findSome? fun note => note.act?.bind staging.gateOf

def proceed (s : Scene α ε β) (staging : Staging α ε β) (worker : Nat) (notes : List (Note ε)) :
    Scene α ε β × List (Note ε) :=
  match gateOf? staging notes with
  | none => s.finish staging worker none
  | some gate =>
    match s.gates.arrive worker gate with
    | (gates, .passes brought) => { s with gates := gates }.finish staging worker brought
    | (gates, .waits) => ({ s with gates := gates }, [])

def startNext? (s : Scene α ε β) : Option (Scene α ε β × Nat × List (Note ε)) := do
  let worker ← s.host.pool.slots.findIdx? Slot.isIdle
  let (host, notes) ← s.host.pickUp? worker
  some ({ s with host := host }, worker, notes)

def advanceBy (staging : Staging α ε β) : Nat → Scene α ε β → Scene α ε β × List (Note ε)
  | 0, s => (s, [])
  | more + 1, s =>
    match s.startNext? with
    | none => (s, [])
    | some (s, worker, started) =>
      let (s, ended) := s.proceed staging worker started
      let (s, rest) := advanceBy staging more s
      (s, started ++ ended ++ rest)

def advance (s : Scene α ε β) (staging : Staging α ε β) : Scene α ε β × List (Note ε) :=
  advanceBy staging s.host.pool.queue.length s

def release (s : Scene α ε β) (staging : Staging α ε β) (gate : String) (brought : Option β) :
    Scene α ε β × List (Note ε) × Bool :=
  match s.gates.release gate brought with
  | (gates, some worker) =>
    let (s, ended) := { s with gates := gates }.finish staging worker brought
    let (s, rest) := s.advance staging
    (s, ended ++ rest, true)
  | (gates, none) => ({ s with gates := gates }, [], false)

def finishAll (staging : Staging α ε β) :
    List (Nat × String) → Scene α ε β → Scene α ε β × List (Note ε)
  | [], s => (s, [])
  | (worker, _) :: rest, s =>
    let (s, ended) := s.finish staging worker none
    let (s, others) := finishAll staging rest s
    (s, ended ++ others)

def openGates (s : Scene α ε β) (staging : Staging α ε β) : Scene α ε β × List (Note ε) :=
  let waiting := s.gates.waiting
  let (s, ended) :=
    finishAll staging waiting { s with gates := { s.gates with opened := true, waiting := [] } }
  let (s, rest) := s.advance staging
  (s, ended ++ rest)

def shutDown (s : Scene α ε β) (staging : Staging α ε β) : Scene α ε β × List (Note ε) :=
  let (host, discarded) := s.host.close
  let (s, ended) := { s with host := host }.openGates staging
  match s.host.join? with
  | some (host, warnings) => ({ s with host := host }, discarded ++ ended ++ warnings)
  | none => (s, discarded ++ ended)

end Scene

end HostBridge.Rehearsal
