import HostBridge.Error

/-!
A wake-up may be spurious. One that comes from the clock says so, and it comes at the deadline or
later.
-/

set_option autoImplicit false

namespace HostBridge.Pending

abbrev Nanoseconds := Nat

-- The last point of time that the clock can show: seconds in a signed word of sixty-four bits.
def lastInstant : Nanoseconds := 1000000000 <<< 63 - 1

def deadline? (now span : Nanoseconds) : Option Nanoseconds :=
  if now + span ≤ lastInstant then some (now + span) else none

structure WakeUp where
  outcome : Option Settlement
  timedOut : Bool

inductive WaitEnd where
  | noDeadline
  | settled (s : Settlement)
  | timedOut
  | asleep

def waitFrom : Option Settlement → List WakeUp → WaitEnd
  | some s, _ => .settled s
  | none, [] => .asleep
  | none, w :: rest =>
    if w.timedOut then
      match w.outcome with
      | some s => .settled s
      | none => .timedOut
    else waitFrom w.outcome rest

-- Waits for a span, given the outcome at the start and the wake-ups that follow. The deadline is
-- computed before the outcome is looked at.
def waitFor (now span : Nanoseconds) (outcome : Option Settlement) (wakeUps : List WakeUp) :
    WaitEnd :=
  match deadline? now span with
  | none => .noDeadline
  | some _ => waitFrom outcome wakeUps

end HostBridge.Pending
