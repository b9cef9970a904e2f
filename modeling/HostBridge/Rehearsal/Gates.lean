set_option autoImplicit false

namespace HostBridge.Rehearsal

structure Gates (β : Type) where
  needArming : Bool
  armed : List String
  early : List (String × Option β)
  waiting : List (Nat × String)
  opened : Bool

inductive Arrival (β : Type) where
  | passes (brought : Option β)
  | waits

namespace Gates

variable {β : Type}

def alwaysClosed : Gates β := ⟨false, [], [], [], false⟩

def unarmed : Gates β := ⟨true, [], [], [], false⟩

def arm (g : Gates β) (gate : String) : Gates β :=
  if gate ∈ g.armed then g else { g with armed := g.armed ++ [gate] }

-- A worker comes to a gate. A release that came before it serves it, also once all gates are open;
-- only then does an open gate let it pass with nothing.
def arrive (g : Gates β) (worker : Nat) (gate : String) : Gates β × Arrival β :=
  if g.needArming && !g.armed.contains gate then (g, .passes none)
  else
    let g := { g with armed := g.armed.erase gate }
    match g.early.find? (·.1 == gate) with
    | some (_, brought) =>
      ({ g with early := g.early.eraseP (·.1 == gate) }, .passes brought)
    | none =>
      if g.opened then (g, .passes none)
      else ({ g with waiting := g.waiting ++ [(worker, gate)] }, .waits)

def release (g : Gates β) (gate : String) (brought : Option β) : Gates β × Option Nat :=
  match g.waiting.find? (·.2 == gate) with
  | some (worker, _) => ({ g with waiting := g.waiting.eraseP (·.2 == gate) }, some worker)
  | none => ({ g with early := g.early ++ [(gate, brought)] }, none)

end Gates

end HostBridge.Rehearsal
