set_option autoImplicit false

namespace HostBridge

structure Channel (ε : Type) where
  waiting : List ε
  dropped : Bool
deriving Inhabited

namespace Channel

variable {ε : Type}

def send? (event : ε) (c : Channel ε) : Option (Channel ε) :=
  if c.dropped then none else some { c with waiting := c.waiting ++ [event] }

end Channel

-- A subscriber that has dropped its receiver stays on the list until the next event finds it gone.
structure Hub (ε : Type) where
  channels : List (Channel ε)
  senders : List Nat
deriving Inhabited

namespace Hub

variable {ε : Type}

def empty : Hub ε := ⟨[], []⟩

def subscribe (h : Hub ε) : Hub ε × Nat :=
  (⟨h.channels ++ [⟨[], false⟩], h.senders ++ [h.channels.length]⟩, h.channels.length)

def sendAll (event : ε) : List Nat → List (Channel ε) → List (Channel ε) × List Nat
  | [], channels => (channels, [])
  | sender :: rest, channels =>
    match channels[sender]?.bind (Channel.send? event) with
    | some c =>
      let (channels, kept) := sendAll event rest (channels.set sender c)
      (channels, sender :: kept)
    | none => sendAll event rest channels

def publish (h : Hub ε) (event : ε) : Hub ε :=
  let (channels, senders) := sendAll event h.senders h.channels
  ⟨channels, senders⟩

def unsubscribe (h : Hub ε) (subscriber : Nat) : Hub ε :=
  { h with channels := h.channels.modify subscriber fun _ => ⟨[], true⟩ }

def inbox (h : Hub ε) (subscriber : Nat) : List ε :=
  match h.channels[subscriber]? with
  | some c => c.waiting
  | none => []

def receive (h : Hub ε) (subscriber : Nat) : Hub ε × Option ε :=
  ({ h with channels :=
      h.channels.modify subscriber fun c => { c with waiting := c.waiting.tail } },
    (h.inbox subscriber).head?)

def drain (h : Hub ε) (subscriber : Nat) : Hub ε × List ε :=
  ({ h with channels := h.channels.modify subscriber fun c => { c with waiting := [] } },
    h.inbox subscriber)

def subscriberCount (h : Hub ε) : Nat := h.senders.length

def diagnostic (h : Hub ε) : String := s!"AdEventHub \x7b subscribers: {h.subscriberCount} \x7d"

inductive Operation (ε : Type) where
  | subscribe
  | publish (event : ε)
  | receive (subscriber : Nat)
  | unsubscribe (subscriber : Nat)

def step (h : Hub ε) : Operation ε → Hub ε × Option ε
  | .subscribe => (h.subscribe.1, none)
  | .publish event => (h.publish event, none)
  | .receive subscriber => h.receive subscriber
  | .unsubscribe subscriber => (h.unsubscribe subscriber, none)

def run (h : Hub ε) : List (Operation ε) → Hub ε × List (Option ε)
  | [] => (h, [])
  | op :: rest =>
    let (h, seen) := h.step op
    let (h, others) := h.run rest
    (h, seen :: others)

end Hub

end HostBridge
