import HostBridge.Pending.Store

set_option autoImplicit false

namespace HostBridge.Pending

structure Session where
  results : Pendings
  handles : List (Option PendingId)
  resolvers : List (Option Resolver)
  wakes : List Nat
deriving Inhabited

inductive Operation where
  | create
  | resolved (v : Value)
  | rejected (f : Failure)
  | clone (handle : Nat)
  | dropHandle (handle : Nat)
  | resolve (resolver : Nat) (v : Value)
  | reject (resolver : Nat) (f : Failure)
  | settle (resolver : Nat) (s : Settlement)
  | dropResolver (resolver : Nat)
  | isSettled (handle : Nat)
  | look (handle : Nat)
  | poll (handle : Nat) (waker : Waker)

inductive Answer where
  | made (handle resolver : Nat)
  | handle (handle : Nat)
  | had (there : Bool)
  | seen (outcome : Option Settlement)
  | done

namespace Session

def empty : Session := ⟨[], [], [], []⟩

def resultOf? (s : Session) (handle : Nat) : Option PendingId := s.handles[handle]?.join

def outcome? (s : Session) (handle : Nat) : Option Settlement :=
  (s.resultOf? handle).bind s.results.outcome?

def wake (wakes : List Nat) (w : Waker) : List Nat := wakes.modify w (· + 1)

def withWaker (s : Session) (w : Waker) : Session :=
  { s with wakes := s.wakes ++ List.replicate (w + 1 - s.wakes.length) 0 }

def addHandle (s : Session) (results : Pendings) (id : PendingId) : Session × Answer :=
  ({ s with results := results, handles := s.handles ++ [some id] }, .handle s.handles.length)

def addSettled (s : Session) (outcome : Settlement) : Session × Answer :=
  let (results, id) := s.results.create
  let (results, _) := (Resolver.fresh id).settle outcome results
  s.addHandle results id

def resolver? (s : Session) (resolver : Nat) : Option Resolver := s.resolvers[resolver]?.join

def consume (s : Session) (resolver : Nat)
    (act : Resolver → Pendings → Pendings × List Waker) : Session × Answer :=
  match s.resolver? resolver with
  | none => (s, .had false)
  | some r =>
    let (results, woken) := act r s.results
    ({ s with
        results := results
        resolvers := s.resolvers.set resolver none
        wakes := woken.foldl wake s.wakes },
      .had true)

def step (s : Session) : Operation → Session × Answer
  | .create =>
    let (results, id) := s.results.create
    ({ s with
        results := results
        handles := s.handles ++ [some id]
        resolvers := s.resolvers ++ [some (Resolver.fresh id)] },
      .made s.handles.length s.resolvers.length)
  | .resolved v => s.addSettled (.ok v)
  | .rejected f => s.addSettled (.error f)
  | .clone handle =>
    match s.resultOf? handle with
    | some id => s.addHandle s.results id
    | none => (s, .done)
  | .dropHandle handle => ({ s with handles := s.handles.set handle none }, .done)
  | .resolve resolver v => s.consume resolver fun r => r.settle (.ok v)
  | .reject resolver f => s.consume resolver fun r => r.settle (.error f)
  | .settle resolver outcome => s.consume resolver fun r => r.settle outcome
  | .dropResolver resolver => s.consume resolver Resolver.drop
  | .isSettled handle => (s, .had (s.outcome? handle).isSome)
  | .look handle => (s, .seen (s.outcome? handle))
  | .poll handle w =>
    let s := s.withWaker w
    match s.resultOf? handle with
    | none => (s, .seen none)
    | some id =>
      let (results, seen) := s.results.poll id w
      ({ s with results := results }, .seen seen)

def run (s : Session) : List Operation → Session × List Answer
  | [] => (s, [])
  | op :: rest =>
    let (s, answer) := s.step op
    let (s, answers) := s.run rest
    (s, answer :: answers)

end Session

end HostBridge.Pending
