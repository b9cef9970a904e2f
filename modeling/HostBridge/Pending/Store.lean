import HostBridge.Error

set_option autoImplicit false

namespace HostBridge

-- A waker stands for all those that wake the same task.
abbrev Waker := Nat

structure Cell where
  outcome : Option Settlement
  wakers : List Waker
deriving Inhabited, Repr

namespace Cell

def fresh : Cell := ⟨none, []⟩

def isSettled (c : Cell) : Bool := c.outcome.isSome

def settle (c : Cell) (s : Settlement) : Cell × List Waker :=
  match c.outcome with
  | some _ => (c, [])
  | none => (⟨some s, []⟩, c.wakers)

def poll (c : Cell) (w : Waker) : Cell × Option Settlement :=
  match c.outcome with
  | some s => (c, some s)
  | none => (if w ∈ c.wakers then c else { c with wakers := c.wakers ++ [w] }, none)

theorem outcome_settle (c : Cell) (s : Settlement) :
    (c.settle s).1.outcome = some (c.outcome.getD s) := by
  unfold settle
  split <;> simp_all

theorem outcome_poll (c : Cell) (w : Waker) : (c.poll w).1.outcome = c.outcome := by
  unfold poll
  split
  · rfl
  · split <;> rfl

end Cell

abbrev PendingId := Nat

-- The identifier of a result is the position of its cell.
abbrev Pendings := List Cell

namespace Pendings

def create (ps : Pendings) : Pendings × PendingId := (ps ++ [Cell.fresh], ps.length)

def createSettled (ps : Pendings) (s : Settlement) : Pendings × PendingId :=
  (ps ++ [⟨some s, []⟩], ps.length)

def outcome? (ps : Pendings) (id : PendingId) : Option Settlement := ps[id]?.bind Cell.outcome

def settle (ps : Pendings) (id : PendingId) (s : Settlement) : Pendings × List Waker :=
  match ps[id]? with
  | some c =>
    let (c, woken) := c.settle s
    (ps.set id c, woken)
  | none => (ps, [])

def poll (ps : Pendings) (id : PendingId) (w : Waker) : Pendings × Option Settlement :=
  match ps[id]? with
  | some c =>
    let (c, seen) := c.poll w
    (ps.set id c, seen)
  | none => (ps, none)

def diagnostic (ps : Pendings) (id : PendingId) : String :=
  let settled := (ps.outcome? id).isSome
  s!"PendingResult \x7b id: PendingId(_), settled: {settled} \x7d"

def resolverDiagnostic : String := "Resolver \x7b id: PendingId(_) \x7d"

theorem outcome_settle_self (ps : Pendings) (id : PendingId) (s : Settlement)
    (made : id < ps.length) :
    (ps.settle id s).1.outcome? id = some ((ps.outcome? id).getD s) := by
  simp only [settle, outcome?, List.getElem?_eq_getElem made]
  simp [List.getElem?_set_self made, Cell.outcome_settle]

theorem outcome_settle_other (ps : Pendings) (id other : PendingId) (s : Settlement)
    (differ : other ≠ id) : (ps.settle id s).1.outcome? other = ps.outcome? other := by
  unfold settle
  split
  · simp [outcome?, List.getElem?_set_ne (Ne.symm differ)]
  · rfl

end Pendings

end HostBridge

namespace HostBridge.Pending

structure Resolver where
  result : PendingId
  used : Bool
deriving Inhabited

namespace Resolver

def fresh (id : PendingId) : Resolver := ⟨id, false⟩

def drop (r : Resolver) (ps : Pendings) : Pendings × List Waker :=
  if r.used then (ps, []) else ps.settle r.result (.error .abandoned)

-- The resolver is marked first, since it is dropped once its result is settled.
def settle (r : Resolver) (outcome : Settlement) (ps : Pendings) : Pendings × List Waker :=
  let marked := { r with used := true }
  let (ps, woken) := ps.settle marked.result outcome
  let (ps, others) := marked.drop ps
  (ps, woken ++ others)

theorem settle_eq (r : Resolver) (outcome : Settlement) (ps : Pendings) :
    r.settle outcome ps = ps.settle r.result outcome := by
  simp [settle, drop]

theorem drop_unused (r : Resolver) (unused : r.used = false) (ps : Pendings) :
    r.drop ps = ps.settle r.result (.error .abandoned) := by
  simp [drop, unused]

end Resolver

end HostBridge.Pending
