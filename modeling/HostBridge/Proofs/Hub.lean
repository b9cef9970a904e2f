import HostBridge.Hub

set_option autoImplicit false

namespace HostBridge.Hub

variable {ε : Type}

namespace Operation

def arrives : Operation ε → Bool
  | subscribe => true
  | _ => false

def event? : Operation ε → Option ε
  | publish event => some event
  | _ => none

def receives (number : Nat) : Operation ε → Bool
  | receive subscriber => subscriber == number
  | _ => false

def leaves (number : Nat) : Operation ε → Bool
  | unsubscribe subscriber => subscriber == number
  | _ => false

end Operation

-- What was done with a hub, and what each attempt to receive brought. All handles of a hub share
-- its subscribers, so it does not matter through which of them an operation came.
abbrev History (ε : Type) := List (Operation ε × Option ε)

def history (h : Hub ε) (ops : List (Operation ε)) : History ε := ops.zip (h.run ops).2

def arrivals (past : History ε) : Nat := past.countP fun entry => entry.1.arrives

def sinceArrival : History ε → History ε
  | [] => []
  | (op, _) :: rest => if op.arrives then rest else sinceArrival rest

def since : Nat → History ε → History ε
  | 0, past => sinceArrival past
  | later + 1, past => sinceArrival (since later past)

def published (past : History ε) : List ε := past.filterMap fun entry => entry.1.event?

def attempts (number : Nat) (past : History ε) : List (Option ε) :=
  (past.filter fun entry => entry.1.receives number).map Prod.snd

def received (number : Nat) (past : History ε) : List ε := (attempts number past).reduceOption

def hasLeft (number : Nat) (past : History ε) : Bool := past.any fun entry => entry.1.leaves number

def isForgotten (number : Nat) : History ε → Bool
  | [] => false
  | (op, _) :: rest => op.leaves number && !(published rest).isEmpty || isForgotten number rest

section History

variable (number : Nat) (past : History ε) (op : Operation ε) (got : Option ε)

theorem arrivals_push : arrivals (past ++ [(op, got)]) =
    arrivals past + if op.arrives then 1 else 0 := by
  simp [arrivals, List.countP_cons]

theorem published_push : published (past ++ [(op, got)]) = published past ++ op.event?.toList := by
  cases event : op.event? <;> simp [published, event]

theorem has_left_push : hasLeft number (past ++ [(op, got)]) =
    (hasLeft number past || op.leaves number) := by
  simp [hasLeft]

theorem received_eq : received number past = (attempts number past).filterMap id := rfl

theorem received_push : received number (past ++ [(op, got)]) =
    received number past ++ if op.receives number then got.toList else [] := by
  by_cases own : op.receives number = true
  · cases got <;> simp [received_eq, attempts, own]
  · simp [received_eq, attempts, own]

theorem is_forgotten_push : isForgotten number (past ++ [(op, got)]) =
    (isForgotten number past || hasLeft number past && op.event?.isSome) := by
  induction past with
  | nil => simp [isForgotten, hasLeft, published]
  | cons entry rest ih =>
    obtain ⟨first, answer⟩ := entry
    have left : hasLeft number ((first, answer) :: rest) =
        (first.leaves number || hasLeft number rest) := List.any_cons
    rw [List.cons_append, isForgotten, isForgotten, ih, published_push, left]
    cases first.leaves number <;> cases op.event? <;> cases hasLeft number rest <;> simp

theorem not_forgotten (stays : hasLeft number past = false) : isForgotten number past = false := by
  induction past with
  | nil => rfl
  | cons entry rest ih =>
    obtain ⟨first, answer⟩ := entry
    have both : first.leaves number = false ∧ hasLeft number rest = false := by
      simpa [hasLeft] using stays
    simp [isForgotten, both.1, ih both.2]

theorem since_arrival_suffix : sinceArrival past <:+ past := by
  induction past with
  | nil => exact List.suffix_refl []
  | cons entry rest ih =>
    obtain ⟨first, answer⟩ := entry
    unfold sinceArrival
    split
    · exact List.suffix_cons _ rest
    · exact ih.trans (List.suffix_cons _ rest)

theorem arrivals_since_arrival : arrivals (sinceArrival past) = arrivals past - 1 := by
  induction past with
  | nil => rfl
  | cons entry rest ih =>
    obtain ⟨first, answer⟩ := entry
    by_cases arrives : first.arrives = true
    · simp [sinceArrival, arrivals, arrives]
    · simpa [sinceArrival, arrivals, arrives] using ih

theorem since_arrival_push (come : 0 < arrivals past) :
    sinceArrival (past ++ [(op, got)]) = sinceArrival past ++ [(op, got)] := by
  induction past with
  | nil => cases come
  | cons entry rest ih =>
    obtain ⟨first, answer⟩ := entry
    by_cases arrives : first.arrives = true
    · simp [sinceArrival, arrives]
    · have later : 0 < arrivals rest := by simpa [arrivals, arrives] using come
      simp [sinceArrival, arrives, ih later]

theorem since_first_arrival (nobody : arrivals past = 0) (arrives : op.arrives = true) :
    sinceArrival (past ++ [(op, got)]) = [] := by
  induction past with
  | nil => simp [sinceArrival, arrives]
  | cons entry rest ih =>
    obtain ⟨first, answer⟩ := entry
    by_cases before : first.arrives = true
    · simp [arrivals, before] at nobody
    · have still : arrivals rest = 0 := by simpa [arrivals, before] using nobody
      simp [sinceArrival, before, ih still]

theorem arrivals_since : arrivals (since number past) = arrivals past - (number + 1) := by
  induction number with
  | zero => exact arrivals_since_arrival past
  | succ number ih =>
    rw [since, arrivals_since_arrival, ih]
    omega

theorem since_push (come : number < arrivals past) :
    since number (past ++ [(op, got)]) = since number past ++ [(op, got)] := by
  induction number with
  | zero => exact since_arrival_push past op got come
  | succ number ih =>
    have left : 0 < arrivals (since number past) := by
      rw [arrivals_since]
      omega
    rw [since, ih (Nat.lt_of_succ_lt come), since_arrival_push _ op got left, since]

theorem since_new (arrives : op.arrives = true) :
    since (arrivals past) (past ++ [(op, got)]) = [] := by
  cases count : arrivals past with
  | zero => exact since_first_arrival past op got count arrives
  | succ number =>
    have none : arrivals (since number past) = 0 := by
      rw [arrivals_since]
      omega
    rw [since, since_push number past op got (by omega)]
    exact since_first_arrival _ op got none arrives

theorem since_suffix (later : Nat) (order : number ≤ later) :
    since later past <:+ since number past := by
  induction order with
  | refl => exact List.suffix_refl _
  | step _ ih => exact (since_arrival_suffix _).trans ih

end History

structure Sound (h : Hub ε) : Prop where
  distinct : h.senders.Nodup
  known : ∀ sender ∈ h.senders, sender < h.channels.length

section SendAll

variable (event : ε) (senders : List Nat) (channels : List (Channel ε))

theorem send_all_length : (sendAll event senders channels).1.length = channels.length := by
  induction senders generalizing channels with
  | nil => rfl
  | cons sender rest ih =>
    unfold sendAll
    split
    · exact (ih _).trans List.length_set
    · exact ih channels

theorem send_all_other (number : Nat) (outside : number ∉ senders) :
    (sendAll event senders channels).1[number]? = channels[number]? := by
  induction senders generalizing channels with
  | nil => rfl
  | cons sender rest ih =>
    have apart : sender ≠ number := fun same => outside (same ▸ List.mem_cons_self)
    have later : number ∉ rest := fun among => outside (List.mem_cons_of_mem sender among)
    unfold sendAll
    split
    · rw [ih _ later, List.getElem?_set_ne apart]
    · exact ih channels later

theorem send_all_served (distinct : senders.Nodup) (number : Nat) (listed : number ∈ senders) :
    (sendAll event senders channels).1[number]? =
      channels[number]?.map fun c => (c.send? event).getD c := by
  induction senders generalizing channels with
  | nil => cases listed
  | cons sender rest ih =>
    obtain ⟨apart, others⟩ := List.nodup_cons.1 distinct
    unfold sendAll
    by_cases first : number = sender
    · subst first
      split
      · next c sent =>
        obtain ⟨held, there, sending⟩ := Option.bind_eq_some_iff.1 sent
        have bound := (List.getElem?_eq_some_iff.1 there).1
        rw [send_all_other event rest _ number apart, List.getElem?_set_self bound, there]
        simp [sending]
      · next unsent =>
        rw [send_all_other event rest channels number apart]
        cases there : channels[number]? with
        | none => rfl
        | some held =>
          have refused : held.send? event = none := by simpa [there] using unsent
          simp [refused]
    · have later : number ∈ rest := (List.mem_cons.1 listed).resolve_left first
      split
      · rw [ih _ others later, List.getElem?_set_ne (Ne.symm first)]
      · exact ih channels others later

theorem send_all_kept (distinct : senders.Nodup) : (sendAll event senders channels).2 =
    senders.filter fun sender => (channels[sender]?.bind (Channel.send? event)).isSome := by
  induction senders generalizing channels with
  | nil => rfl
  | cons sender rest ih =>
    obtain ⟨apart, others⟩ := List.nodup_cons.1 distinct
    unfold sendAll
    split
    · next c sent =>
      rw [List.filter_cons, if_pos (by rw [sent]; rfl)]
      refine congrArg _ ((ih _ others).trans (List.filter_congr fun other among => ?_))
      have differ : sender ≠ other := fun same => apart (same ▸ among)
      rw [List.getElem?_set_ne differ]
    · next unsent =>
      rw [List.filter_cons, if_neg (by rw [unsent]; exact Bool.false_ne_true)]
      exact ih channels others

end SendAll

def Operation.effect (number : Nat) (listed : Bool) (op : Operation ε) (c : Channel ε) :
    Channel ε :=
  match op with
  | .subscribe => c
  | .publish event => if listed then (c.send? event).getD c else c
  | .receive _ => if op.receives number then { c with waiting := c.waiting.tail } else c
  | .unsubscribe _ => if op.leaves number then ⟨[], true⟩ else c

theorem step_channels (h : Hub ε) (sound : Sound h) (op : Operation ε) (number : Nat)
    (c : Channel ε) (there : h.channels[number]? = some c) :
    (h.step op).1.channels[number]? = some (op.effect number (number ∈ h.senders) c) := by
  cases op with
  | subscribe =>
    have bound := (List.getElem?_eq_some_iff.1 there).1
    simpa [step, subscribe, Operation.effect, List.getElem?_append_left bound] using there
  | publish event =>
    by_cases listed : number ∈ h.senders
    · simp [step, publish, Operation.effect, listed, there,
        send_all_served event h.senders h.channels sound.distinct number listed]
    · simp [step, publish, Operation.effect, listed, there,
        send_all_other event h.senders h.channels number listed]
  | receive subscriber =>
    by_cases own : subscriber = number <;>
      simp [step, receive, Operation.effect, Operation.receives, there, own]
  | unsubscribe subscriber =>
    by_cases own : subscriber = number <;>
      simp [step, unsubscribe, Operation.effect, Operation.leaves, there, own]

theorem step_newcomer (h : Hub ε) (op : Operation ε) (number : Nat)
    (nobody : h.channels[number]? = none) :
    (h.step op).1.channels[number]? =
      if op.arrives ∧ number = h.channels.length then some ⟨[], false⟩ else none := by
  have beyond : h.channels.length ≤ number := List.getElem?_eq_none_iff.1 nobody
  cases op with
  | subscribe =>
    by_cases next : number = h.channels.length
    · simp [step, subscribe, Operation.arrives, next]
    · simp [step, subscribe, Operation.arrives, next]
      omega
  | publish event =>
    simp [step, publish, Operation.arrives, send_all_length, beyond]
  | _ => simp [step, receive, unsubscribe, Operation.arrives, beyond]

theorem step_length (h : Hub ε) (op : Operation ε) : (h.step op).1.channels.length =
    h.channels.length + if op.arrives then 1 else 0 := by
  cases op <;>
    simp [step, subscribe, publish, receive, unsubscribe, Operation.arrives, send_all_length]

theorem step_senders (h : Hub ε) (sound : Sound h) (op : Operation ε) :
    (h.step op).1.senders =
      match op with
      | .subscribe => h.senders ++ [h.channels.length]
      | .publish event =>
        h.senders.filter fun sender => (h.channels[sender]?.bind (Channel.send? event)).isSome
      | _ => h.senders := by
  cases op with
  | publish event => exact send_all_kept event h.senders h.channels sound.distinct
  | _ => rfl

theorem Sound.step {h : Hub ε} (sound : Sound h) (op : Operation ε) : Sound (h.step op).1 := by
  refine ⟨?_, fun sender listed => ?_⟩
  · rw [step_senders h sound op]
    cases op with
    | subscribe =>
      refine List.nodup_append.2 ⟨sound.distinct, by simp, fun sender listed other last => ?_⟩
      rw [List.mem_singleton.1 last]
      exact Nat.ne_of_lt (sound.known sender listed)
    | publish event => exact sound.distinct.filter _
    | _ => exact sound.distinct
  · rw [step_senders h sound op] at listed
    rw [step_length]
    cases op with
    | subscribe =>
      rcases List.mem_append.1 listed with old | new
      · exact Nat.lt_succ_of_lt (sound.known sender old)
      · rw [List.mem_singleton.1 new]
        exact Nat.lt_succ_self _
    | publish event => exact sound.known sender (List.mem_filter.1 listed).1
    | _ => exact sound.known sender listed

theorem step_got (h : Hub ε) (op : Operation ε) (number : Nat) (own : op.receives number = true) :
    (h.step op).2 = (h.inbox number).head? := by
  cases op with
  | receive subscriber =>
    have same : subscriber = number := by simpa [Operation.receives] using own
    simp [step, receive, same]
  | _ => cases own

theorem inbox_of_channel (h : Hub ε) (number : Nat) (c : Channel ε)
    (there : h.channels[number]? = some c) : h.inbox number = c.waiting := by
  simp [inbox, there]

-- How the channel of a subscriber stands after all that came after it. What it was handed once
-- nobody could receive from it any more does not matter.
structure Served (number : Nat) (c : Channel ε) (after : History ε) : Prop where
  dropped : c.dropped = hasLeft number after
  whole : hasLeft number after = false →
    received number after ++ c.waiting = published after

namespace Served

variable {number : Nat} {c : Channel ε} {after : History ε}

theorem new (number : Nat) : Served number (⟨[], false⟩ : Channel ε) [] := ⟨rfl, fun _ => rfl⟩

theorem published (served : Served number c after) (event : ε) (got : Option ε) :
    Served number (if !isForgotten number after then (c.send? event).getD c else c)
      (after ++ [(.publish event, got)]) := by
  have left : hasLeft number (after ++ [(.publish event, got)]) = hasLeft number after := by
    simp [has_left_push, Operation.leaves]
  by_cases gone : hasLeft number after = true
  · have unsent : (c.send? event).getD c = c := by simp [Channel.send?, served.dropped, gone]
    rw [unsent, ite_self]
    refine ⟨left ▸ served.dropped, fun stays => ?_⟩
    rw [left, gone] at stays
    cases stays
  · have stays : hasLeft number after = false := by simpa using gone
    have sent : (c.send? event).getD c = { c with waiting := c.waiting ++ [event] } := by
      simp [Channel.send?, served.dropped, stays]
    have unforgotten : (!isForgotten number after) = true := by
      rw [not_forgotten number after stays]
      rfl
    rw [if_pos unforgotten, sent]
    refine ⟨left ▸ served.dropped, fun _ => ?_⟩
    rw [received_push, published_push, ← served.whole stays]
    simp [Operation.receives, Operation.event?]

theorem quiet (served : Served number c after) (waiting : List ε) (op : Operation ε)
    (got : Option ε) (unpublished : op.event? = none) (stays : op.leaves number = false)
    (same : (if op.receives number then got.toList else []) ++ waiting = c.waiting) :
    Served number { c with waiting := waiting } (after ++ [(op, got)]) := by
  have left : hasLeft number (after ++ [(op, got)]) = hasLeft number after := by
    simp [has_left_push, stays]
  refine ⟨left ▸ served.dropped, fun here => ?_⟩
  rw [left] at here
  rw [received_push, published_push, unpublished, List.append_assoc, same, served.whole here]
  exact (List.append_nil _).symm

theorem step (served : Served number c after) (op : Operation ε) (got : Option ε)
    (brought : op.receives number = true → got = c.waiting.head?) :
    Served number (op.effect number (!isForgotten number after) c) (after ++ [(op, got)]) := by
  cases op with
  | subscribe => exact served.quiet c.waiting .subscribe got rfl rfl rfl
  | publish event => exact served.published event got
  | receive subscriber =>
    by_cases own : (Operation.receive subscriber : Operation ε).receives number = true
    · have taken : (if (Operation.receive subscriber : Operation ε).receives number then got.toList
          else []) ++ c.waiting.tail = c.waiting := by
        rw [if_pos own, brought own]
        cases c.waiting <;> rfl
      have after := served.quiet c.waiting.tail (.receive subscriber) got rfl rfl taken
      simpa only [Operation.effect, if_pos own] using after
    · have after := served.quiet c.waiting (.receive subscriber) got rfl rfl (by simp [own])
      simpa only [Operation.effect, if_neg own] using after
  | unsubscribe subscriber =>
    by_cases own : (Operation.unsubscribe subscriber : Operation ε).leaves number = true
    · simp only [Operation.effect, if_pos own]
      refine ⟨by simp [has_left_push, own], fun stays => ?_⟩
      simp [has_left_push, own] at stays
    · have after := served.quiet c.waiting (.unsubscribe subscriber) got rfl
        (Bool.eq_false_iff.2 own) rfl
      simpa only [Operation.effect, if_neg own] using after

end Served

def remembered (past : History ε) : List Nat :=
  (List.range (arrivals past)).filter fun number => !isForgotten number (since number past)

theorem remembered_push (past : History ε) (op : Operation ε) (got : Option ε) :
    remembered (past ++ [(op, got)]) =
      ((remembered past).filter fun number =>
          !(hasLeft number (since number past) && op.event?.isSome)) ++
        if op.arrives then [arrivals past] else [] := by
  have old : ((List.range (arrivals past)).filter fun number =>
        !isForgotten number (since number (past ++ [(op, got)]))) =
      (remembered past).filter fun number =>
        !(hasLeft number (since number past) && op.event?.isSome) := by
    rw [remembered, List.filter_filter]
    refine List.filter_congr fun number come => ?_
    rw [since_push number past op got (List.mem_range.1 come), is_forgotten_push, Bool.not_or,
      Bool.and_comm]
  rw [← old, remembered, arrivals_push]
  by_cases arrives : op.arrives = true
  · have new : isForgotten (arrivals past) (since (arrivals past) (past ++ [(op, got)])) = false :=
      by rw [since_new past op got arrives]; rfl
    simp [arrives, List.range_succ, new]
  · simp [arrives]

structure Attended (h : Hub ε) (past : History ε) : Prop where
  counted : h.channels.length = arrivals past
  listed : h.senders = remembered past
  served : ∀ (number : Nat) (c : Channel ε), h.channels[number]? = some c →
    Served number c (since number past)

namespace Attended

variable {h : Hub ε} {past : History ε}

theorem sound (attended : Attended h past) : Sound h := by
  refine ⟨?_, fun sender listed => ?_⟩
  · rw [attended.listed]
    exact List.nodup_range.filter _
  · rw [attended.listed] at listed
    rw [attended.counted]
    exact List.mem_range.1 (List.mem_filter.1 listed).1

theorem listed_iff (attended : Attended h past) (number : Nat) (come : number < arrivals past) :
    decide (number ∈ h.senders) = !isForgotten number (since number past) := by
  simp [attended.listed, remembered, come]

theorem reachable (attended : Attended h past) (event : ε) (number : Nat)
    (come : number < arrivals past) :
    (h.channels[number]?.bind (Channel.send? event)).isSome =
      !hasLeft number (since number past) := by
  have bound : number < h.channels.length := by rwa [attended.counted]
  have found := List.getElem?_eq_getElem bound
  rw [found, Option.bind_some, Channel.send?, ← (attended.served number _ found).dropped]
  cases h.channels[number].dropped <;> rfl

theorem step_remembered (attended : Attended h past) (op : Operation ε) (got : Option ε) :
    (h.step op).1.senders = remembered (past ++ [(op, got)]) := by
  rw [step_senders h attended.sound op, remembered_push, attended.listed, attended.counted]
  cases op with
  | publish event =>
    simp only [Operation.arrives, Operation.event?, Option.isSome_some, Bool.and_true,
      Bool.false_eq_true, if_false, List.append_nil]
    refine List.filter_congr fun number listed => ?_
    exact attended.reachable event number (List.mem_range.1 (List.mem_filter.1 listed).1)
  | _ =>
    have all : ((remembered past).filter fun _ => true) = remembered past :=
      List.filter_eq_self.2 fun _ _ => rfl
    simp [Operation.arrives, Operation.event?, all]

theorem step (attended : Attended h past) (op : Operation ε) :
    Attended (h.step op).1 (past ++ [(op, (h.step op).2)]) := by
  refine ⟨?_, attended.step_remembered op _, fun number c there => ?_⟩
  · rw [step_length, attended.counted, arrivals_push]
  · by_cases old : number < arrivals past
    · have before : number < h.channels.length := by rwa [attended.counted]
      have found : h.channels[number]? = some h.channels[number] :=
        List.getElem?_eq_getElem before
      rw [step_channels h attended.sound op number _ found, attended.listed_iff number old,
        Option.some.injEq] at there
      rw [since_push number past op _ old, ← there]
      refine (attended.served number _ found).step op _ fun own => ?_
      rw [step_got h op number own, inbox_of_channel h number _ found]
    · have nobody : h.channels[number]? = none := by
        rw [List.getElem?_eq_none_iff, attended.counted]
        exact Nat.le_of_not_lt old
      rw [step_newcomer h op number nobody] at there
      split at there
      · next arrived =>
        cases there
        rw [arrived.2, attended.counted, since_new past op _ arrived.1]
        exact Served.new (arrivals past)
      · cases there

theorem run (attended : Attended h past) (ops : List (Operation ε)) :
    Attended (h.run ops).1 (past ++ history h ops) := by
  induction ops generalizing h past with
  | nil => simpa [Hub.run, history] using attended
  | cons op rest ih =>
    have after := ih (attended.step op)
    rwa [List.append_assoc] at after

end Attended

structure Alike (apart : Nat) (h other : Hub ε) : Prop where
  length : h.channels.length = other.channels.length
  channels : ∀ number : Nat, number ≠ apart → h.channels[number]? = other.channels[number]?
  senders : ∀ number, number ≠ apart → (number ∈ h.senders ↔ number ∈ other.senders)

def Operation.isOf (number : Nat) (op : Operation ε) : Bool :=
  op.receives number || op.leaves number

namespace Alike

variable {apart : Nat} {h other : Hub ε}

theorem inbox (alike : Alike apart h other) (number : Nat) (differ : number ≠ apart) :
    h.inbox number = other.inbox number := by
  simp only [Hub.inbox, alike.channels number differ]

theorem own (alike : Alike apart h other) (op : Operation ε) (own : op.isOf apart = true) :
    Alike apart (h.step op).1 other := by
  cases op with
  | receive subscriber =>
    have same : subscriber = apart := by
      simpa [Operation.isOf, Operation.receives, Operation.leaves] using own
    refine ⟨?_, fun number differ => ?_, alike.senders⟩
    · simpa [Hub.step, receive] using alike.length
    · rw [← alike.channels number differ]
      simp [Hub.step, receive, same, Ne.symm differ]
  | unsubscribe subscriber =>
    have same : subscriber = apart := by
      simpa [Operation.isOf, Operation.receives, Operation.leaves] using own
    refine ⟨?_, fun number differ => ?_, alike.senders⟩
    · simpa [Hub.step, unsubscribe] using alike.length
    · rw [← alike.channels number differ]
      simp [Hub.step, unsubscribe, same, Ne.symm differ]
  | _ => cases own

theorem step (alike : Alike apart h other) (sound : Sound h) (others : Sound other)
    (op : Operation ε) : Alike apart (h.step op).1 (other.step op).1 ∧
      ∀ number, number ≠ apart → op.receives number = true →
        (h.step op).2 = (other.step op).2 := by
  refine ⟨⟨?_, fun number differ => ?_, fun number differ => ?_⟩, fun number differ own => ?_⟩
  · rw [step_length, step_length, alike.length]
  · have same := alike.channels number differ
    cases there : h.channels[number]? with
    | some c =>
      rw [step_channels h sound op number c there,
        step_channels other others op number c (same.symm.trans there)]
      simp only [alike.senders number differ]
    | none =>
      rw [step_newcomer h op number there, step_newcomer other op number (same.symm.trans there),
        alike.length]
  · rw [step_senders h sound, step_senders other others]
    cases op with
    | subscribe => simp [alike.senders number differ, alike.length]
    | publish event => simp [alike.senders number differ, alike.channels number differ]
    | _ => exact alike.senders number differ
  · rw [step_got h op number own, step_got other op number own, alike.inbox number differ]

theorem run (alike : Alike apart h other) (sound : Sound h) (others : Sound other)
    (ops : List (Operation ε)) :
    Alike apart (h.run ops).1 (other.run (ops.filter fun op => !op.isOf apart)).1 ∧
      ∀ number, number ≠ apart → attempts number (history h ops) =
        attempts number (history other (ops.filter fun op => !op.isOf apart)) := by
  induction ops generalizing h other with
  | nil => exact ⟨alike, fun _ _ => rfl⟩
  | cons op rest ih =>
    by_cases own : op.isOf apart = true
    · obtain ⟨later, answers⟩ := ih (alike.own op own) (sound.step op) others
      have kept : ((op :: rest).filter fun op => !op.isOf apart) =
          rest.filter fun op => !op.isOf apart := by simp [own]
      rw [kept]
      refine ⟨later, fun number differ => ?_⟩
      have foreign : op.receives number = false := by
        refine Bool.eq_false_iff.2 fun receives => ?_
        cases op with
        | receive subscriber =>
          simp [Operation.isOf, Operation.receives, Operation.leaves] at own receives
          exact differ (receives.symm.trans own)
        | _ => cases receives
      rw [← answers number differ]
      simp [attempts, history, Hub.run, foreign]
    · obtain ⟨next, same⟩ := alike.step sound others op
      obtain ⟨later, answers⟩ := ih next (sound.step op) (others.step op)
      have kept : ((op :: rest).filter fun op => !op.isOf apart) =
          op :: rest.filter fun op => !op.isOf apart := by simp [own]
      rw [kept]
      refine ⟨later, fun number differ => ?_⟩
      have after := answers number differ
      by_cases receives : op.receives number = true
      · have first := same number differ receives
        simp only [attempts, history, Hub.run, List.zip_cons_cons, List.filter_cons, receives,
          if_true, List.map_cons, List.cons.injEq] at after ⊢
        exact ⟨first, after⟩
      · simpa [attempts, history, Hub.run, receives] using after

end Alike

/-- What is known of the subscribers after anything that was done with a hub. -/
structure Deliveries (h : Hub ε) (past : History ε) : Prop where
  whole : ∀ number < arrivals past, hasLeft number (since number past) = false →
    received number (since number past) ++ h.inbox number = published (since number past)
  nested : ∀ early late, early ≤ late → late < arrivals past →
    hasLeft early (since early past) = false → hasLeft late (since late past) = false →
      received late (since late past) ++ h.inbox late <:+
        received early (since early past) ++ h.inbox early
  counted : h.subscriberCount =
    (List.range (arrivals past)).countP fun number => !isForgotten number (since number past)

theorem Attended.deliveries {h : Hub ε} {past : History ε} (attended : Attended h past) :
    Deliveries h past := by
  have whole : ∀ number < arrivals past, hasLeft number (since number past) = false →
      received number (since number past) ++ h.inbox number = published (since number past) := by
    intro number come stays
    have bound : number < h.channels.length := by rwa [attended.counted]
    have there := List.getElem?_eq_getElem bound
    rw [inbox_of_channel h number _ there]
    exact (attended.served number _ there).whole stays
  refine ⟨whole, fun early late order come stays remains => ?_, ?_⟩
  · rw [whole early (Nat.lt_of_le_of_lt order come) stays, whole late come remains]
    exact (since_suffix early past late order).filterMap _
  · rw [subscriberCount, attended.listed, remembered, List.countP_eq_length_filter]

theorem events_reach_all_who_stay (ops : List (Operation ε)) :
    Deliveries (empty.run ops).1 (history empty ops) ∧
      ∀ apart number, number ≠ apart →
        attempts number (history empty ops) =
            attempts number (history empty (ops.filter fun op => !op.isOf apart)) ∧
          (empty.run ops).1.inbox number =
            (empty.run (ops.filter fun op => !op.isOf apart)).1.inbox number := by
  have none : Attended (empty : Hub ε) [] := ⟨rfl, rfl, fun number c there => by cases there⟩
  refine ⟨(none.run ops).deliveries, fun apart number differ => ?_⟩
  have same : Alike apart (empty : Hub ε) empty := ⟨rfl, fun _ _ => rfl, fun _ _ => Iff.rfl⟩
  obtain ⟨alike, answers⟩ := same.run none.sound none.sound ops
  exact ⟨answers number differ, alike.inbox number differ⟩

-- A subscriber that is gone is counted until something is published.
example :
    ((empty : Hub Nat).run [.subscribe, .subscribe, .unsubscribe 0]).1.subscriberCount = 2 ∧
      ((empty : Hub Nat).run
        [.subscribe, .subscribe, .unsubscribe 0, .publish 7]).1.subscriberCount = 1 :=
  ⟨rfl, rfl⟩

end HostBridge.Hub
