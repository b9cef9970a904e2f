import HostBridge.Proofs.Pending.Turn

set_option autoImplicit false

namespace HostBridge.Pending

theorem get_push {β : Type} (items : List β) (new : β) (n : Nat) (differ : n ≠ items.length) :
    (items ++ [new])[n]? = items[n]? := by
  rcases Nat.lt_or_gt_of_ne differ with old | beyond
  · exact List.getElem?_append_left old
  · have outside : (items ++ [new]).length ≤ n := by
      rw [List.length_append]
      exact beyond
    rw [List.getElem?_eq_none outside, List.getElem?_eq_none (Nat.le_of_lt beyond)]

section Slots

variable {α : Type} (slots : List (Option α))

theorem slot_push (new x : α) (n : Nat) : (slots ++ [some new])[n]?.join = some x ↔
    slots[n]?.join = some x ∨ n = slots.length ∧ new = x := by
  by_cases differ : n = slots.length
  · subst differ
    simp
  · rw [get_push slots (some new) n differ]
    simp [differ]

theorem slot_clear (cleared n : Nat) (x : α) : (slots.set cleared none)[n]?.join = some x ↔
    n ≠ cleared ∧ slots[n]?.join = some x := by
  by_cases same : n = cleared
  · subst same
    by_cases bound : n < slots.length
    · simp [List.getElem?_set_self bound]
    · simp [Nat.le_of_not_lt bound]
  · simp [List.getElem?_set_ne (Ne.symm same), same]

end Slots

section Results

variable (ps : Pendings)

theorem outcome_push_old (cell : Cell) (id : PendingId) (made : id < ps.length) :
    Pendings.outcome? (ps ++ [cell]) id = ps.outcome? id := by
  simp only [Pendings.outcome?, List.getElem?_append_left made]

theorem outcome_push_new (cell : Cell) :
    Pendings.outcome? (ps ++ [cell]) ps.length = cell.outcome := by
  simp [Pendings.outcome?]

theorem settle_length (id : PendingId) (outcome : Settlement) :
    (ps.settle id outcome).1.length = ps.length := by
  unfold Pendings.settle
  split
  · exact List.length_set
  · rfl

theorem settle_other (id other : PendingId) (outcome : Settlement) (differ : other ≠ id) :
    (ps.settle id outcome).1[other]? = ps[other]? := by
  unfold Pendings.settle
  split
  · exact List.getElem?_set_ne (Ne.symm differ)
  · rfl

end Results

variable {s later : Session} {op : Operation} {answer : Answer}

theorem Session.Sound.empty : Session.empty.Sound := by
  refine ⟨fun handle id held => ?_, fun number r there => ?_, fun number r there => ?_,
    fun number other r twin there => ?_, fun id made => ?_⟩
  · simp [Session.empty, Session.resultOf?] at held
  · simp [Session.empty, Session.resolver?] at there
  · simp [Session.empty, Session.resolver?] at there
  · simp [Session.empty, Session.resolver?] at there
  · simp [Session.empty] at made

theorem Session.Sound.create (sound : s.Sound) :
    Session.Sound { s with
      results := s.results ++ [Cell.fresh]
      handles := s.handles ++ [some s.results.length]
      resolvers := s.resolvers ++ [some (Resolver.fresh s.results.length)] } := by
  have one_more : (s.results ++ [Cell.fresh]).length = s.results.length + 1 := by simp
  refine ⟨fun handle id held => ?_, fun number r there => ?_, fun number r there => ?_,
    fun number other r twin there thither same => ?_, fun id made => ?_⟩
  · rcases (slot_push s.handles _ _ _).1 held with old | ⟨-, rfl⟩
    · rw [one_more]
      exact Nat.lt_succ_of_lt (sound.held handle id old)
    · simp
  · rcases (slot_push s.resolvers _ _ _).1 there with old | ⟨-, rfl⟩
    · exact sound.unused number r old
    · rfl
  · rcases (slot_push s.resolvers _ _ _).1 there with old | ⟨-, rfl⟩
    · rw [one_more]
      exact Nat.lt_succ_of_lt (sound.linked number r old)
    · simp [Resolver.fresh]
  · rcases (slot_push s.resolvers _ _ _).1 there with old | ⟨first, rfl⟩ <;>
      rcases (slot_push s.resolvers _ _ _).1 thither with aged | ⟨second, rfl⟩
    · exact sound.sole number other r twin old aged same
    · exact absurd same (Nat.ne_of_lt (sound.linked number r old))
    · exact absurd same (Nat.ne_of_gt (sound.linked other twin aged))
    · exact first.trans second.symm
  · simp only [one_more] at made
    by_cases old : id < s.results.length
    · rw [outcome_push_old s.results _ id old, sound.unsettled id old]
      constructor
      · rintro ⟨number, r, there, is⟩
        exact ⟨number, r, (slot_push s.resolvers _ _ _).2 (Or.inl there), is⟩
      · rintro ⟨number, r, there, is⟩
        rcases (slot_push s.resolvers _ _ _).1 there with aged | ⟨-, rfl⟩
        · exact ⟨number, r, aged, is⟩
        · exact absurd is (Nat.ne_of_gt old)
    · obtain rfl : id = s.results.length :=
        Nat.le_antisymm (Nat.le_of_lt_succ made) (Nat.le_of_not_lt old)
      rw [outcome_push_new]
      refine ⟨fun _ => ?_, fun _ => rfl⟩
      exact ⟨s.resolvers.length, Resolver.fresh s.results.length,
        (slot_push s.resolvers _ _ _).2 (Or.inr ⟨rfl, rfl⟩), rfl⟩

theorem Session.Sound.ready (sound : s.Sound) (outcome : Settlement) :
    Session.Sound { s with
      results := s.results ++ [⟨some outcome, []⟩]
      handles := s.handles ++ [some s.results.length] } := by
  have one_more : (s.results ++ [(⟨some outcome, []⟩ : Cell)]).length = s.results.length + 1 := by
    simp
  refine ⟨fun handle id held => ?_, sound.unused, fun number r there => ?_, sound.sole,
    fun id made => ?_⟩
  · rcases (slot_push s.handles _ _ _).1 held with old | ⟨-, rfl⟩
    · rw [one_more]
      exact Nat.lt_succ_of_lt (sound.held handle id old)
    · simp
  · rw [one_more]
    exact Nat.lt_succ_of_lt (sound.linked number r there)
  · simp only [one_more] at made
    by_cases old : id < s.results.length
    · rw [outcome_push_old s.results _ id old]
      exact sound.unsettled id old
    · obtain rfl : id = s.results.length :=
        Nat.le_antisymm (Nat.le_of_lt_succ made) (Nat.le_of_not_lt old)
      rw [outcome_push_new]
      refine ⟨fun none => (by cases none), ?_⟩
      rintro ⟨number, r, there, is⟩
      exact absurd is (Nat.ne_of_lt (sound.linked number r there))

theorem Session.Sound.use (sound : s.Sound) (number : Nat) (r : Resolver) (outcome : Settlement)
    (wakes : List Nat) (there : s.resolver? number = some r) :
    Session.Sound { s with
      results := (s.results.settle r.result outcome).1
      resolvers := s.resolvers.set number none
      wakes := wakes } := by
  refine ⟨fun handle id held => ?_, fun other twin left => ?_, fun other twin left => ?_,
    fun other another twin third left right same => ?_, fun id made => ?_⟩
  · rw [settle_length]
    exact sound.held handle id held
  · exact sound.unused other twin ((slot_clear s.resolvers _ _ _).1 left).2
  · rw [settle_length]
    exact sound.linked other twin ((slot_clear s.resolvers _ _ _).1 left).2
  · exact sound.sole other another twin third ((slot_clear s.resolvers _ _ _).1 left).2
      ((slot_clear s.resolvers _ _ _).1 right).2 same
  · rw [settle_length] at made
    by_cases own : id = r.result
    · subst own
      rw [Pendings.outcome_settle_self s.results r.result outcome made]
      refine ⟨fun none => (by cases none), ?_⟩
      rintro ⟨other, twin, left, is⟩
      obtain ⟨differ, before⟩ := (slot_clear s.resolvers _ _ _).1 left
      exact absurd (sound.sole other number twin r before there is) differ
    · rw [Pendings.outcome_settle_other s.results r.result id outcome own, sound.unsettled id made]
      constructor
      · rintro ⟨other, twin, before, is⟩
        have differ : other ≠ number := by
          rintro rfl
          rw [there] at before
          cases before
          exact own is.symm
        exact ⟨other, twin, (slot_clear s.resolvers _ _ _).2 ⟨differ, before⟩, is⟩
      · rintro ⟨other, twin, left, is⟩
        exact ⟨other, twin, ((slot_clear s.resolvers _ _ _).1 left).2, is⟩

theorem Session.Sound.turn (sound : s.Sound) (turn : Turn s op later answer) : later.Sound := by
  cases turn with
  | create => exact sound.create
  | ready _ outcome made => exact sound.ready outcome
  | clone handle id held =>
    refine { sound with held := fun other copied there => ?_ }
    rcases (slot_push s.handles _ _ _).1 there with old | ⟨-, rfl⟩
    · exact sound.held other copied old
    · exact sound.held handle id held
  | dropHandle handle =>
    refine { sound with held := fun other id there => ?_ }
    exact sound.held other id ((slot_clear s.handles _ _ _).1 there).2
  | use _ number r outcome wakes uses there => exact sound.use number r outcome wakes there
  | ask _ handle id results wakes _ event asks held polled tells shows =>
    refine ⟨fun other copied there => ?_, sound.unused, fun number r there => ?_, sound.sole,
      fun other made => ?_⟩
    · rw [polled.length]
      exact sound.held other copied there
    · rw [polled.length]
      exact sound.linked number r there
    · rw [polled.length] at made
      rw [polled.outcomes]
      exact sound.unsettled other made
  | idle _ wakes _ gone => exact { sound with }

theorem Session.Sound.run (sound : s.Sound) (ops : List Operation) : (s.run ops).1.Sound := by
  induction ops generalizing s with
  | nil => exact sound
  | cons op rest ih => exact ih (sound.turn (step_turn s sound op))

structure Untouched (id : PendingId) (s later : Session) : Prop where
  cell : later.results[id]? = s.results[id]?
  handles : ∀ handle, later.resultOf? handle = some id ↔ s.resultOf? handle = some id
  resolvers : ∀ number r, r.result = id →
    (later.resolver? number = some r ↔ s.resolver? number = some r)

theorem Turn.untouched (turn : Turn s op later answer) (id : PendingId)
    (apart : s.subject? op ≠ some id) : Untouched id s later := by
  cases turn with
  | create =>
    have differ : id ≠ s.results.length := fun same => apart (same ▸ rfl)
    refine ⟨get_push s.results Cell.fresh id differ, fun handle => ?_, fun number r is => ?_⟩
    · refine (slot_push s.handles _ _ _).trans (or_iff_left ?_)
      exact fun new => differ new.2.symm
    · refine (slot_push s.resolvers _ _ _).trans (or_iff_left ?_)
      rintro ⟨-, rfl⟩
      exact differ is.symm
  | ready _ outcome made =>
    rw [s.subject_of_ready op outcome made] at apart
    have differ : id ≠ s.results.length := fun same => apart (same ▸ rfl)
    refine ⟨get_push s.results _ id differ, fun handle => ?_, fun number r _ => Iff.rfl⟩
    refine (slot_push s.handles _ _ _).trans (or_iff_left ?_)
    exact fun new => differ new.2.symm
  | clone handle copied held =>
    refine ⟨rfl, fun other => ?_, fun number r _ => Iff.rfl⟩
    refine (slot_push s.handles _ _ _).trans (or_iff_left ?_)
    rintro ⟨-, rfl⟩
    exact apart held
  | dropHandle handle =>
    refine ⟨rfl, fun other => ?_, fun number r _ => Iff.rfl⟩
    refine (slot_clear s.handles _ _ _).trans (and_iff_right_of_imp ?_)
    rintro held rfl
    exact apart held
  | use _ number used outcome wakes uses there =>
    have differ : id ≠ used.result := by
      rintro rfl
      rw [s.subject_of_use op number outcome uses, there] at apart
      exact apart rfl
    refine ⟨settle_other s.results used.result id outcome differ, fun handle => Iff.rfl,
      fun other r is => ?_⟩
    refine (slot_clear s.resolvers _ _ _).trans (and_iff_right_of_imp ?_)
    rintro left rfl
    exact differ (is ▸ Option.some.inj (left.symm.trans there) ▸ rfl)
  | ask _ handle looked results wakes _ event asks held polled tells shows =>
    rw [s.subject_of_asks op handle asks, held] at apart
    have differ : id ≠ looked := fun same => apart (same ▸ rfl)
    exact ⟨polled.others id differ, fun other => Iff.rfl, fun number r _ => Iff.rfl⟩
  | idle _ wakes _ gone => exact ⟨rfl, fun handle => Iff.rfl, fun number r _ => Iff.rfl⟩

theorem Untouched.outcome {id : PendingId} (untouched : Untouched id s later) :
    later.results.outcome? id = s.results.outcome? id := by
  simp only [Pendings.outcome?, untouched.cell]

def Session.shown (s : Session) (id : PendingId) (op : Operation) (answer : Answer) : List Event :=
  if s.subject? op = some id then (op.event? answer).toList else []

def Session.events (id : PendingId) (s : Session) : List Operation → List Event
  | [] => []
  | op :: rest => s.shown id op (s.step op).2 ++ (s.step op).1.events id rest

inductive Course (s : Session) (id : PendingId) (events : List Event) : Prop
  | unsettled (nothing : s.results.outcome? id = none)
      (resolver : ∃ number, s.resolver? number = some (Resolver.fresh id))
      (seen : ∀ event ∈ events, event.Shows none)
  | settled (outcome : Settlement) (before after : List Event)
      (there : s.results.outcome? id = some outcome)
      (gone : ∀ number r, s.resolver? number = some r → r.result ≠ id)
      (story : events = before ++ .settled outcome :: after)
      (unseen : ∀ event ∈ before, event.Shows none)
      (seen : ∀ event ∈ after, event.Shows (some outcome))

namespace Course

variable {id : PendingId} {events : List Event}

theorem same (course : Course s id events) (later : Session)
    (outcome : later.results.outcome? id = s.results.outcome? id)
    (resolvers : ∀ number r, r.result = id →
      (later.resolver? number = some r ↔ s.resolver? number = some r))
    (shown : List Event) (shows : ∀ event ∈ shown, event.Shows (s.results.outcome? id)) :
    Course later id (events ++ shown) := by
  cases course with
  | unsettled nothing resolver seen =>
    obtain ⟨number, there⟩ := resolver
    rw [nothing] at outcome shows
    refine unsettled outcome ⟨number, (resolvers number _ rfl).2 there⟩ fun event among => ?_
    exact (List.mem_append.1 among).elim (seen event) (shows event)
  | settled given before after there gone story unseen seen =>
    rw [there] at outcome shows
    refine settled given before (after ++ shown) outcome (fun number r left is => ?_) ?_ unseen
      fun event among => ?_
    · exact gone number r ((resolvers number r is).1 left) is
    · rw [story, List.append_assoc, List.cons_append]
    · exact (List.mem_append.1 among).elim (seen event) (shows event)

theorem use (course : Course s id events) (sound : s.Sound) (number : Nat) (r : Resolver)
    (outcome : Settlement) (wakes : List Nat) (there : s.resolver? number = some r)
    (own : r.result = id) :
    Course { s with
      results := (s.results.settle r.result outcome).1
      resolvers := s.resolvers.set number none
      wakes := wakes } id (events ++ [.settled outcome]) := by
  subst own
  have made := sound.linked number r there
  cases course with
  | unsettled nothing resolver seen =>
    refine settled outcome events [] ?_ (fun other twin left is => ?_) rfl seen nofun
    · rw [Pendings.outcome_settle_self s.results r.result outcome made, nothing]
      rfl
    · obtain ⟨differ, before⟩ := (slot_clear s.resolvers _ _ _).1 left
      exact differ (sound.sole other number twin r before there is)
  | settled given before after held gone story unseen seen =>
    exact absurd rfl (gone number r there)

theorem turn (course : Course s id events) (sound : s.Sound) (made : id < s.results.length)
    (turn : Turn s op later answer) : Course later id (events ++ s.shown id op answer) := by
  by_cases own : s.subject? op = some id
  · unfold Session.shown
    rw [if_pos own]
    cases turn with
    | create => exact absurd (Option.some.inj own) (Nat.ne_of_gt made)
    | ready _ outcome given =>
      rw [s.subject_of_ready op outcome given] at own
      exact absurd (Option.some.inj own) (Nat.ne_of_gt made)
    | clone handle copied held =>
      exact course.same { s with handles := s.handles ++ [some copied] } rfl
        (fun _ _ _ => Iff.rfl) [] nofun
    | dropHandle handle =>
      exact course.same { s with handles := s.handles.set handle none } rfl
        (fun _ _ _ => Iff.rfl) [] nofun
    | use _ number r outcome wakes uses there =>
      rw [s.subject_of_use op number outcome uses, there] at own
      rw [op.event_of_use number outcome _ uses]
      exact course.use sound number r outcome wakes there (Option.some.inj own)
    | ask _ handle looked results wakes _ event asks held polled tells shows =>
      rw [s.subject_of_asks op handle asks, held] at own
      obtain rfl := Option.some.inj own
      rw [op.event_of_asks handle _ asks, tells]
      refine course.same { s with results := results, wakes := wakes } (polled.outcomes looked)
        (fun _ _ _ => Iff.rfl) [event] ?_
      exact fun other among => (List.mem_singleton.1 among) ▸ shows
    | idle _ wakes _ gone =>
      rw [gone] at own
      cases own
  · have untouched := turn.untouched id own
    unfold Session.shown
    rw [if_neg own]
    exact course.same later untouched.outcome untouched.resolvers [] nofun

theorem made (sound : s.Sound) (unmade : ¬id < s.results.length) (turn : Turn s op later answer)
    (now : id < later.results.length) : Course later id (s.shown id op answer) := by
  have newest : ∀ cell : Cell, id < (s.results ++ [cell]).length → id = s.results.length := by
    intro cell bound
    rw [List.length_append, List.length_singleton] at bound
    exact Nat.le_antisymm (Nat.le_of_lt_succ bound) (Nat.le_of_not_lt unmade)
  cases turn with
  | create =>
    obtain rfl := newest Cell.fresh now
    refine unsettled (outcome_push_new s.results Cell.fresh) ⟨s.resolvers.length, ?_⟩ ?_
    · exact (slot_push s.resolvers _ _ _).2 (Or.inr ⟨rfl, rfl⟩)
    · intro event among
      have own : s.subject? .create = some s.results.length := rfl
      rw [Session.shown, if_pos own] at among
      cases among
  | ready _ outcome given =>
    obtain rfl := newest _ now
    refine settled outcome [] [] (outcome_push_new s.results _) (fun number r there => ?_) ?_
      nofun nofun
    · exact Nat.ne_of_lt (sound.linked number r there)
    · simp [Session.shown, s.subject_of_ready op outcome given, op.event_of_ready outcome _ given]
  | clone handle copied held => exact absurd now unmade
  | dropHandle handle => exact absurd now unmade
  | use _ number r outcome wakes uses there =>
    rw [settle_length] at now
    exact absurd now unmade
  | ask _ handle looked results wakes _ event asks held polled tells shows =>
    rw [polled.length] at now
    exact absurd now unmade
  | idle _ wakes _ gone => exact absurd now unmade

end Course

structure Session.Told (s : Session) (id : PendingId) (events : List Event) : Prop where
  course : id < s.results.length → Course s id events
  unmade : ¬id < s.results.length → events = []

theorem Session.Sound.shown_nothing (sound : s.Sound) (id : PendingId)
    (unmade : ¬id < s.results.length) (turn : Turn s op later answer)
    (still : ¬id < later.results.length) : s.shown id op answer = [] := by
  unfold Session.shown
  refine if_neg fun own => ?_
  cases turn with
  | create =>
    cases own
    simp at still
  | ready _ outcome given =>
    rw [s.subject_of_ready op outcome given] at own
    cases own
    simp at still
  | clone handle copied held => exact unmade (sound.held handle id own)
  | dropHandle handle => exact unmade (sound.held handle id own)
  | use _ number r outcome wakes uses there =>
    rw [s.subject_of_use op number outcome uses, there] at own
    cases own
    exact unmade (sound.linked number r there)
  | ask _ handle looked results wakes _ event asks held polled tells shows =>
    rw [s.subject_of_asks op handle asks] at own
    exact unmade (sound.held handle id own)
  | idle _ wakes _ gone =>
    rw [gone] at own
    cases own

theorem Turn.grown (turn : Turn s op later answer) :
    s.results.length ≤ later.results.length := by
  cases turn with
  | create => simp
  | ready _ outcome given => simp
  | use _ number r outcome wakes uses there => exact Nat.le_of_eq (settle_length _ _ _).symm
  | ask _ handle looked results wakes _ event asks held polled tells shows =>
    exact Nat.le_of_eq polled.length.symm
  | _ => exact Nat.le_refl _

theorem Session.Told.step {id : PendingId} {events : List Event} (told : s.Told id events)
    (sound : s.Sound) (turn : Turn s op later answer) :
    later.Told id (events ++ s.shown id op answer) := by
  by_cases made : id < s.results.length
  · refine ⟨fun _ => (told.course made).turn sound made turn, fun unmade => ?_⟩
    exact absurd (Nat.lt_of_lt_of_le made turn.grown) unmade
  · rw [told.unmade made, List.nil_append]
    exact ⟨Course.made sound made turn, sound.shown_nothing id made turn⟩

theorem Session.Told.run {id : PendingId} {events : List Event} (told : s.Told id events)
    (sound : s.Sound) (ops : List Operation) :
    (s.run ops).1.Told id (events ++ s.events id ops) := by
  induction ops generalizing s events with
  | nil => simpa [Session.run, Session.events] using told
  | cons op rest ih =>
    have turn := step_turn s sound op
    have after := ih (told.step sound turn) (sound.turn turn)
    simpa [Session.run, Session.events, List.append_assoc] using after

structure Faithful (s : Session) (handle : Nat) (id : PendingId) : Prop where
  made : id < s.results.length
  look : (s.step (.look handle)).2 = .seen (s.results.outcome? id)
  poll : ∀ waker, (s.step (.poll handle waker)).2 = .seen (s.results.outcome? id)
  isSettled : (s.step (.isSettled handle)).2 = .had (s.results.outcome? id).isSome
  clone : ∃ copy, (s.step (.clone handle)).2 = .handle copy ∧
    (s.step (.clone handle)).1.resultOf? copy = some id

theorem Session.Sound.faithful (sound : s.Sound) (handle : Nat) (id : PendingId)
    (held : s.resultOf? handle = some id) : Faithful s handle id := by
  have there : s.outcome? handle = s.results.outcome? id := by simp [Session.outcome?, held]
  refine ⟨sound.held handle id held, congrArg Answer.seen there, fun waker => ?_, ?_,
    s.handles.length, ?_, ?_⟩
  · have same : (s.withWaker waker).resultOf? handle = some id := held
    simp only [Session.step, same]
    exact congrArg Answer.seen (poll_seen s.results id waker)
  · exact congrArg (fun outcome : Option Settlement => Answer.had outcome.isSome) there
  · simp [Session.step, held, Session.addHandle]
  · simp only [Session.step, held]
    exact (slot_push s.handles _ _ _).2 (Or.inr ⟨rfl, rfl⟩)

theorem create_linked (s : Session) :
    ∃ handle number, (s.step .create).2 = .made handle number ∧
      (s.step .create).1.resultOf? handle = some s.results.length ∧
      (s.step .create).1.resolver? number = some (Resolver.fresh s.results.length) := by
  refine ⟨s.handles.length, s.resolvers.length, rfl, ?_, ?_⟩
  · exact (slot_push s.handles _ _ _).2 (Or.inr ⟨rfl, rfl⟩)
  · exact (slot_push s.resolvers _ _ _).2 (Or.inr ⟨rfl, rfl⟩)

theorem results_settle_once (ops : List Operation) :
    let s := (Session.empty.run ops).1
    (∀ id < s.results.length, Course s id (Session.empty.events id ops)) ∧
      (∀ handle id, s.resultOf? handle = some id → Faithful s handle id) ∧
      (∃ handle number, (s.step .create).2 = .made handle number ∧
        (s.step .create).1.resultOf? handle = some s.results.length ∧
        (s.step .create).1.resolver? number = some (Resolver.fresh s.results.length)) ∧
      ∀ op id, s.subject? op ≠ some id → Untouched id s (s.step op).1 := by
  intro s
  have sound : s.Sound := Session.Sound.empty.run ops
  refine ⟨fun id made => ?_, sound.faithful, create_linked s, fun op id apart => ?_⟩
  · have nothing : Session.empty.Told id [] := ⟨fun made => absurd made (Nat.not_lt_zero id),
      fun _ => rfl⟩
    exact (nothing.run Session.Sound.empty ops).course made
  · exact (step_turn s sound op).untouched id apart

-- A copy of the handle is told that the result was abandoned.
example : Session.empty.events 0 [.create, .isSettled 0, .clone 0, .dropResolver 0, .look 1] =
    [.told false, .settled (.error .abandoned), .looked (some (.error .abandoned))] := rfl

end HostBridge.Pending
