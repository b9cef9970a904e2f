import HostBridge.Proofs.Pending.Settling

set_option autoImplicit false

namespace HostBridge.Pending

inductive Sign where
  | polled (w : Waker) (seen : Option Settlement)
  | settled (outcome : Settlement)
  | rung (w : Waker) (readable : Option Settlement)

namespace Sign

def rings (w : Waker) : Sign → Bool
  | rung other _ => other == w
  | _ => false

end Sign

-- How it stands with those who wait for one result: none is forgotten and none is rung twice.
-- Here `due` counts the rings that are still to come.
inductive Watch (cell : Cell) (due : Waker → Nat) (signs : List Sign) : Prop
  | waiting (unsettled : cell.outcome = none) (once : cell.wakers.Nodup)
      (each : ∀ w, w ∈ cell.wakers ↔ .polled w none ∈ signs)
      (unseen : ∀ sign ∈ signs, ∃ w, sign = .polled w none)
      (undue : ∀ w, due w = 0)
  | ended (outcome : Settlement) (before after : List Sign) (settled : cell = ⟨some outcome, []⟩)
      (story : signs = before ++ .settled outcome :: after)
      (unseen : ∀ sign ∈ before, ∃ w, sign = .polled w none)
      (seen : ∀ sign ∈ after,
        ∃ w, sign = .polled w (some outcome) ∨ sign = .rung w (some outcome))
      (rung : ∀ w, .polled w none ∈ before → after.countP (Sign.rings w) + due w = 1)
      (spared : ∀ w, .polled w none ∉ before → after.countP (Sign.rings w) + due w = 0)

namespace Watch

variable {cell : Cell} {due : Waker → Nat} {signs : List Sign}

theorem fresh : Watch Cell.fresh (fun _ => 0) [] :=
  .waiting rfl List.nodup_nil (fun w => by simp [Cell.fresh]) nofun fun _ => rfl

theorem ready (outcome : Settlement) :
    Watch ⟨some outcome, []⟩ (fun _ => 0) [.settled outcome] :=
  .ended outcome [] [] rfl rfl nofun nofun nofun fun _ _ => rfl

theorem poll (watch : Watch cell due signs) (w : Waker) :
    Watch (cell.poll w).1 due (signs ++ [.polled w (cell.poll w).2]) := by
  cases watch with
  | waiting unsettled once each unseen undue =>
    have polled : cell.poll w =
        (if w ∈ cell.wakers then cell else { cell with wakers := cell.wakers ++ [w] }, none) := by
      simp [Cell.poll, unsettled]
    rw [polled]
    by_cases known : w ∈ cell.wakers
    · rw [if_pos known]
      refine .waiting unsettled once (fun x => ?_) (fun sign among => ?_) undue
      · rw [each x, List.mem_append, List.mem_singleton, Sign.polled.injEq]
        refine (or_iff_left_of_imp ?_).symm
        rintro ⟨rfl, -⟩
        exact (each x).1 known
      · rcases List.mem_append.1 among with old | new
        · exact unseen sign old
        · exact ⟨w, List.mem_singleton.1 new⟩
    · rw [if_neg known]
      refine .waiting unsettled ?_ (fun x => ?_) (fun sign among => ?_) undue
      · refine List.nodup_append.2 ⟨once, by simp, fun x held y new => ?_⟩
        rw [List.mem_singleton.1 new]
        rintro rfl
        exact known held
      · simp [each x]
      · rcases List.mem_append.1 among with old | new
        · exact unseen sign old
        · exact ⟨w, List.mem_singleton.1 new⟩
  | ended outcome before after settled story unseen seen rung spared =>
    subst settled
    have silent : ∀ x, (after ++ [Sign.polled w (some outcome)]).countP (Sign.rings x) =
        after.countP (Sign.rings x) := fun x => by
      simp [List.countP_append, Sign.rings]
    refine .ended outcome before (after ++ [.polled w (some outcome)]) rfl ?_ unseen
      (fun sign among => ?_) (fun x early => ?_) fun x never => ?_
    · simp [story, Cell.poll]
    · rcases List.mem_append.1 among with old | new
      · exact seen sign old
      · exact ⟨w, Or.inl (List.mem_singleton.1 new)⟩
    · rw [silent]
      exact rung x early
    · rw [silent]
      exact spared x never

theorem settle (watch : Watch cell due signs) (unsettled : cell.outcome = none)
    (outcome : Settlement) : Watch (cell.settle outcome).1
      (fun w => due w + (cell.settle outcome).2.count w) (signs ++ [.settled outcome]) := by
  cases watch with
  | waiting _ once each unseen undue =>
    have settled : cell.settle outcome = (⟨some outcome, []⟩, cell.wakers) := by
      simp [Cell.settle, unsettled]
    rw [settled]
    refine .ended outcome signs [] rfl rfl unseen (List.forall_mem_nil _) (fun w early => ?_)
      fun w never => ?_
    · simp [undue w, once.count, (each w).2 early]
    · simp [undue w, once.count, mt (each w).1 never]
  | ended given before after settled =>
    rw [settled] at unsettled
    cases unsettled

theorem ring (watch : Watch cell due signs) (w : Waker) (owed : 0 < due w) :
    Watch cell (fun x => if x = w then due x - 1 else due x)
      (signs ++ [.rung w cell.outcome]) := by
  cases watch with
  | waiting unsettled once each unseen undue => exact absurd (undue w) (Nat.ne_of_gt owed)
  | ended outcome before after settled story unseen seen rung spared =>
    subst settled
    have total : ∀ x, (after ++ [Sign.rung w (some outcome)]).countP (Sign.rings x) +
        (if x = w then due x - 1 else due x) = after.countP (Sign.rings x) + due x := fun x => by
      by_cases same : x = w
      · subst same
        simp [List.countP_append, Sign.rings]
        omega
      · simp [List.countP_append, Sign.rings, same, Ne.symm same]
    refine .ended outcome before (after ++ [.rung w (some outcome)]) rfl ?_ unseen
      (fun sign among => ?_) (fun x early => ?_) fun x never => ?_
    · simp [story]
    · rcases List.mem_append.1 among with old | new
      · exact seen sign old
      · exact ⟨w, Or.inr (List.mem_singleton.1 new)⟩
    · rw [total]
      exact rung x early
    · rw [total]
      exact spared x never

end Watch

def Operation.sign? (op : Operation) (answer : Answer) : Option Sign :=
  match op, answer with
  | .poll _ w, .seen outcome => some (.polled w outcome)
  | op, _ => op.settles?.map .settled

namespace Session

def signs (s : Session) (op : Operation) (answer : Answer) : List (PendingId × Sign) :=
  match s.subject? op, op.sign? answer with
  | some id, some sign => [(id, sign)]
  | _, _ => []

def owed (s : Session) (op : Operation) : List (PendingId × Waker) :=
  match s.subject? op, op.use? with
  | some id, some (_, outcome) => (s.results.settle id outcome).2.map (id, ·)
  | _, _ => []

end Session

structure Extends (wakes later : List Nat) : Prop where
  length : wakes.length ≤ later.length
  same : ∀ w, later.getD w 0 = wakes.getD w 0

theorem Extends.refl (wakes : List Nat) : Extends wakes wakes := ⟨Nat.le_refl _, fun _ => rfl⟩

theorem extends_waker (s : Session) (w : Waker) :
    Extends s.wakes (s.withWaker w).wakes ∧ w < (s.withWaker w).wakes.length := by
  refine ⟨⟨?_, fun x => ?_⟩, ?_⟩
  · simp [Session.withWaker]
  · simp only [Session.withWaker, List.getD_eq_getElem?_getD]
    by_cases old : x < s.wakes.length
    · rw [List.getElem?_append_left old]
    · rw [List.getElem?_append_right (Nat.le_of_not_lt old), List.getElem?_replicate,
        List.getElem?_eq_none (Nat.le_of_not_lt old)]
      split <;> rfl
  · change w < (s.wakes ++ List.replicate (w + 1 - s.wakes.length) 0).length
    rw [List.length_append, List.length_replicate]
    exact Nat.sub_le_iff_le_add'.1 (Nat.le_refl (w + 1 - s.wakes.length))

theorem wake_counts (wakes : List Nat) (w x : Waker) (known : w < wakes.length) :
    (Session.wake wakes w).getD x 0 = wakes.getD x 0 + if w = x then 1 else 0 := by
  simp only [Session.wake, List.getD_eq_getElem?_getD, List.getElem?_modify]
  by_cases same : w = x
  · subst same
    simp [List.getElem?_eq_getElem known]
  · simp [same]

theorem foldl_wake (woken : List Waker) (wakes : List Nat)
    (known : ∀ w ∈ woken, w < wakes.length) :
    (woken.foldl Session.wake wakes).length = wakes.length ∧
      ∀ x, (woken.foldl Session.wake wakes).getD x 0 = wakes.getD x 0 + woken.count x := by
  induction woken generalizing wakes with
  | nil => exact ⟨rfl, fun x => rfl⟩
  | cons w rest ih =>
    have length : (Session.wake wakes w).length = wakes.length := List.length_modify ..
    obtain ⟨same, counts⟩ := ih (Session.wake wakes w) fun x among =>
      length ▸ known x (.tail w among)
    refine ⟨same.trans length, fun x => ?_⟩
    rw [List.foldl_cons, counts x, wake_counts wakes w x (known w (.head rest)), List.count_cons]
    simp only [beq_iff_eq]
    omega

theorem poll_registers (cell : Cell) (w x : Waker) (among : x ∈ (cell.poll w).1.wakers) :
    x ∈ cell.wakers ∨ x = w := by
  unfold Cell.poll at among
  split at among
  · exact Or.inl among
  · split at among
    · exact Or.inl among
    · simpa using among

inductive Deal (s : Session) (op : Operation) (later : Session) (answer : Answer) : Prop
  | still (results : later.results = s.results) (wakes : Extends s.wakes later.wakes)
      (signs : s.signs op answer = []) (owed : s.owed op = [])
  | made (cell : Cell) (shown : List Sign) (results : later.results = s.results ++ [cell])
      (wakes : later.wakes = s.wakes)
      (signs : s.signs op answer = shown.map (s.results.length, ·)) (owed : s.owed op = [])
      (watch : Watch cell (fun _ => 0) shown) (unheard : cell.wakers = [])
      (unrung : ∀ w, shown.countP (Sign.rings w) = 0)
  | polled (id : PendingId) (cell : Cell) (w : Waker) (there : s.results[id]? = some cell)
      (results : later.results = s.results.set id (cell.poll w).1)
      (wakes : later.wakes = (s.withWaker w).wakes)
      (signs : s.signs op answer = [(id, .polled w (cell.poll w).2)]) (owed : s.owed op = [])
  | settled (id : PendingId) (cell : Cell) (outcome : Settlement)
      (there : s.results[id]? = some cell) (unsettled : cell.outcome = none)
      (results : later.results = s.results.set id (cell.settle outcome).1)
      (wakes : later.wakes = (cell.settle outcome).2.foldl Session.wake s.wakes)
      (signs : s.signs op answer = [(id, .settled outcome)])
      (owed : s.owed op = (cell.settle outcome).2.map (id, ·))

theorem sign_of_use (op : Operation) (number : Nat) (outcome : Settlement) (answer : Answer)
    (uses : op.use? = some (number, outcome)) : op.sign? answer = some (.settled outcome) := by
  cases op <;> cases uses <;> rfl

theorem use_deal (s : Session) (sound : s.Sound) (op : Operation) (number : Nat)
    (outcome : Settlement) (act : Resolver → Pendings → Pendings × List Waker)
    (uses : op.use? = some (number, outcome))
    (acts : ∀ r, s.resolver? number = some r →
      act r s.results = s.results.settle r.result outcome) :
    Deal s op (s.consume number act).1 (s.consume number act).2 := by
  have subject := s.subject_of_use op number outcome uses
  unfold Session.consume
  cases there : s.resolver? number with
  | none =>
    rw [there] at subject
    refine .still rfl (.refl s.wakes) ?_ ?_
    · simp [Session.signs, subject]
    · simp [Session.owed, subject]
  | some r =>
    have bound := sound.linked number r there
    have held : s.results[r.result]? = some s.results[r.result] := List.getElem?_eq_getElem bound
    have open_ : s.results[r.result].outcome = none := by
      have unsettled := (sound.unsettled r.result bound).2 ⟨number, r, there, rfl⟩
      simpa [Pendings.outcome?, held] using unsettled
    have settles : s.results.settle r.result outcome =
        (s.results.set r.result (s.results[r.result].settle outcome).1,
          (s.results[r.result].settle outcome).2) := by
      simp [Pendings.settle, held]
    rw [there] at subject
    simp only [acts r there, settles]
    refine .settled r.result _ outcome held open_ rfl rfl ?_ ?_
    · simp [Session.signs, subject, sign_of_use op number outcome _ uses]
    · simp [Session.owed, subject, uses, settles]

theorem silent_deal (s later : Session) (op : Operation) (answer : Answer)
    (results : later.results = s.results) (wakes : later.wakes = s.wakes)
    (silent : op.sign? answer = none) (useless : op.use? = none) : Deal s op later answer := by
  refine .still results (wakes ▸ .refl s.wakes) ?_ ?_
  · simp [Session.signs, silent]
  · simp [Session.owed, useless]

theorem step_deal (s : Session) (sound : s.Sound) (op : Operation) :
    Deal s op (s.step op).1 (s.step op).2 := by
  cases op with
  | create => exact .made Cell.fresh [] rfl rfl rfl rfl .fresh rfl fun _ => rfl
  | resolved v =>
    have settled := create_settled s.results (.ok v)
    simp only [Session.step, Session.addSettled, settled]
    exact .made _ [.settled (.ok v)] rfl rfl rfl rfl (.ready (.ok v)) rfl fun _ => rfl
  | rejected f =>
    have settled := create_settled s.results (.error f)
    simp only [Session.step, Session.addSettled, settled]
    exact .made _ [.settled (.error f)] rfl rfl rfl rfl (.ready (.error f)) rfl fun _ => rfl
  | clone handle =>
    cases held : s.resultOf? handle with
    | none =>
      simp only [Session.step, held]
      exact silent_deal s s _ _ rfl rfl rfl rfl
    | some id =>
      simp only [Session.step, held]
      exact silent_deal s _ _ _ rfl rfl rfl rfl
  | dropHandle handle => exact silent_deal s _ _ _ rfl rfl rfl rfl
  | resolve number v =>
    exact use_deal s sound _ number (.ok v) _ rfl fun r _ => r.settle_eq (.ok v) s.results
  | reject number f =>
    exact use_deal s sound _ number (.error f) _ rfl fun r _ => r.settle_eq (.error f) s.results
  | settle number outcome =>
    exact use_deal s sound _ number outcome _ rfl fun r _ => r.settle_eq outcome s.results
  | dropResolver number =>
    exact use_deal s sound _ number (.error .abandoned) _ rfl fun r there =>
      r.drop_unused (sound.unused number r there) s.results
  | isSettled handle => exact silent_deal s s _ _ rfl rfl rfl rfl
  | look handle => exact silent_deal s s _ _ rfl rfl rfl rfl
  | poll handle w =>
    have same : (s.withWaker w).resultOf? handle = s.resultOf? handle := rfl
    have wakes := (extends_waker s w).1
    cases held : s.resultOf? handle with
    | none =>
      simp only [Session.step, same, held]
      refine .still rfl wakes ?_ ?_ <;> simp [Session.signs, Session.owed, Session.subject?, held]
    | some id =>
      have bound := sound.held handle id held
      have there : s.results[id]? = some s.results[id] := List.getElem?_eq_getElem bound
      have polls : (s.withWaker w).results.poll id w =
          (s.results.set id (s.results[id].poll w).1, (s.results[id].poll w).2) := by
        change s.results.poll id w = _
        simp [Pendings.poll, there]
      simp only [Session.step, same, held, polls]
      refine .polled id _ w there rfl rfl ?_ ?_
      · simp [Session.signs, Session.subject?, held, Operation.sign?]
      · simp [Session.owed, Session.subject?, Operation.use?]

end HostBridge.Pending
