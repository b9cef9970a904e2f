import HostBridge.Proofs.Pool.Hooks
import HostBridge.Proofs.Pool.Motion

set_option autoImplicit false

namespace HostBridge

variable {α ε : Type}

def Pool.liveCount (p : Pool α ε) : Nat := p.slots.countP Slot.isLive

namespace Note

def breaksOff (jobs : List (Job α ε)) : Note ε → Bool
  | .hooked job (.worker worker) f =>
    jobs[job]?.any fun job => job.fatal (.worker worker) (.error f)
  | _ => false

def costs (jobs : List (Job α ε)) (note : Note ε) : Bool := note.breaksOff jobs || note.isMishap

def isReport : Note ε → Bool
  | .warned .workerDied => true
  | _ => false

end Note

def breakOffs (notes : List (Note ε)) (jobs : List (Job α ε)) : Nat :=
  notes.countP (Note.breaksOff jobs)

def mishaps (notes : List (Note ε)) : Nat := notes.countP Note.isMishap

def losses (notes : List (Note ε)) (jobs : List (Job α ε)) : Nat := notes.countP (Note.costs jobs)

def reports (notes : List (Note ε)) : Nat := notes.countP Note.isReport

theorem live_count_pos (p : Pool α ε) : 0 < p.liveCount ↔ p.hasLiveWorker = true := by
  rw [Pool.liveCount, List.countP_pos_iff, Pool.hasLiveWorker, List.any_eq_true]

theorem live_and_dead (p : Pool α ε) : p.liveCount + p.deadCount = p.slots.length := by
  rw [Pool.liveCount, Pool.deadCount, List.length_eq_countP_add_countP Slot.isLive]
  congr 2
  funext slot
  cases slot.isLive <;> rfl

theorem live_count_set (p : Pool α ε) (worker : Nat) (held slot : Slot α ε)
    (found : p.slots[worker]? = some held) (live : held.isLive = true) :
    (p.slots.set worker slot).countP Slot.isLive + (if slot.isLive then 0 else 1) =
      p.liveCount := by
  obtain ⟨bound, same⟩ := List.getElem?_eq_some_iff.1 found
  have some : 0 < p.liveCount :=
    (live_count_pos p).2 (live_of_slot p worker held live found)
  rw [List.countP_set bound, same, if_pos live]
  change p.liveCount - 1 + _ + _ = _
  cases slot.isLive <;> simp <;> omega

theorem losses_split (notes : List (Note ε)) (jobs : List (Job α ε)) :
    losses notes jobs = breakOffs notes jobs + mishaps notes := by
  induction notes with
  | nil => rfl
  | cons note rest ih =>
    have one : (if note.costs jobs then 1 else 0) =
        (if note.breaksOff jobs then 1 else 0) + if note.isMishap then 1 else 0 := by
      cases note with
      | hooked job site f => simp [Note.costs, Note.isMishap]
      | _ => simp [Note.costs, Note.breaksOff, Note.isMishap]
    simp only [losses, breakOffs, mishaps, List.countP_cons] at ih ⊢
    omega

theorem losses_append (notes more : List (Note ε)) (jobs : List (Job α ε)) :
    losses (notes ++ more) jobs = losses notes jobs + losses more jobs := by
  simp [losses]

theorem reports_append (notes more : List (Note ε)) :
    reports (notes ++ more) = reports notes + reports more := by
  simp [reports]

theorem losses_milestones (notes : List (Note ε)) (jobs : List (Job α ε)) :
    losses (milestones notes) jobs = losses notes jobs :=
  countP_milestones _ (fun note passed => by cases note <;> first | rfl | cases passed) notes

theorem reports_milestones (notes : List (Note ε)) : reports (milestones notes) = reports notes :=
  countP_milestones _ (fun note passed => by cases note <;> first | rfl | cases passed) notes

theorem losses_more {thread : Nat → String} {notes : List (Note ε)} {jobs : List (Job α ε)}
    {fate : JobId → Fate α} (stories : Stories thread notes jobs fate) (more : List (Job α ε)) :
    losses notes (jobs ++ more) = losses notes jobs := by
  refine List.countP_congr fun note member => ?_
  cases note with
  | hooked job site f =>
    have bound : job < jobs.length := by
      refine Nat.lt_of_not_le fun beyond => ?_
      have shown := (mem_story notes (.hooked job site f) job rfl).2 member
      rw [stories.untold job beyond] at shown
      cases shown
    cases site with
    | caller => rfl
    | worker worker =>
      simp only [Note.costs, Note.breaksOff, List.getElem?_append_left bound]
  | _ => rfl

theorem losses_alarm (jobs : List (Job α ε)) (job : Job α ε)
    (known : jobs[job.id]? = some job) (worker : Nat) (outcome : Settlement) :
    losses (job.alarm (.worker worker) outcome) jobs =
      if job.fatal (.worker worker) outcome then 1 else 0 := by
  unfold Job.alarm Job.fatal
  cases owed : job.completion with
  | settle id => rfl
  | detached origin hook =>
    cases hook with
    | none => cases outcome <;> rfl
    | some hook =>
      cases outcome with
      | ok v => rfl
      | error f =>
        simp [losses, List.countP_cons, Note.costs, Note.breaksOff, Note.isMishap, known, Job.fatal,
          owed]

theorem losses_ending (jobs : List (Job α ε)) (job : Job α ε)
    (known : jobs[job.id]? = some job) (worker : Nat) (ending : Ending) :
    losses (Host.breakageNotes ending ++ job.alarm (.worker worker) ending.outcome) jobs =
      if job.fatal (.worker worker) ending.outcome then 1 else 0 := by
  rw [losses_append, losses_alarm jobs job known]
  cases ending <;> exact Nat.zero_add _

theorem losses_none (notes : List (Note ε)) (jobs : List (Job α ε))
    (silent : ∀ note ∈ notes, ∀ job worker f, note ≠ .hooked job (.worker worker) f)
    (calm : ∀ note ∈ notes, note.isMishap = false) : losses notes jobs = 0 := by
  refine List.countP_eq_zero.2 fun note member broke => ?_
  rw [Note.costs, calm note member, Bool.or_false] at broke
  cases note with
  | hooked job site f =>
    cases site with
    | caller => cases broke
    | worker worker => exact silent _ member job worker f rfl
  | _ => cases broke

theorem reports_none (notes : List (Note ε)) (silent : ∀ note ∈ notes, note ≠ .warned .workerDied) :
    reports notes = 0 := by
  refine List.countP_eq_zero.2 fun note member told => silent note member ?_
  cases note with
  | warned warning => cases warning <;> first | rfl | cases told
  | _ => cases told

theorem reports_alarm (job : Job α ε) (site : Site) (outcome : Settlement) :
    reports (job.alarm site outcome) = 0 := by
  refine reports_none _ fun note said same => ?_
  rcases mem_alarm job site outcome note said with ⟨_, other, rfl⟩ | ⟨_, rfl⟩
  · exact other (Note.warned.inj same)
  · cases same

theorem reports_ending (job : Job α ε) (site : Site) (ending : Ending) :
    reports (Host.breakageNotes ending ++ job.alarm site ending.outcome) = 0 := by
  rw [reports_append, reports_alarm]
  cases ending <;> rfl

theorem swept_quiet {p p' : Pool α ε} {lost : List (Note ε)} (swept : Swept p p' lost)
    (jobs : List (Job α ε)) : losses lost jobs = 0 ∧ reports lost = 0 := by
  constructor
  · refine losses_none lost jobs (fun note member job worker f same => ?_) fun note member => ?_
    · obtain ⟨_, _, gone⟩ := swept.lost note member
      rw [gone] at same
      cases same
    · obtain ⟨_, _, rfl⟩ := swept.lost note member
      rfl
  · refine reports_none lost fun note member same => ?_
    obtain ⟨_, _, gone⟩ := swept.lost note member
    rw [gone] at same
    cases same

structure Staffed (workers : Nat) (p : Pool α ε) (notes : List (Note ε)) (jobs : List (Job α ε)) :
    Prop where
  living : p.phase ≠ .closed → p.liveCount + losses notes jobs = workers
  reported : reports notes = if p.phase = .closed then losses notes jobs else 0

namespace Staffed

variable {workers : Nat} {p p' : Pool α ε} {notes shown : List (Note ε)} {jobs : List (Job α ε)}

theorem step (staffed : Staffed workers p notes jobs) (p' : Pool α ε) (shown : List (Note ε))
    (phase : p'.phase = .closed ↔ p.phase = .closed)
    (even : p'.liveCount + losses shown jobs = p.liveCount)
    (unbroken : p.phase = .closed → losses shown jobs = 0) (unreported : reports shown = 0) :
    Staffed workers p' (notes ++ shown) jobs := by
  refine ⟨fun open_ => ?_, ?_⟩
  · have before := staffed.living fun closed => open_ (phase.2 closed)
    rw [losses_append]
    omega
  · rw [reports_append, losses_append, unreported, staffed.reported]
    by_cases closed : p.phase = .closed
    · rw [if_pos closed, if_pos (phase.2 closed), unbroken closed]
    · rw [if_neg closed, if_neg fun closed' => closed (phase.1 closed')]

theorem still (staffed : Staffed workers p notes jobs) (p' : Pool α ε) (shown : List (Note ε))
    (phase : p'.phase = .closed ↔ p.phase = .closed) (even : p'.liveCount = p.liveCount)
    (quiet : losses shown jobs = 0 ∧ reports shown = 0) :
    Staffed workers p' (notes ++ shown) jobs :=
  staffed.step p' shown phase (by rw [quiet.1]; exact even) (fun _ => quiet.1) quiet.2

theorem buries (staffed : Staffed workers p notes jobs) (open_ : p.phase ≠ .closed) (worker : Nat)
    (job : Job α ε) (busy : p.slots[worker]? = some (.busy job)) (shown : List (Note ε))
    (one : losses shown jobs = 1) (unreported : reports shown = 0) (p' : Pool α ε)
    (lost : List (Note ε))
    (swept : Swept { p with slots := p.slots.set worker .dead } p' lost) :
    Staffed workers p' (notes ++ (shown ++ .died worker :: lost)) jobs := by
  have fewer : Pool.liveCount { p with slots := p.slots.set worker .dead } + 1 = p.liveCount :=
    live_count_set p worker (.busy job) .dead busy rfl
  have died := (staffed.step { p with slots := p.slots.set worker .dead } shown Iff.rfl
    (by rw [one]; exact fewer) (fun closed => absurd closed open_) unreported).still _
      [.died worker] Iff.rfl rfl ⟨rfl, rfl⟩
  rw [← List.singleton_append, ← List.append_assoc, ← List.append_assoc]
  apply died.still _ lost ?_ ?_ (swept_quiet swept jobs)
  · rw [swept.same]
  · rw [swept.same]
    rfl

theorem motion (staffed : Staffed workers p notes jobs) (motion : Motion p p' shown)
    (crew : p.phase ≠ .closed → p.slots.length = workers)
    (ended : p.phase = .closed → p.slots = [])
    (known : ∀ (worker : Nat) (job : Job α ε), p.slots[worker]? = some (.busy job) →
      jobs[job.id]? = some job) :
    Staffed workers p' (notes ++ shown) jobs := by
  cases motion with
  | accepts job next open_ => exact staffed.still _ _ Iff.rfl rfl ⟨rfl, rfl⟩
  | refuses job next f refused =>
    have quiet : losses (job.alarm .caller (.error f)) jobs = 0 :=
      losses_none _ jobs (fun note said other worker g same => by
        rcases mem_alarm job _ _ note said with ⟨_, _, rfl⟩ | ⟨_, rfl⟩ <;> cases same)
        fun note said => by
          rcases mem_alarm job _ _ note said with ⟨_, _, rfl⟩ | ⟨_, rfl⟩ <;> rfl
    refine staffed.still _ _ Iff.rfl rfl ⟨?_, ?_⟩
    · rw [← List.singleton_append, losses_append, quiet]
      rfl
    · rw [← List.singleton_append, reports_append, reports_alarm]
      rfl
  | starts worker job rest idle first =>
    exact staffed.still _ _ Iff.rfl (live_count_set p worker .idle (.busy job) idle rfl) ⟨rfl, rfl⟩
  | ends worker job ending busy mild =>
    have none := losses_ending jobs job (known worker job busy) worker ending
    rw [mild] at none
    exact staffed.still _ _ Iff.rfl (live_count_set p worker (.busy job) .idle busy rfl)
      ⟨none, reports_ending job _ ending⟩
  | kills worker job ending _ lost busy fatal swept =>
    have one := losses_ending jobs job (known worker job busy) worker ending
    rw [fatal] at one
    have open_ : p.phase ≠ .closed := fun closed => by
      rw [ended closed] at busy
      cases busy
    exact staffed.buries open_ worker job busy _ one (reports_ending job _ ending) _ lost swept
  | closes _ _ taking swept =>
    refine staffed.still _ _ ?_ ?_ (swept_quiet swept jobs)
    · rw [swept.same, taking]
      simp
    · rw [swept.same]
      rfl
  | rests stopped => exact staffed.still _ [] Iff.rfl rfl ⟨rfl, rfl⟩
  | joins closing empty free =>
    have open_ : p.phase ≠ .closed := by simp [closing]
    have living := staffed.living open_
    have whole := live_and_dead p
    have quiet :
        losses (List.replicate p.deadCount (Note.warned (ε := ε) .workerDied)) jobs = 0 :=
      losses_none _ jobs (fun note said job worker f same => by
        rw [List.eq_of_mem_replicate said] at same
        cases same) fun note said => List.eq_of_mem_replicate said ▸ rfl
    have loud : reports (List.replicate p.deadCount (Note.warned (ε := ε) .workerDied)) =
        p.deadCount := by
      rw [reports, List.countP_replicate]
      rfl
    refine ⟨fun closed => absurd rfl closed, ?_⟩
    rw [reports_append, losses_append, staffed.reported, if_neg open_, quiet, loud, if_pos rfl]
    have size := crew open_
    omega

end Staffed

end HostBridge
