import HostBridge.Proofs.Pool.Hooks
import HostBridge.Proofs.Pool.Motion

set_option autoImplicit false

namespace HostBridge

variable {α ε : Type}

namespace Note

def acceptance? : Note ε → Option JobId
  | .accepted job => some job
  | _ => none

def start? : Note ε → Option JobId
  | .started job _ => some job
  | _ => none

def discard? : Note ε → Option JobId
  | .discarded job => some job
  | _ => none

end Note

def acceptances (notes : List (Note ε)) : List JobId := notes.filterMap Note.acceptance?

def starts (notes : List (Note ε)) : List JobId := notes.filterMap Note.start?

def discards (notes : List (Note ε)) : List JobId := notes.filterMap Note.discard?

theorem order_milestones (notes : List (Note ε)) :
    acceptances (milestones notes) = acceptances notes ∧ starts (milestones notes) = starts notes ∧
      discards (milestones notes) = discards notes := by
  refine ⟨?_, ?_, ?_⟩ <;> refine filterMap_milestones _ (fun note passed => ?_) notes <;>
    cases note <;> first | rfl | cases passed

-- Notes that say nothing of the order.
def Unordered (notes : List (Note ε)) : Prop :=
  ∀ note ∈ notes, note.acceptance? = none ∧ note.start? = none ∧ note.discard? = none

theorem unordered_ending (job : Job α ε) (site : Site) (ending : Ending) :
    Unordered (Host.breakageNotes ending ++ job.alarm site ending.outcome) := by
  intro note said
  rcases mem_ending job site ending note said with ⟨_, _, rfl⟩ | ⟨_, rfl⟩ <;> exact ⟨rfl, rfl, rfl⟩

structure Ordered (p : Pool α ε) (accepted started discarded : List JobId) : Prop where
  served : accepted = started ++ p.queue.map Job.id ++ discarded
  ascending : accepted.Pairwise (· < ·)
  below : ∀ job ∈ accepted, job < p.submitted
  bounded : 0 < p.capacity → p.queue.length ≤ p.capacity
  forsaken : discarded ≠ [] → p.hasLiveWorker = false ∧ p.queue = []

namespace Ordered

variable {p p' : Pool α ε} {accepted started discarded : List JobId}

theorem none_lost (ordered : Ordered p accepted started discarded)
    (live : p.hasLiveWorker = true) : discarded = [] := by
  refine Decidable.byContradiction fun some => ?_
  rw [(ordered.forsaken some).1] at live
  cases live

theorem same (ordered : Ordered p accepted started discarded) (p' : Pool α ε)
    (queue : p'.queue = p.queue) (capacity : p'.capacity = p.capacity)
    (submitted : p.submitted ≤ p'.submitted)
    (lifeless : p.hasLiveWorker = false → p'.hasLiveWorker = false) :
    Ordered p' accepted started discarded := by
  refine ⟨?_, ordered.ascending, fun job member => ?_, ?_, fun some => ?_⟩
  · rw [queue]
    exact ordered.served
  · exact Nat.lt_of_lt_of_le (ordered.below job member) submitted
  · rw [queue, capacity]
    exact ordered.bounded
  · obtain ⟨gone, empty⟩ := ordered.forsaken some
    exact ⟨lifeless gone, queue.trans empty⟩

theorem accept (ordered : Ordered p accepted started discarded) (job : Job α ε)
    (next : job.id = p.submitted) (open_ : p.refusal? = none) :
    Ordered { p with queue := p.queue ++ [job], submitted := p.submitted + 1 }
      (accepted ++ [job.id]) started discarded := by
  have whole := ordered.none_lost (accepting_open p open_).2
  have served := ordered.served
  rw [whole, List.append_nil] at served
  refine ⟨?_, ?_, fun other member => ?_, fun places => ?_, fun some => absurd whole some⟩
  · rw [served, whole]
    simp
  · refine List.pairwise_append.2 ⟨ordered.ascending, List.pairwise_singleton _ _, ?_⟩
    intro other earlier last now
    rw [List.mem_singleton.1 now, next]
    exact ordered.below other earlier
  · rcases List.mem_append.1 member with earlier | now
    · exact Nat.lt_succ_of_lt (ordered.below other earlier)
    · rw [List.mem_singleton.1 now, next]
      exact Nat.lt_succ_self _
  · rw [List.length_append, List.length_singleton]
    exact accepting_room p open_ places

theorem start (ordered : Ordered p accepted started discarded) (worker : Nat) (job : Job α ε)
    (rest : List (Job α ε)) (idle : p.slots[worker]? = some .idle)
    (first : p.queue = job :: rest) :
    Ordered { p with slots := p.slots.set worker (.busy job), queue := rest } accepted
      (started ++ [job.id]) discarded := by
  have whole := ordered.none_lost (live_of_slot p worker .idle rfl idle)
  refine ⟨?_, ordered.ascending, ordered.below, fun places => ?_, fun some => absurd whole some⟩
  · rw [ordered.served, first]
    simp
  · have bound := ordered.bounded places
    rw [first, List.length_cons] at bound
    exact Nat.le_of_succ_le bound

theorem quiet (ordered : Ordered p accepted started discarded) (shown : List (Note ε))
    (unordered : Unordered shown) :
    Ordered p (accepted ++ acceptances shown) (started ++ starts shown)
      (discarded ++ discards shown) := by
  have none : acceptances shown = [] ∧ starts shown = [] ∧ discards shown = [] :=
    ⟨List.filterMap_eq_nil_iff.2 fun note member => (unordered note member).1,
      List.filterMap_eq_nil_iff.2 fun note member => (unordered note member).2.1,
      List.filterMap_eq_nil_iff.2 fun note member => (unordered note member).2.2⟩
  rw [none.1, none.2.1, none.2.2, List.append_nil, List.append_nil, List.append_nil]
  exact ordered

theorem sweep (ordered : Ordered p accepted started discarded) (lost : List (Note ε))
    (swept : Swept p p' lost) :
    Ordered p' (accepted ++ acceptances lost) (started ++ starts lost)
      (discarded ++ discards lost) := by
  cases swept with
  | kept => exact ordered.quiet [] fun note member => by cases member
  | emptied gone brief =>
    have gains : acceptances (p.queue.map fun job => (.discarded job.id : Note ε)) = [] ∧
        starts (p.queue.map fun job => (.discarded job.id : Note ε)) = [] := by
      simp [acceptances, starts, Note.acceptance?, Note.start?]
    have losses : discards (p.queue.map fun job => (.discarded job.id : Note ε)) =
        p.queue.map Job.id := by
      rw [discards, List.filterMap_map]
      exact congrFun List.filterMap_eq_map p.queue
    rw [gains.1, gains.2, losses, List.append_nil, List.append_nil]
    refine ⟨?_, ordered.ascending, ordered.below, fun _ => Nat.zero_le _, fun _ => ⟨gone, rfl⟩⟩
    rw [ordered.served]
    by_cases none : discarded = []
    · simp [none]
    · simp [(ordered.forsaken none).2]

theorem motion {shown : List (Note ε)} (ordered : Ordered p accepted started discarded)
    (motion : Motion p p' shown) :
    Ordered p' (accepted ++ acceptances shown) (started ++ starts shown)
      (discarded ++ discards shown) := by
  have lifeless := motion.lifeless
  cases motion with
  | accepts job next open_ =>
    change Ordered _ (accepted ++ [job.id]) (started ++ []) (discarded ++ [])
    rw [List.append_nil, List.append_nil]
    exact ordered.accept job next open_
  | refuses job next f refused =>
    have refusing := ordered.same { p with submitted := p.submitted + 1 } rfl rfl (Nat.le_succ _)
      lifeless
    refine refusing.quiet _ fun note member => ?_
    rcases List.mem_cons.1 member with rfl | alarm
    · exact ⟨rfl, rfl, rfl⟩
    · rcases mem_alarm job _ _ note alarm with ⟨_, _, rfl⟩ | ⟨_, rfl⟩ <;> exact ⟨rfl, rfl, rfl⟩
  | starts worker job rest idle first =>
    change Ordered _ (accepted ++ []) (started ++ [job.id]) (discarded ++ [])
    rw [List.append_nil, List.append_nil]
    exact ordered.start worker job rest idle first
  | ends worker job ending busy mild =>
    have ended := ordered.same { p with slots := p.slots.set worker .idle } rfl rfl (Nat.le_refl _)
      lifeless
    exact ended.quiet _ (unordered_ending job (.worker worker) ending)
  | kills worker job ending p' lost busy fatal swept =>
    have live := live_of_slot p worker _ rfl busy
    have buried := ordered.same { p with slots := p.slots.set worker .dead } rfl rfl (Nat.le_refl _)
      fun gone => by rw [live] at gone; cases gone
    have told := buried.quiet _ (unordered_ending job (.worker worker) ending)
    have ended := (told.quiet [.died worker] fun note member => by
      rw [List.mem_singleton.1 member]
      exact ⟨rfl, rfl, rfl⟩).sweep lost swept
    rw [← List.singleton_append, ← List.append_assoc]
    simpa only [acceptances, starts, discards, List.filterMap_append, List.append_assoc] using ended
  | closes _ _ taking swept =>
    have closing := ordered.same { p with phase := .closing } rfl rfl (Nat.le_refl _)
      fun gone => gone
    exact closing.sweep _ swept
  | rests stopped => exact ordered.quiet [] fun note member => by cases member
  | joins closing empty free =>
    have joined := ordered.same { p with slots := [], phase := .closed } rfl rfl (Nat.le_refl _)
      lifeless
    refine joined.quiet _ fun note member => ?_
    rw [List.eq_of_mem_replicate member]
    exact ⟨rfl, rfl, rfl⟩

end Ordered

theorem full_iff (p : Pool α ε) (taking : p.phase = .taking) (live : p.hasLiveWorker = true) :
    p.refusal? = some .queueFull ↔ 0 < p.capacity ∧ p.capacity ≤ p.queue.length := by
  have open_ : ¬ (p.phase ≠ .taking ∨ p.hasLiveWorker = false) := by simp [taking, live]
  rw [Pool.refusal?, if_neg open_]
  by_cases room : p.hasRoom = true
  · rw [if_pos room]
    simp only [Pool.hasRoom, Bool.or_eq_true, beq_iff_eq, decide_eq_true_eq] at room
    constructor
    · intro same
      cases same
    · rintro ⟨places, crowded⟩
      omega
  · rw [if_neg room]
    simp only [Pool.hasRoom, Bool.or_eq_true, beq_iff_eq, decide_eq_true_eq, not_or,
      Nat.not_lt] at room
    exact ⟨fun _ => ⟨Nat.pos_of_ne_zero room.1, room.2⟩, fun _ => rfl⟩

theorem endless_never_full (p : Pool α ε) (endless : p.capacity = 0) :
    p.refusal? ≠ some .queueFull := by
  intro full
  unfold Pool.refusal? at full
  split at full
  · exact absurd (Option.some.inj full) (by decide)
  · simp [Pool.hasRoom, endless] at full

/-- What is known of the order of jobs after any moves of a pool. -/
structure InOrder (capacity workers : Nat) (h : Host α ε) (notes : List (Note ε)) : Prop where
  order : acceptances notes = starts notes ++ h.pool.queue.map Job.id ++ discards notes
  ascending : (acceptances notes).Pairwise (· < ·)
  forsaken : discards notes ≠ [] → ∀ worker < workers, .died worker ∈ notes
  bounded : 0 < capacity → h.pool.queue.length ≤ capacity
  full : ∀ move next new, move.submits = true → h.step? move = some (next, new) →
    h.pool.phase = .taking → h.pool.hasLiveWorker = true →
      (.rejected h.pool.submitted .queueFull ∈ new ↔
        0 < capacity ∧ h.pool.queue.length = capacity)
  endless : capacity = 0 → ∀ job, .rejected job .queueFull ∉ notes
  occupied : (∀ worker, h.step? (.pickUp worker) = none) → h.pool.queue ≠ [] →
    ∀ slot ∈ h.pool.slots, slot.isLive = true → ∃ job, slot = .busy job

theorem occupied_of_stuck (h : Host α ε) (stuck : ∀ worker, h.step? (.pickUp worker) = none)
    (filled : h.pool.queue ≠ []) (slot : Slot α ε) (member : slot ∈ h.pool.slots)
    (live : slot.isLive = true) : ∃ job, slot = .busy job := by
  obtain ⟨worker, held⟩ := List.mem_iff_getElem?.1 member
  cases slot with
  | busy job => exact ⟨job, rfl⟩
  | dead => cases live
  | idle =>
    cases queue : h.pool.queue with
    | nil => exact absurd queue filled
    | cons job rest =>
      have none := stuck worker
      simp [Host.step?, Host.pickUp?, held, queue] at none

theorem run_ordered (start h : Host α ε) (moves : List (Host.Move α ε)) (notes : List (Note ε))
    (ran : start.run? moves = some (h, notes)) (ordered : Ordered start.pool [] [] []) :
    Ordered h.pool (acceptances notes) (starts notes) (discards notes) ∧
      h.pool.capacity = start.pool.capacity ∧
      (start.pool.capacity = 0 → ∀ job, .rejected job .queueFull ∉ notes) := by
  rw [host_run_follows] at ran
  refine follow_invariant Host.step? (fun h notes =>
    Ordered h.pool (acceptances notes) (starts notes) (discards notes) ∧
      h.pool.capacity = start.pool.capacity ∧
      (start.pool.capacity = 0 → ∀ job, .rejected job .queueFull ∉ notes))
    ?_ start h [] notes moves ⟨ordered, rfl, fun _ _ => List.not_mem_nil⟩ ran
  rintro h seen move next new ⟨before, same, never⟩ moved
  have motion := Host.step_motion h next move new moved
  refine ⟨?_, motion.settings.1.trans same, fun endless job rejected => ?_⟩
  · have after := before.motion motion
    obtain ⟨accepted, started, discarded⟩ := order_milestones new
    rw [accepted, started, discarded] at after
    simpa only [acceptances, starts, discards, List.filterMap_append] using after
  · rcases List.mem_append.1 rejected with old | now
    · exact never endless job old
    · exact endless_never_full h.pool (same.trans endless)
        (motion.rejection job .queueFull ((mem_milestones new _ rfl).2 now))

theorem jobs_are_served_in_order (threadName : String) (capacity : Nat) (lasting : Bool)
    (workers : Nat) (moves : List (Host.Move α ε)) (h : Host α ε) (notes : List (Note ε))
    (ran : (Host.fresh threadName capacity lasting workers).run? moves = some (h, notes)) :
    InOrder capacity workers h notes := by
  obtain ⟨fate, ⟨ledger, _⟩⟩ := Host.run_ledger workers _ _ h [] notes [] _ moves
    (Ledger.fresh threadName capacity lasting workers) ran
  obtain ⟨ordered, same, never⟩ := run_ordered _ h moves notes ran
    ⟨rfl, .nil, fun job member => (List.not_mem_nil member).elim, fun _ => Nat.zero_le _,
      fun some => absurd rfl some⟩
  change h.pool.capacity = capacity at same
  have bounded : 0 < capacity → h.pool.queue.length ≤ capacity := same ▸ ordered.bounded
  refine ⟨ordered.served, ordered.ascending, fun some => ?_, bounded, ?_, never,
    occupied_of_stuck h⟩
  · obtain ⟨job, lost⟩ := List.exists_mem_of_ne_nil _ some
    obtain ⟨note, member, read⟩ := List.mem_filterMap.1 lost
    cases note with
    | discarded other =>
      exact (ledger.deaths.desolate other (by simpa using member)).2
    | _ => cases read
  · intro move next new submits moved taking live
    rw [Host.submission_refused_iff h next move new submits moved, full_iff h.pool taking live,
      same]
    refine and_congr_right fun places => ?_
    have bound := bounded places
    omega

def strandingRun : List (Host.Move Unit Unit) :=
  [.detach (uttering (.brokeOff .silent)) "first" (some fatalHook), .pickUp 0,
    .promise (uttering (.returned (.ok .undefined))),
    .promise (uttering (.returned (.ok .undefined))), .finish 0 (), .close]

theorem stranding_run_is_in_order : ∃ h notes,
    (Host.start "io" 1 1).run? strandingRun = some (h, notes) ∧ acceptances notes = [0, 1] ∧
      starts notes = [0] ∧ discards notes = [1] ∧ notes[4]? = some (.rejected 2 .queueFull) ∧
      InOrder 1 1 h notes :=
  ⟨_, _, rfl, rfl, rfl, rfl, rfl, jobs_are_served_in_order "io" 1 true 1 strandingRun _ _ rfl⟩

end HostBridge
