import HostBridge.Proofs.Pool.Conservation

set_option autoImplicit false

namespace HostBridge

variable {α ε : Type}

def Note.callOf? (job : JobId) : Note ε → Option Failure
  | .hooked other _ f => if other = job then some f else none
  | _ => none

def hookCalls (notes : List (Note ε)) (job : JobId) : List Failure :=
  notes.filterMap (Note.callOf? job)

theorem calls_append (notes more : List (Note ε)) (job : JobId) :
    hookCalls (notes ++ more) job = hookCalls notes job ++ hookCalls more job := by
  simp [hookCalls]

theorem calls_cons (note : Note ε) (rest : List (Note ε)) (job : JobId) :
    hookCalls (note :: rest) job = (note.callOf? job).toList ++ hookCalls rest job := by
  cases called : note.callOf? job <;> simp [hookCalls, called]

theorem calls_acts (acts : List ε) (site : Site) (owner : Option JobId) (job : JobId) :
    hookCalls (acts.map (Note.acted site owner)) job = [] := by
  simp [hookCalls, Note.callOf?]

theorem calls_story (notes : List (Note ε)) (job : JobId) :
    hookCalls notes job = hookCalls (storyOf notes job) job := by
  induction notes with
  | nil => rfl
  | cons note rest ih =>
    rw [calls_cons, story_cons, ih]
    by_cases about : note.job? = some job
    · rw [if_pos about, calls_cons]
    · rw [if_neg about]
      have uncalled : note.callOf? job = none := by
        cases note with
        | hooked other site f =>
          have differ : other ≠ job := fun same => about (by rw [same]; rfl)
          simp [Note.callOf?, differ]
        | _ => rfl
      rw [uncalled]
      rfl

theorem calls_report (job : Job α ε) (site : Site) (outcome : Settlement) (origin : String)
    (hook : Hook ε) (hooked : job.completion = .detached origin (some hook)) :
    hookCalls (job.report site outcome) job.id =
      match outcome with
      | .ok _ => []
      | .error f => [f] := by
  unfold Job.report
  rw [hooked]
  cases outcome with
  | ok v => rfl
  | error f => simp [calls_cons, calls_acts, Note.callOf?]

theorem calls_of_fate (thread : Nat → String) (job : Job α ε) (fate : Fate α) (origin : String)
    (hook : Hook ε) (hooked : job.completion = .detached origin (some hook)) :
    hookCalls (fate.story thread job) job.id =
      match fate with
      | .finished worker answer =>
        match (job.ending thread worker answer).outcome with
        | .ok _ => []
        | .error f => [f]
      | .refused f => [f]
      | _ => [] := by
  have silent (worker : Nat) : hookCalls (job.beginning worker) job.id = [] := by
    rw [Job.beginning, calls_cons, calls_acts]
    rfl
  cases fate with
  | waiting => rfl
  | running worker =>
    rw [Fate.story, calls_cons, silent]
    rfl
  | finished worker answer =>
    rw [Fate.story, calls_cons, calls_append, silent, Job.conclusion, calls_append, calls_acts,
      calls_cons, calls_report job _ _ origin hook hooked]
    rfl
  | spilled worker answer =>
    rw [Fate.story, calls_cons, calls_append, silent, Job.spillage, calls_append, calls_acts]
    rfl
  | refused f =>
    rw [Fate.story, calls_cons, calls_report job _ _ origin hook hooked]
    rfl
  | dropped => rfl

def Reported (notes : List (Note ε)) (job : JobId) : Prop :=
  (∃ f, .rejected job f ∈ notes ∧ hookCalls notes job = [f]) ∨
    (.discarded job ∈ notes ∧ ∃ f, hookCalls notes job = [f]) ∨
      (∃ worker ending f, .ended job worker ending ∈ notes ∧ ending.outcome = .error f ∧
        hookCalls notes job = [f]) ∨
        ∃ worker ending v, .ended job worker ending ∈ notes ∧ ending.outcome = .ok v ∧
          hookCalls notes job = []

theorem discarded_of_story (notes : List (Note ε)) (job : Job α ε) (thread : Nat → String)
    (fate : Fate α) (told : storyOf notes job.id = fate.story thread job) :
    .discarded job.id ∈ notes ↔ fate.place = .discarded := by
  have counted : marks notes job.id .discarded = if fate.place = .discarded then 1 else 0 := by
    rw [marks_story, told, marks_of_fate]
  have positive : 0 < marks notes job.id .discarded ↔ .discarded job.id ∈ notes := by
    rw [marks, List.countP_pos_iff]
    constructor
    · rintro ⟨note, member, marked⟩
      cases note with
      | discarded other =>
        obtain rfl : other = job.id := by simpa [Note.mark?] using marked
        exact member
      | _ => simp [Note.mark?] at marked
    · intro member
      exact ⟨_, member, by simp [Note.mark?]⟩
  rw [← positive, counted]
  by_cases gone : fate.place = .discarded <;> simp [gone]

theorem reported_of_fate (notes : List (Note ε)) (job : Job α ε) (thread : Nat → String)
    (fate : Fate α) (told : storyOf notes job.id = fate.story thread job) (origin : String)
    (hook : Hook ε) (hooked : job.completion = .detached origin (some hook))
    (away : fate.place ≠ .queued ∧ fate.place ≠ .running) (kept : fate.place ≠ .discarded)
    (unspilled : ∀ worker answer, fate ≠ .spilled worker answer) :
    Reported notes job.id := by
  have calls : hookCalls notes job.id = hookCalls (fate.story thread job) job.id := by
    rw [calls_story, told]
  rw [calls_of_fate thread job fate origin hook hooked] at calls
  have shown := mem_of_story notes job thread fate told
  cases fate with
  | waiting => exact absurd rfl away.1
  | running worker => exact absurd rfl away.2
  | dropped => exact absurd rfl kept
  | spilled worker answer => exact absurd rfl (unspilled worker answer)
  | refused f => exact Or.inl ⟨f, shown _ (by simp [Fate.story]), calls⟩
  | finished worker answer =>
    have ended : .ended job.id worker (job.ending thread worker answer) ∈ notes :=
      shown _ (by simp [Fate.story, Job.conclusion])
    cases outcome : (job.ending thread worker answer).outcome with
    | ok v =>
      exact Or.inr (Or.inr (Or.inr ⟨_, _, v, ended, outcome, by simpa [outcome] using calls⟩))
    | error f =>
      exact Or.inr (Or.inr (Or.inl ⟨_, _, f, ended, outcome, by simpa [outcome] using calls⟩))

theorem unreported_of_dropped (notes : List (Note ε)) (job : Job α ε) (thread : Nat → String)
    (told : storyOf notes job.id = (Fate.dropped : Fate α).story thread job) :
    hookCalls notes job.id = [] ∧ ¬ Reported notes job.id := by
  have calls : hookCalls notes job.id = [] := by
    rw [calls_story, told]
    rfl
  refine ⟨calls, ?_⟩
  rintro (⟨f, _, called⟩ | ⟨_, f, called⟩ | ⟨_, _, f, _, _, called⟩ | ⟨worker, ending, _, ended, _⟩)
  · simp [calls] at called
  · simp [calls] at called
  · simp [calls] at called
  · have shown := (mem_story notes (.ended job.id worker ending) job.id rfl).2 ended
    rw [told] at shown
    simp [Fate.story] at shown

theorem failures_reach_hooks_unless_discarded (threadName : String) (capacity workers : Nat)
    (moves : List (Host.Move α ε)) (h : Host α ε) (notes : List (Note ε))
    (ran : (Host.start threadName capacity workers).run? moves = some (h, notes))
    (job : Job α ε) (member : job ∈ Host.submissions 0 0 moves) (origin : String)
    (hook : Hook ε) (hooked : job.completion = .detached origin (some hook))
    (unqueued : occurrences h notes job.id .queued = 0)
    (idle : occurrences h notes job.id .running = 0) :
    (Reported notes job.id ↔ .discarded job.id ∉ notes) ∧
      (.discarded job.id ∈ notes → hookCalls notes job.id = [] ∧ 0 < workers ∧
        ∀ worker < workers, .died worker ∈ notes) := by
  obtain ⟨fate, ⟨ledger, _, calm⟩⟩ := Host.run_ledger workers _ _ h [] notes [] _ moves
    (Ledger.start threadName capacity workers) ran
  simp only [List.nil_append] at ledger
  have told := ledger.stories.told job member
  have discarded := discarded_of_story notes job _ _ told
  have away : (fate job.id).place ≠ .queued ∧ (fate job.id).place ≠ .running := by
    rw [ledger.located job member] at unqueued idle
    constructor
    · intro queued
      simp [queued] at unqueued
    · intro running
      simp [running] at idle
  by_cases gone : (fate job.id).place = .discarded
  · have dropped : fate job.id = .dropped := by
      cases held : fate job.id <;> rw [held] at gone <;> cases gone
    rw [dropped] at told
    obtain ⟨calls, unreported⟩ := unreported_of_dropped notes job _ told
    have lost := discarded.2 gone
    exact ⟨⟨fun reported => absurd reported unreported, fun kept => absurd lost kept⟩,
      fun _ => ⟨calls, ledger.deaths.desolate job.id lost⟩⟩
  · have kept : .discarded job.id ∉ notes := fun lost => gone (discarded.1 lost)
    exact ⟨⟨fun _ => kept, fun _ =>
      reported_of_fate notes job _ _ told origin hook hooked away gone
        (ledger.never_spilled calm job member)⟩,
        fun lost => absurd lost kept⟩

-- The only worker is killed by the hook of the first job while the second one waits.
def lossyRun : List (Host.Move Unit Unit) :=
  [.detach (uttering (.brokeOff .silent)) "first" (some fatalHook),
    .detach (uttering (.returned (.ok .undefined))) "second" (some calmHook), .pickUp 0,
    .finish 0 (), .close, .join]

theorem fatal_hook_was_called : ∃ h notes,
    (Host.start "io" 0 1).run? lossyRun = some (h, notes) ∧
      hookCalls notes 0 = [.brokenOff "unknown panic"] ∧
      (Reported notes 0 ↔ .discarded 0 ∉ notes) :=
  ⟨_, _, rfl, rfl, (failures_reach_hooks_unless_discarded "io" 0 1 lossyRun _ _ rfl
    ⟨0, uttering (.brokeOff .silent), .detached "first" (some fatalHook)⟩ (.head _) "first"
    fatalHook rfl rfl rfl).1⟩

theorem waiting_job_went_unreported : ∃ h notes,
    (Host.start "io" 0 1).run? lossyRun = some (h, notes) ∧ h.pool.phase = .closed ∧
      (∃ job ∈ Host.submissions 0 0 lossyRun, job.id = 1 ∧
        job.completion = .detached "second" (some calmHook)) ∧
      occurrences h notes 1 .queued = 0 ∧ occurrences h notes 1 .running = 0 ∧
      hookCalls notes 1 = [] ∧ ¬ Reported notes 1 := by
  refine ⟨_, _, rfl, rfl, ⟨_, .tail _ (.head _), rfl, rfl⟩, rfl, rfl, ?_⟩
  exact unreported_of_dropped _
    ⟨1, uttering (.returned (.ok .undefined)), .detached "second" (some calmHook)⟩
    (fun worker => s!"io-{worker}") rfl

end HostBridge
