import HostBridge.Proofs.Ads.Methods
import HostBridge.Proofs.Bridge.Origins

set_option autoImplicit false

namespace HostBridge.Ads

def called? : Note Act → Option Call
  | .acted _ _ (.called call) => some call
  | _ => none

structure Asks (job : Job Backend Act) (call : Call) : Prop where
  opening : job.work.opening = [.called call]
  closing : ∀ thread backend, ∀ act ∈ (job.work.closing thread backend).1,
    ∃ event, act = .published event
  hook : ∀ origin hook f, job.completion = .detached origin (some hook) →
    ∀ act ∈ hook.acts f, ∃ event, act = .published event

theorem load_asks (format : Format) (requestId : Int) (adUnitId : String)
    (options : RequestOptions) (id : JobId) (origin : String) :
    Asks ⟨id, loadWork format requestId adUnitId options,
        .detached origin (some (loadHook format requestId adUnitId))⟩
      (.load format requestId adUnitId options) := by
  refine ⟨rfl, fun thread backend act shown => ?_, fun own hook f completion act shown => ?_⟩
  · simp only [loadWork, asking] at shown
    split at shown
    · cases shown
    · exact ⟨_, List.mem_singleton.1 shown⟩
    · exact ⟨_, List.mem_singleton.1 shown⟩
  · cases completion
    exact ⟨_, List.mem_singleton.1 shown⟩

theorem inquiry_asks (inquiry : Inquiry) (space : String) (id : JobId)
    (completion : Completion Act)
    (unhooked : ∀ origin hook, completion ≠ .detached origin (some hook)) :
    Asks ⟨id, inquiry.work space, completion⟩ inquiry.call := by
  refine ⟨rfl, fun thread backend act shown => ?_,
    fun origin hook f same => absurd same (unhooked origin hook)⟩
  simp only [Inquiry.work, asking] at shown
  split at shown <;> cases shown

theorem events_call_nothing (acts : List Act) (site : Site) (owner : Option JobId)
    (events : ∀ act ∈ acts, ∃ event, act = .published event) :
    ∀ note ∈ acts.map (Note.acted site owner), called? note = none := by
  intro note shown
  obtain ⟨act, among, rfl⟩ := List.mem_map.1 shown
  obtain ⟨event, rfl⟩ := events act among
  rfl

namespace Asks

variable {job : Job Backend Act} {call : Call} (asks : Asks job call)

include asks

theorem report_calls_nothing (site : Site) (outcome : Settlement) :
    ∀ note ∈ job.report site outcome, called? note = none := by
  intro note shown
  unfold Job.report at shown
  split at shown
  · next origin hook f completion =>
    rcases List.mem_cons.1 shown with rfl | act
    · rfl
    · exact events_call_nothing _ _ _ (asks.hook origin hook f completion) note act
  · cases shown

theorem conclusion_calls_nothing (thread : Nat → String) (worker : Nat) (backend : Backend) :
    ∀ note ∈ job.conclusion thread worker backend, called? note = none := by
  intro note shown
  rcases List.mem_append.1 shown with act | later
  · exact events_call_nothing _ _ _ (asks.closing _ backend) note act
  · rcases List.mem_cons.1 later with rfl | told
    · rfl
    · exact asks.report_calls_nothing _ _ note told

theorem story_calls (fate : Fate Backend)
    (unspilled : ∀ worker backend, fate ≠ .spilled worker backend) (thread : Nat → String)
    (site : Site) (owner : Option JobId) (other : Call)
    (shown : .acted site owner (.called other) ∈ fate.story thread job) :
    ∃ worker rest, site = .worker worker ∧ owner = some job.id ∧ other = call ∧
      fate.story thread job = .accepted job.id :: .started job.id worker ::
        .acted (.worker worker) (some job.id) (.called call) :: rest ∧
      ∀ note ∈ rest, called? note = none := by
  cases fate with
  | waiting => simp [Fate.story] at shown
  | dropped => simp [Fate.story] at shown
  | spilled worker backend => exact absurd rfl (unspilled worker backend)
  | refused f =>
    rcases List.mem_cons.1 shown with same | told
    · cases same
    · cases asks.report_calls_nothing _ _ _ told
  | running worker =>
    simp only [Fate.story, Job.beginning, asks.opening, List.map_cons, List.map_nil, List.mem_cons,
      reduceCtorEq, false_or, List.not_mem_nil, or_false] at shown
    cases shown
    exact ⟨worker, [], rfl, rfl, rfl, by simp [Fate.story, Job.beginning, asks.opening],
      fun note among => by cases among⟩
  | finished worker backend =>
    have quiet := asks.conclusion_calls_nothing thread worker backend
    simp only [Fate.story, Job.beginning, asks.opening, List.map_cons, List.map_nil,
      List.cons_append, List.nil_append, List.mem_cons, reduceCtorEq, false_or] at shown
    rcases shown with same | told
    · cases same
      exact ⟨worker, _, rfl, rfl, rfl, by simp [Fate.story, Job.beginning, asks.opening], quiet⟩
    · cases quiet _ told

theorem complete_calls_nothing (h : Host Backend Act) (site : Site) (outcome : Settlement) :
    ∀ note ∈ (h.complete site job outcome).2.1, called? note = none := by
  intro note shown
  unfold Host.complete at shown
  split at shown
  · rw [List.mem_singleton.1 shown]
    rfl
  · cases shown
  · rw [List.mem_singleton.1 shown]
    rfl
  · next origin hook f completion =>
    rcases List.mem_cons.1 shown with rfl | told
    · rfl
    · rcases List.mem_cons.1 told with rfl | act
      · rfl
      · exact events_call_nothing _ _ _ (asks.hook origin hook f completion) note act

theorem submit_calls_nothing (h : Host Backend Act) (id : job.id = h.pool.submitted) :
    ∀ note ∈ (h.submit job.work job.completion).2.1, called? note = none := by
  intro note shown
  cases verdict : h.pool.refusal? with
  | none =>
    rw [Host.submit_accepting h _ _ verdict] at shown
    rw [List.mem_singleton.1 shown]
    rfl
  | some f =>
    rw [Host.submit_refusing h _ _ f verdict, ← id] at shown
    rcases List.mem_cons.1 shown with rfl | told
    · rfl
    · exact asks.complete_calls_nothing _ _ _ note told

end Asks

theorem served_calls_nothing {h next : Host Backend Act} {new : List (Note Act)}
    {made : List (Job Backend Act)} (served : Served h next new made)
    (asking : ∀ job ∈ made, ∃ call, Asks job call) : ∀ note ∈ new, called? note = none := by
  cases served with
  | still =>
    intro note shown
    cases shown
  | stored cell _ kept =>
    intro note shown
    obtain ⟨_, _, rfl⟩ := kept note shown
    rfl
  | promised work =>
    obtain ⟨call, asks⟩ := asking _ (.head _)
    exact asks.submit_calls_nothing { h with results := h.results ++ [Cell.fresh] } rfl
  | detached work origin hook =>
    obtain ⟨call, asks⟩ := asking _ (.head _)
    exact asks.submit_calls_nothing h rfl

structure Defers (m : AdMethod) (reaction : Reaction Backend Act) : Prop where
  acts : ∀ act ∈ reaction.acts, ∃ event, act = .published event
  asks : ∀ job : Job Backend Act, job.ComesOf reaction.result → ∃ call, Asks job call
  grounds : ∀ job : Job Backend Act, job.ComesOf reaction.result →
    (∃ format, m = .load format) ∨ ∃ p, m = .promise p

theorem defers_idle (m : AdMethod) (acts : List Act)
    (result : Except Failure (Outcome Backend Act))
    (events : ∀ act ∈ acts, ∃ event, act = .published event)
    (idle : ∀ job : Job Backend Act, ¬ job.ComesOf result) : Defers m ⟨acts, result⟩ :=
  ⟨events, fun job comes => absurd comes (idle job), fun job comes => absurd comes (idle job)⟩

theorem defers_failed (m : AdMethod) (f : Failure) : Defers m (Reaction.quiet (.error f)) :=
  defers_idle m [] (.error f) (List.forall_mem_nil _) fun job comes => by cases comes

theorem load_defers (format : Format) (x : Binary64) (adUnitId : String)
    (fields : KeyMap Value) :
    Defers (.load format) (loadHandler format [.number x, .string adUnitId, .object fields]) := by
  rw [load_handled]
  cases requestIdOf x with
  | error f => exact defers_failed _ f
  | ok requestId =>
    cases decoded RequestOptions 2 (.object fields) with
    | error f =>
      refine defers_idle _ [.published (loadFailure format requestId adUnitId f)] (.ok .done)
        (fun act shown => ?_) fun job comes => ?_
      · exact ⟨_, List.mem_singleton.1 shown⟩
      · cases comes
    | ok options =>
      simp only
      refine ⟨List.forall_mem_nil _, fun job comes => ?_, fun job comes => Or.inl ⟨format, rfl⟩⟩
      obtain ⟨id, _, _⟩ := job
      obtain ⟨rfl, origin, rfl⟩ := comes
      exact ⟨_, load_asks format requestId adUnitId options id origin⟩

theorem promise_defers (p : PromiseMethod) (args : List Value) (bound : Arguments)
    (fits : p.signature.bind args = .ok bound) : Defers (.promise p) (p.handler bound) := by
  rw [promise_handled p args bound fits]
  cases p.request bound with
  | error f => exact defers_failed _ f
  | ok inquiry =>
    change Defers _ ⟨[], .ok (.blocking (inquiry.work p.space))⟩
    refine ⟨List.forall_mem_nil _, fun job comes => ?_, fun job comes => Or.inr ⟨p, rfl⟩⟩
    obtain ⟨id, _, completion⟩ := job
    obtain ⟨rfl, unhooked⟩ := comes
    exact ⟨_, inquiry_asks inquiry p.space id completion unhooked⟩

theorem method_defers (m : AdMethod) (others : ∀ s, m ≠ .setter s) (args : List Value)
    (bound : Arguments) (fits : m.method.signature.bind args = .ok bound) :
    Defers m (m.method.handler bound) := by
  cases m with
  | setter s => exact absurd rfl (others s)
  | constants => exact defers_idle _ [] _ (List.forall_mem_nil _) nofun
  | load format =>
    obtain ⟨x, adUnitId, fields, rest, _, rfl⟩ := load_binds args bound fits
    exact load_defers format x adUnitId fields
  | promise p => exact promise_defers p args bound fits

theorem other_methods_call_nothing (b : Bridge Backend Act) (m : AdMethod)
    (others : ∀ s, m ≠ .setter s) (h : Host Backend Act) (args : List Value) (bound : Arguments)
    (fits : m.method.signature.bind args = .ok bound)
    (reached : b.target m.module m.method.name args = .ok (m.method, bound)) :
    ∀ note ∈ (b.invoke h m.module m.method.name args).2.1, called? note = none := by
  obtain ⟨new, made, served, shown, comes⟩ := b.reached_served h _ _ args _ bound reached
  have defers := method_defers m others args bound fits
  intro note among
  rw [shown] at among
  rcases List.mem_append.1 among with act | later
  · exact events_call_nothing _ _ _ defers.acts note act
  · exact served_calls_nothing served (fun job member => defers.asks job (comes job member)) note
      later

structure OwnCalls (b : Bridge Backend Act) (h : Host Backend Act) (module method : String)
    (args : List Value) : Prop where
  only : (∃ note ∈ (b.invoke h module method args).2.1, (called? note).isSome = true) ↔
    (∃ s : Setter, module = s.module ∧ method = s.name) ∧
      (b.invoke h module method args).2.2 = some (.ok .void)
  exact : ∀ s : Setter, module = s.module → method = s.name →
    (b.invoke h module method args).2.2 = some (.ok .void) →
      ∃ call, s.order? args = some call ∧ b.invoke h module method args =
        (h, [.acted .caller none (.called call)], some (.ok .void))

theorem setter_alone (m : AdMethod) (s : Setter) (same : m.method = (AdMethod.setter s).method) :
    ∃ other, m = .setter other := by
  have signature := congrArg Method.signature same
  cases m with
  | setter other => exact ⟨other, rfl⟩
  | load format => cases s <;> cases signature
  | promise p => cases p <;> cases s <;> cases signature
  | constants => cases s <;> cases signature

section Built

variable {config : Config} {processors : Nat} {b : Bridge Backend Act}
  {start : Host Backend Act} (built : build config processors = .ok (b, start))

include built

theorem own_calls (h : Host Backend Act) (module method : String) (args : List Value) :
    OwnCalls b h module method args := by
  cases reached : b.target module method args with
  | error e =>
    have invoked : b.invoke h module method args = (h, [], some (.error e)) := by
      rw [Bridge.invoke, reached]
    exact ⟨by simp [invoked], fun s _ _ void => by simp [invoked] at void⟩
  | ok pair =>
    obtain ⟨found, bound⟩ := pair
    obtain ⟨m, rfl, rfl, rfl, fits⟩ := called_method built module method args found bound reached
    -- A setter of this name is the method itself.
    have own : ∀ s : Setter, m.module = s.module → m.method.name = s.name →
        (AdMethod.setter s).method = m.method := by
      intro s module name
      have resolved := (b.resolve_of_target _ _ args _ bound reached).1
      rw [module, name, setter_resolves built s] at resolved
      exact Except.ok.inj resolved
    refine ⟨?_, fun s module name void => ?_⟩
    · by_cases setter : ∃ s, m = .setter s
      · obtain ⟨s, rfl⟩ := setter
        obtain ⟨call, _, invoked⟩ := setter_invoked built s h args bound fits
        simp only [AdMethod.module, AdMethod.method]
        rw [invoked]
        cases s.fault? args with
        | some f => simp
        | none => exact iff_of_true ⟨_, .head _, rfl⟩ ⟨⟨s, rfl, rfl⟩, rfl⟩
      · have silent := other_methods_call_nothing b m (fun s same => setter ⟨s, same⟩) h args
          bound fits reached
        refine iff_of_false ?_ ?_
        · rintro ⟨note, shown, calls⟩
          rw [silent note shown] at calls
          cases calls
        · rintro ⟨⟨s, module, name⟩, _⟩
          exact setter (setter_alone m s (own s module name).symm)
    · rw [← own s module name] at fits
      obtain ⟨call, ordered, invoked⟩ := setter_invoked built s h args bound fits
      rw [module, name, invoked] at void ⊢
      refine ⟨call, ordered, ?_⟩
      cases fault : s.fault? args with
      | some f =>
        rw [fault] at void
        cases void
      | none => rfl

theorem submitting_call (c : Invocation b start)
    (more : c.next.pool.submitted = c.host.pool.submitted + 1) :
    ∃ (job : Job Backend Act) (call : Call) (fate : Fate Backend),
      job.id = c.host.pool.submitted ∧ Asks job call ∧
      storyOf c.notes job.id = fate.story c.host.pool.threadOf job ∧
      (∀ worker backend, fate ≠ .spilled worker backend) ∧
      ((∃ format : Format, c.module = format.moduleName ∧ c.method = s!"{format.stem}Load") ∨
        ∃ p : PromiseMethod, c.module = p.module ∧ c.method = p.name) := by
  have moved : c.next ≠ c.host := fun same => by
    rw [same] at more
    exact Nat.succ_ne_self _ more.symm
  obtain ⟨all, _, _, rfl⟩ := build_put built
  cases reached : b.target c.module c.method c.args with
  | error e => exact absurd (by rw [Invocation.next, Bridge.invoke, reached]) moved
  | ok pair =>
    obtain ⟨found, bound⟩ := pair
    obtain ⟨m, module, name, rfl, fits⟩ :=
      called_method built c.module c.method c.args found bound reached
    by_cases setter : ∃ s, m = .setter s
    · obtain ⟨s, rfl⟩ := setter
      obtain ⟨call, _, invoked⟩ := setter_invoked built s c.host c.args bound fits
      refine absurd ?_ moved
      rw [Invocation.next, module, name]
      refine (congrArg (fun made => made.1) invoked).trans ?_
      cases s.fault? c.args <;> rfl
    · have defers := method_defers m (fun s same => setter ⟨s, same⟩) c.args bound fits
      obtain ⟨new, made, served, shown, comes⟩ :=
        b.reached_served c.host c.module c.method c.args _ bound reached
      rcases served.submits with ⟨_, same⟩ | ⟨job, rfl, id, _⟩
      · exact absurd (more.symm.trans same) (Nat.succ_ne_self _)
      · obtain ⟨call, asks⟩ := defers.asks job (comes job (.head _))
        obtain ⟨fate, told, unspilled, _⟩ :=
          (c.makes_of_served _ new _ served shown job (.head _)).followed
        refine ⟨job, call, fate, id, asks, told, unspilled, ?_⟩
        rcases defers.grounds job (comes job (.head _)) with ⟨format, rfl⟩ | ⟨p, rfl⟩
        · exact Or.inl ⟨format, module, name⟩
        · exact Or.inr ⟨p, module, name⟩

end Built

section Runs

variable (b : Bridge Backend Act) (start : Host Backend Act) (moves : List (Bridge.Move Backend))
  (notes early late : List (Note Act)) (site : Site) (owner : Option JobId) (call : Call)

def CalledAtOnce : Prop :=
  ∃ (c : Invocation b start) (s : Setter), c.moves = moves ∧ c.notes = notes ∧
    c.module = s.module ∧ c.method = s.name ∧ c.reply = some (.ok .void) ∧ early = c.earlier ∧
    c.during = [.acted site owner (.called call)] ∧ late = c.later

def CalledForJob : Prop :=
  ∃ (c : Invocation b start) (worker : Nat) (between rest : List (Note Act)),
    c.moves = moves ∧ c.notes = notes ∧
    ((∃ format : Format, c.module = format.moduleName ∧ c.method = s!"{format.stem}Load") ∨
      ∃ p : PromiseMethod, c.module = p.module ∧ c.method = p.name) ∧
    c.next.pool.submitted = c.host.pool.submitted + 1 ∧
    site = .worker worker ∧ owner = some c.host.pool.submitted ∧
    early = c.earlier ++ c.during ++ between ∧
    storyOf notes c.host.pool.submitted =
      .accepted c.host.pool.submitted :: .started c.host.pool.submitted worker ::
        .acted site owner (.called call) :: rest ∧
    ∀ note ∈ rest, called? note = none

structure CallsApart : Prop where
  own : ∀ h module method args, OwnCalls b h module method args
  each : ∀ early late site owner call, notes = early ++ .acted site owner (.called call) :: late →
    CalledAtOnce b start moves notes early late site owner call ∨
      CalledForJob b start moves notes early site owner call

end Runs

section Built

variable {config : Config} {processors : Nat} {b : Bridge Backend Act}
  {start : Host Backend Act} (built : build config processors = .ok (b, start))

include built

theorem backend_is_called_at_once_or_for_jobs (moves : List (Bridge.Move Backend))
    (last : Host Backend Act) (notes : List (Note Act))
    (ran : b.run? start moves = some (last, notes)) : CallsApart b start moves notes := by
  refine ⟨own_calls built, ?_⟩
  rintro early late site owner call rfl
  cases owner with
  | none =>
    obtain ⟨c, front, back, same, ended, during, rfl, rfl⟩ :=
      Invocation.of_act moves last site _ early late ran
    have own := own_calls built c.host c.module c.method c.args
    have calls : ∃ note ∈ c.during, (called? note).isSome = true :=
      ⟨_, during ▸ List.mem_append_right front (.head _), rfl⟩
    obtain ⟨⟨s, module, method⟩, void⟩ := own.only.1 calls
    obtain ⟨_, _, invoked⟩ := own.exact s module method void
    have alone : c.during = [.acted .caller none (.called _)] :=
      congrArg (fun made => made.2.1) invoked
    rw [alone] at during
    obtain ⟨rfl, rfl⟩ : front = [] ∧ back = [] := by
      have length := congrArg List.length during
      simp only [List.length_append, List.length_cons, List.length_nil] at length
      exact ⟨List.length_eq_zero_iff.1 (by omega), List.length_eq_zero_iff.1 (by omega)⟩
    refine Or.inl ⟨c, s, same, ?_, module, method, void, by simp, ?_, rfl⟩
    · simp [Invocation.notes, alone, ← List.singleton_inj.1 during]
    · rw [alone, during]
      rfl
  | some job =>
    obtain ⟨all, _, _, rfl⟩ := build_put built
    have among := List.mem_append_right early
      (List.mem_cons_self (a := Note.acted site (some job) (.called call)) (l := late))
    obtain ⟨c, same, ended, whole, rfl, more⟩ := Invocation.of_job moves last _ ran job
      (Nat.zero_le _) (Bridge.shown_job_lt ran _ job rfl among)
    obtain ⟨given, asked, fate, id, asks, told, unspilled, grounds⟩ :=
      submitting_call built c more
    rw [whole, id] at told
    have shown := (mem_story _ _ _ rfl).2 among
    rw [told] at shown
    obtain ⟨worker, rest, rfl, _, rfl, story, quiet⟩ :=
      asks.story_calls _ unspilled _ _ _ _ shown
    rw [id] at story
    rcases append_eq_split _ c.later early late _ whole with ⟨between, rfl, _⟩ | ⟨back, split, _⟩
    · exact Or.inr ⟨c, worker, between, rest, same, whole, grounds, more, rfl, rfl, rfl,
        told.trans story, quiet⟩
    · exfalso
      have before := List.mem_append_right early
        (List.mem_cons_self (a := Note.acted (.worker worker) (some c.host.pool.submitted)
          (.called call)) (l := back))
      rw [← split] at before
      rcases List.mem_append.1 before with old | own
      · exact Nat.lt_irrefl _ (Bridge.shown_job_lt c.reached _ _ rfl old)
      · have calls := own_calls built c.host c.module c.method c.args
        obtain ⟨⟨s, module, method⟩, void⟩ := calls.only.1 ⟨_, own, rfl⟩
        obtain ⟨_, _, invoked⟩ := calls.exact s module method void
        rw [Invocation.during, invoked] at own
        cases List.mem_singleton.1 own

end Built

def mixedMoves : List (Bridge.Move Backend) := [
  .invoke Setter.setAppMuted.module Setter.setAppMuted.name [.bool true],
  .invoke Format.appOpen.moduleName s!"{Format.appOpen.stem}Load"
    [.number (.ofInt 7), .string "unit", .object []],
  .pickUp 0, .finish 0 sulking, .close, .join]

set_option maxRecDepth 4000 in
theorem mixed_run_calls_apart : ∃ last notes,
    sampleAds.1.run? sampleAds.2 mixedMoves = some (last, notes) ∧
      notes.filterMap called? = [.setAppMuted true, .load .appOpen 7 "unit" Decodable.blank] ∧
      CallsApart sampleAds.1 sampleAds.2 mixedMoves notes := by
  have goes : (sampleAds.1.run? sampleAds.2 mixedMoves).isSome = true := by decide +kernel
  have ran := (Option.some_get goes).symm
  exact ⟨_, _, ran, rfl, backend_is_called_at_once_or_for_jobs sample_built mixedMoves _ _ ran⟩

end HostBridge.Ads
