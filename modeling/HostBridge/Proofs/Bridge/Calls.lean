import HostBridge.Proofs.Bridge.Lookup
import HostBridge.Proofs.Pool.History

set_option autoImplicit false

namespace HostBridge

variable {α ε : Type}

inductive Served (h : Host α ε) : Host α ε → List (Note ε) → List (Job α ε) → Prop where
  | still : Served h h [] []
  | stored (cell : Cell) (new : List (Note ε))
      (kept : ∀ note ∈ new, ∃ name id, note = .kept name id) :
      Served h { h with results := h.results ++ [cell] } new []
  | promised (work : Work α ε) :
      Served h (h.submitPromised work).1 (h.submitPromised work).2.1
        [⟨h.pool.submitted, work, .settle h.results.length⟩]
  | detached (work : Work α ε) (origin : String) (hook : Option (Hook ε)) :
      Served h (h.submitDetached work origin hook).1 (h.submitDetached work origin hook).2.1
        [⟨h.pool.submitted, work, .detached origin hook⟩]

def Job.ComesOf (job : Job α ε) : Except Failure (Outcome α ε) → Prop
  | .ok (.blocking work) =>
    job.work = work ∧ ∀ origin hook, job.completion ≠ .detached origin (some hook)
  | .ok (.detached work hook) =>
    job.work = work ∧ ∃ origin, job.completion = .detached origin (some hook)
  | _ => False

theorem Job.ComesOf.lethal {job : Job α ε} {result : Except Failure (Outcome α ε)}
    (comes : job.ComesOf result) (lethal : job.Lethal) :
    ∃ work hook site f, result = .ok (.detached work hook) ∧ hook.breaksOff site f = true := by
  obtain ⟨origin, hook, worker, f, owed, broke⟩ := lethal
  unfold ComesOf at comes
  split at comes
  · exact absurd owed (comes.2 origin hook)
  · next work own =>
    obtain ⟨_, _, also⟩ := comes
    cases owed.symm.trans also
    exact ⟨work, hook, .worker worker, f, rfl, broke⟩
  · cases comes

namespace Served

variable {h next : Host α ε} {new : List (Note ε)} {made : List (Job α ε)}

theorem grown (served : Served h next new made) : Pendings.Grown h.results next.results := by
  cases served with
  | still => exact .refl h.results
  | stored cell new kept => exact ⟨by simp, outcome_push h.results cell⟩
  | promised work =>
    have later := Host.submit_later { h with results := h.results ++ [Cell.fresh] } work
      (.settle h.results.length)
    refine ⟨?_, fun id s settled =>
      later.kept id s (outcome_push h.results Cell.fresh id s settled)⟩
    rw [show (h.submitPromised work).1.results.length = _ from later.length]
    simp
  | detached work origin hook =>
    have later := Host.submit_later h work (.detached origin hook)
    exact ⟨Nat.le_of_eq later.length.symm, later.kept⟩

theorem owes (served : Served h next new made) (job : Job α ε) (member : job ∈ made)
    (id : PendingId) (owed : job.owed? = some id) : h.results.length ≤ id := by
  cases served with
  | still => cases member
  | stored => cases member
  | promised work =>
    obtain rfl := List.mem_singleton.1 member
    exact Nat.le_of_eq (Option.some.inj owed)
  | detached work origin hook =>
    obtain rfl := List.mem_singleton.1 member
    cases owed

theorem ledger (served : Served h next new made) {workers : Nat} {thread : Nat → String}
    {notes : List (Note ε)} {jobs : List (Job α ε)} {fate : JobId → Fate α}
    (ledger : Ledger workers thread h notes jobs fate) :
    ∃ fate', Ledger workers thread next (notes ++ new) (jobs ++ made) fate' ∧
      ∀ job worker answer, fate' job = .finished worker answer →
        fate job = .finished worker answer := by
  cases served with
  | still => exact ⟨fate, by simpa using ledger, fun _ _ _ finished => finished⟩
  | stored cell new kept =>
    refine ⟨fate, ?_, fun _ _ _ finished => finished⟩
    rw [List.append_nil]
    refine (ledger.extend cell).quiet new fun note shown => ?_
    obtain ⟨_, _, rfl⟩ := kept note shown
    rfl
  | promised work => exact ⟨_, ledger.promise work, verdict_unfinished h.pool fate _⟩
  | detached work origin hook =>
    exact ⟨_, ledger.detach work origin hook, verdict_unfinished h.pool fate _⟩

theorem motion (served : Served h next new made) :
    next.pool = h.pool ∧ milestones new = [] ∨ Motion h.pool next.pool (milestones new) := by
  cases served with
  | still => exact Or.inl ⟨rfl, rfl⟩
  | stored cell new kept =>
    refine Or.inl ⟨rfl, List.filter_eq_nil_iff.2 fun note shown => ?_⟩
    obtain ⟨_, _, rfl⟩ := kept note shown
    exact Bool.false_ne_true
  | promised work =>
    exact Or.inr (Host.submit_motion { h with results := h.results ++ [Cell.fresh] } work _)
  | detached work origin hook => exact Or.inr (h.submit_motion work _)

theorem calm (served : Served h next new made) : ∀ note ∈ new, note.isMishap = false := by
  refine calm_of_milestones new ?_
  rcases served.motion with ⟨_, silent⟩ | motion
  · rw [silent]
    simp
  · exact motion.calm

end Served

namespace Host

theorem receive_served (h : Host α ε) (source : PendingSource) :
    Served h (h.receive source).1 (h.receive source).2.1 [] := by
  cases source with
  | existing id => exact .still
  | fresh keeper =>
    exact .stored Cell.fresh _ fun note shown => ⟨_, _, List.mem_singleton.1 shown⟩
  | settled outcome => exact .stored ⟨some outcome, []⟩ [] fun note shown => by cases shown

theorem shape_served (h : Host α ε) (module : String) (method : Method α ε)
    (result : Except Failure (Outcome α ε)) :
    ∃ made, Served h (h.shape module method result).1 (h.shape module method result).2.1 made ∧
      ∀ job ∈ made, job.ComesOf result := by
  have none_made : ∀ job ∈ ([] : List (Job α ε)), job.ComesOf result := fun job member => by
    cases member
  have one_made : ∀ job : Job α ε, job.ComesOf result → ∀ other ∈ [job], other.ComesOf result :=
    fun job comes other member => List.mem_singleton.1 member ▸ comes
  unfold shape
  cases method.signature.returns with
  | void =>
    cases result with
    | error f => exact ⟨[], .still, none_made⟩
    | ok outcome =>
      cases outcome with
      | value v => exact ⟨[], .still, none_made⟩
      | pending source => exact ⟨[], h.receive_served source, none_made⟩
      | blocking work => exact ⟨_, .detached work _ none, one_made _ ⟨rfl, fun _ _ => by simp⟩⟩
      | detached work hook =>
        exact ⟨_, .detached work _ (some hook), one_made _ ⟨rfl, _, rfl⟩⟩
  | value =>
    cases result with
    | error f => exact ⟨[], .still, none_made⟩
    | ok outcome =>
      cases outcome with
      | pending source => exact ⟨[], h.receive_served source, none_made⟩
      | _ => exact ⟨[], .still, none_made⟩
  | promise =>
    cases result with
    | error f => exact ⟨[], h.receive_served (.settled (.error f)), none_made⟩
    | ok outcome =>
      cases outcome with
      | value v => exact ⟨[], h.receive_served (.settled (.ok v)), none_made⟩
      | pending source => exact ⟨[], h.receive_served source, none_made⟩
      | detached work hook => exact ⟨[], .still, none_made⟩
      | blocking work => exact ⟨_, .promised work, one_made _ ⟨rfl, fun _ _ => by simp⟩⟩

end Host

theorem Ledger.acted {workers : Nat} {thread : Nat → String} {h : Host α ε}
    {notes : List (Note ε)} {jobs : List (Job α ε)} {fate : JobId → Fate α}
    (ledger : Ledger workers thread h notes jobs fate) (acts : List ε) :
    Ledger workers thread h (notes ++ acts.map (.acted .caller none)) jobs fate := by
  refine ledger.quiet _ fun note member => ?_
  obtain ⟨act, _, rfl⟩ := List.mem_map.1 member
  rfl

namespace Bridge

def Harmless (b : Bridge α ε) : Prop :=
  ∀ module method found, b.resolve module method = .ok found →
    ∀ args work hook, (found.handler args).result = .ok (.detached work hook) →
      ∀ site f, hook.breaksOff site f = false

theorem reached_served (b : Bridge α ε) (h : Host α ε) (module method : String)
    (args : List Value) (found : Method α ε) (bound : Arguments)
    (reached : b.target module method args = .ok (found, bound)) :
    ∃ (new : List (Note ε)) (made : List (Job α ε)),
      Served h (b.invoke h module method args).1 new made ∧
      (b.invoke h module method args).2.1 =
        (found.handler bound).acts.map (.acted .caller none) ++ new ∧
      ∀ job ∈ made, job.ComesOf (found.handler bound).result := by
  obtain ⟨made, served, comes⟩ := h.shape_served module found (found.handler bound).result
  simp only [invoke, reached]
  exact ⟨_, made, served, rfl, comes⟩

theorem invoke_served (b : Bridge α ε) (h : Host α ε) (module method : String)
    (args : List Value) :
    ∃ (acts : List ε) (new : List (Note ε)) (made : List (Job α ε)),
      Served h (b.invoke h module method args).1 new made ∧
      (b.invoke h module method args).2.1 = acts.map (.acted .caller none) ++ new ∧
      (b.Harmless → ∀ job ∈ made, ¬ job.Lethal) := by
  cases reached : b.target module method args with
  | error e =>
    have invoked : b.invoke h module method args = (h, [], some (.error e)) := by
      rw [invoke, reached]
    rw [invoked]
    exact ⟨[], [], [], .still, rfl, fun _ job member => by cases member⟩
  | ok pair =>
    obtain ⟨found, bound⟩ := pair
    obtain ⟨new, made, served, shown, comes⟩ :=
      b.reached_served h module method args found bound reached
    refine ⟨_, new, made, served, shown, fun harmless job member deadly => ?_⟩
    obtain ⟨work, hook, site, f, detached, broke⟩ := (comes job member).lethal deadly
    have resolved := (b.resolve_of_target module method args found bound reached).1
    rw [harmless module method found resolved bound work hook detached site f] at broke
    cases broke

structure Course (b : Bridge α ε) (workers : Nat) (thread : Nat → String) (h last : Host α ε)
    (notes new : List (Note ε)) (jobs more : List (Job α ε)) (fate fate' : JobId → Fate α)
    (moves : List (Move α)) : Prop
    extends Advance b.step? Move.finish workers thread h last notes new jobs more fate fate'
      moves where
  peaceful : b.Harmless → ∀ job ∈ more, ¬ job.Lethal
  owes : ∀ job ∈ more, ∀ id, job.owed? = some id → h.results.length ≤ id
  grown : Pendings.Grown h.results last.results

section Course

variable {b : Bridge α ε} {workers : Nat} {thread : Nat → String} {h next last : Host α ε}
  {notes new : List (Note ε)} {jobs : List (Job α ε)} {fate : JobId → Fate α}

theorem invoke_course (ledger : Ledger workers thread h notes jobs fate)
    (module method : String) (args : List Value) :
    ∃ more fate', b.Course workers thread h (b.invoke h module method args).1 notes
      (b.invoke h module method args).2.1 jobs more fate fate' [.invoke module method args] := by
  obtain ⟨acts, new, made, served, shown, peaceful⟩ := b.invoke_served h module method args
  obtain ⟨fate', after, unfinished⟩ := served.ledger (ledger.acted acts)
  rw [List.append_assoc, ← shown] at after
  refine ⟨made, fate', ⟨after, fun job worker answer finished =>
    Or.inl (unfinished job worker answer finished), ?_⟩, peaceful, served.owes, served.grown⟩
  intro note seen
  rw [shown] at seen
  rcases List.mem_append.1 seen with act | late
  · obtain ⟨_, _, rfl⟩ := List.mem_map.1 act
    rfl
  · exact served.calm note late

theorem host_move_course (ledger : Ledger workers thread h notes jobs fate) (move : Move α)
    (own : Host.Move α ε) (same : b.step? h move = h.step? own)
    (still : ∀ submitted results, Host.submissions submitted results [own] = [])
    (finishing : ∀ worker answer, own = .finish worker answer → move = .finish worker answer)
    (moved : b.step? h move = some (next, new)) :
    ∃ more fate', b.Course workers thread h next notes new jobs more fate fate' [move] := by
  rw [same] at moved
  obtain ⟨fate', after, finished⟩ :=
    Host.step_ledger workers thread h next notes new jobs fate own ledger moved
  rw [still, List.append_nil] at after
  obtain ⟨length, kept⟩ := Host.step_results h next own new moved
  refine ⟨[], fate', ⟨by simpa using after, fun job worker answer ended => ?_,
    Host.step_calm h next own new moved⟩, by simp, by simp, ⟨by omega, kept⟩⟩
  rcases finished job worker answer ended with before | ⟨now, held, busy, rfl⟩
  · exact Or.inl before
  · rw [finishing worker answer now]
    exact Or.inr (answered_now h [] worker answer held busy)

theorem step_course (ledger : Ledger workers thread h notes jobs fate) (move : Move α)
    (moved : b.step? h move = some (next, new)) :
    ∃ more fate', b.Course workers thread h next notes new jobs more fate fate' [move] := by
  cases move with
  | invoke module method args =>
    simp only [step?, Option.some.injEq, Prod.mk.injEq] at moved
    obtain ⟨rfl, rfl⟩ := moved
    exact invoke_course ledger module method args
  | pickUp worker =>
    exact host_move_course ledger _ (.pickUp worker) rfl (fun _ _ => rfl)
      (fun _ _ same => by cases same) moved
  | finish worker answer =>
    exact host_move_course ledger _ (.finish worker answer) rfl (fun _ _ => rfl)
      (fun _ _ same => by cases same; rfl) moved
  | close =>
    exact host_move_course ledger _ .close rfl (fun _ _ => rfl) (fun _ _ same => by cases same)
      moved
  | join =>
    exact host_move_course ledger _ .join rfl (fun _ _ => rfl) (fun _ _ same => by cases same)
      moved

theorem run_course (ledger : Ledger workers thread h notes jobs fate)
    (moves : List (Move α)) (ran : b.run? h moves = some (last, new)) :
    ∃ more fate', b.Course workers thread h last notes new jobs more fate fate' moves := by
  rw [bridge_run_follows] at ran
  induction moves generalizing h notes new jobs fate with
  | nil =>
    simp only [follow, Option.some.injEq, Prod.mk.injEq] at ran
    obtain ⟨rfl, rfl⟩ := ran
    exact ⟨[], fate, .still ledger, by simp, by simp, .refl h.results⟩
  | cons move rest ih =>
    obtain ⟨next, first, others, moved, went, rfl⟩ :=
      follow_cons_some b.step? h move rest last new ran
    obtain ⟨made, middle, now⟩ := step_course ledger move moved
    obtain ⟨more, fate', later⟩ := ih now.ledger went
    refine ⟨made ++ more, fate', now.toAdvance.cons moved later.toAdvance, ?_, ?_,
      now.grown.trans later.grown⟩
    · intro harmless job member
      rcases List.mem_append.1 member with first | second
      · exact now.peaceful harmless job first
      · exact later.peaceful harmless job second
    · intro job member id owed
      rcases List.mem_append.1 member with first | second
      · exact now.owes job first id owed
      · exact Nat.le_trans now.grown.length (later.owes job second id owed)

end Course

end Bridge

end HostBridge
