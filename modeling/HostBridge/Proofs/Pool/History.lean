import HostBridge.Proofs.Pool.Motion
import HostBridge.Proofs.Pool.Results

set_option autoImplicit false

namespace HostBridge

variable {α ε : Type}

-- In the course of a run a worker was given an answer while it was busy with a job. Hosts and
-- bridges name that move differently.
def Answered {μ : Type} (step? : Host α ε → μ → Option (Host α ε × List (Note ε)))
    (finish : Nat → α → μ) (h : Host α ε) (moves : List μ) (job : JobId) (worker : Nat)
    (answer : α) : Prop :=
  ∃ before after mid seen held, moves = before ++ finish worker answer :: after ∧
    follow step? h before = some (mid, seen) ∧
    mid.pool.slots[worker]? = some (.busy held) ∧ held.id = job

section Answered

variable {μ : Type} {step? : Host α ε → μ → Option (Host α ε × List (Note ε))}
  {finish : Nat → α → μ}

theorem answered_now (h : Host α ε) (rest : List μ) (worker : Nat) (answer : α) (held : Job α ε)
    (busy : h.pool.slots[worker]? = some (.busy held)) :
    Answered step? finish h (finish worker answer :: rest) held.id worker answer :=
  ⟨[], rest, h, [], held, rfl, rfl, busy, rfl⟩

theorem answered_later (h next : Host α ε) (move : μ) (rest : List μ) (first : List (Note ε))
    (moved : step? h move = some (next, first)) (job : JobId) (worker : Nat) (answer : α)
    (answered : Answered step? finish next rest job worker answer) :
    Answered step? finish h (move :: rest) job worker answer := by
  obtain ⟨before, after, mid, seen, held, rfl, reached, busy, named⟩ := answered
  exact ⟨move :: before, after, mid, first ++ seen, held, rfl,
    follow_cons step? h next mid move before first seen moved reached, busy, named⟩

end Answered

structure Advance {μ : Type} (step? : Host α ε → μ → Option (Host α ε × List (Note ε)))
    (finish : Nat → α → μ) (workers : Nat) (thread : Nat → String) (h last : Host α ε)
    (notes new : List (Note ε)) (jobs more : List (Job α ε)) (fate fate' : JobId → Fate α)
    (moves : List μ) : Prop where
  ledger : Ledger workers thread last (notes ++ new) (jobs ++ more) fate'
  finished : ∀ job worker answer, fate' job = .finished worker answer →
    fate job = .finished worker answer ∨ Answered step? finish h moves job worker answer
  calm : ∀ note ∈ new, note.isMishap = false

namespace Advance

variable {μ : Type} {step? : Host α ε → μ → Option (Host α ε × List (Note ε))}
  {finish : Nat → α → μ} {workers : Nat} {thread : Nat → String} {h next last : Host α ε}
  {notes first others : List (Note ε)} {jobs made more : List (Job α ε)}
  {fate middle fate' : JobId → Fate α} {move : μ} {rest : List μ}

theorem still (ledger : Ledger workers thread h notes jobs fate) :
    Advance step? finish workers thread h h notes [] jobs [] fate fate [] :=
  ⟨by simpa using ledger, fun _ _ _ finished => Or.inl finished, by simp⟩

theorem cons (moved : step? h move = some (next, first))
    (now : Advance step? finish workers thread h next notes first jobs made fate middle [move])
    (later : Advance step? finish workers thread next last (notes ++ first) others (jobs ++ made)
      more middle fate' rest) :
    Advance step? finish workers thread h last notes (first ++ others) jobs (made ++ more) fate
      fate' (move :: rest) := by
  refine ⟨by simpa only [List.append_assoc] using later.ledger,
    fun job worker answer ended => ?_, fun note seen => ?_⟩
  · rcases later.finished job worker answer ended with settled | answered
    · rcases now.finished job worker answer settled with before | here
      · exact Or.inl before
      · obtain ⟨before, after, mid, seen, held, split, reached, busy, named⟩ := here
        refine Or.inr ⟨before, after ++ rest, mid, seen, held, ?_, reached, busy, named⟩
        rw [← List.cons_append, ← List.singleton_append, ← List.append_assoc, ← split]
    · exact Or.inr (answered_later h next move rest first moved job worker answer answered)
  · exact (List.mem_append.1 seen).elim (now.calm note) (later.calm note)

end Advance

theorem verdict_unfinished (p : Pool α ε) (fate : JobId → Fate α) (job other : JobId)
    (worker : Nat) (answer : α) (finished : assign fate job p.verdict other =
      .finished worker answer) : fate other = .finished worker answer := by
  rcases assign_finished fate job other p.verdict worker answer finished with ⟨_, now⟩ | before
  · unfold Pool.verdict at now
    split at now <;> cases now
  · exact before

namespace Ledger

variable {workers : Nat} {thread : Nat → String} {h : Host α ε} {notes : List (Note ε)}
  {jobs : List (Job α ε)} {fate : JobId → Fate α}

theorem promise (ledger : Ledger workers thread h notes jobs fate) (work : Work α ε) :
    Ledger workers thread (h.submitPromised work).1 (notes ++ (h.submitPromised work).2.1)
      (jobs ++ [⟨h.pool.submitted, work, .settle h.results.length⟩])
      (assign fate h.pool.submitted h.pool.verdict) := by
  refine (ledger.extend Cell.fresh).submit work (.settle h.results.length) fun id owed => ?_
  obtain rfl : h.results.length = id := Option.some.inj owed
  refine ⟨by simp, ?_, fun other member owes => ?_⟩
  · simp [Pendings.outcome?, Cell.fresh]
  · exact absurd (ledger.debts.made other member _ owes) (Nat.lt_irrefl _)

theorem detach (ledger : Ledger workers thread h notes jobs fate) (work : Work α ε)
    (origin : String) (hook : Option (Hook ε)) :
    Ledger workers thread (h.submitDetached work origin hook).1
      (notes ++ (h.submitDetached work origin hook).2.1)
      (jobs ++ [⟨h.pool.submitted, work, .detached origin hook⟩])
      (assign fate h.pool.submitted h.pool.verdict) :=
  ledger.submit work (.detached origin hook) fun id owed => by cases owed

theorem fresh (threadName : String) (capacity : Nat) (lasting : Bool) (workers : Nat) :
    Ledger workers (Pool.fresh (α := α) (ε := ε) threadName capacity lasting workers).threadOf
      (Host.fresh threadName capacity lasting workers : Host α ε) [] [] (fun _ => .waiting) := by
  have idle : ∀ (worker : Nat) (slot : Slot α ε),
      (List.replicate workers (Slot.idle (α := α) (ε := ε)))[worker]? = some slot →
        slot = .idle := fun worker slot found =>
    List.eq_of_mem_replicate (List.mem_of_getElem? found)
  refine ⟨rfl, ?_, ?_, ⟨by simp, fun job _ => rfl⟩,
    ⟨by simp, by simp, by simp, by simp, fun id _ => rfl⟩, ?_, ?_⟩
  · intro i job found
    cases found
  · intro job f same
    cases same
  · refine ⟨rfl, rfl, fun worker job => ?_, fun closed => by cases closed⟩
    constructor
    · intro busy
      cases idle worker _ busy
    · rintro ⟨member, _⟩
      cases member
  · refine ⟨fun _ => List.length_replicate, fun worker dead => ?_, by simp, by simp,
      fun filled => absurd rfl filled⟩
    cases idle worker _ dead

theorem start (threadName : String) (capacity workers : Nat) :
    Ledger workers (Pool.start (α := α) (ε := ε) threadName capacity workers).threadOf
      (Host.start threadName capacity workers : Host α ε) [] [] (fun _ => .waiting) :=
  fresh threadName capacity (capacity != 0) workers

end Ledger

theorem Ledger.never_spilled {workers : Nat} {thread : Nat → String} {h : Host α ε}
    {notes : List (Note ε)} {jobs : List (Job α ε)} {fate : JobId → Fate α}
    (ledger : Ledger workers thread h notes jobs fate)
    (calm : ∀ note ∈ notes, note.isMishap = false) (job : Job α ε) (member : job ∈ jobs)
    (worker : Nat) (answer : α) : fate job.id ≠ .spilled worker answer := by
  intro spilled
  have told := ledger.stories.told job member
  rw [spilled] at told
  have seen : .spilled job.id worker ∈ notes := mem_of_story notes job thread
    (.spilled worker answer) told _ (by simp [Fate.story, Job.spillage])
  cases calm _ seen

namespace Host

def submissions (submitted results : Nat) : List (Move α ε) → List (Job α ε)
  | [] => []
  | .promise work :: rest =>
    ⟨submitted, work, .settle results⟩ :: submissions (submitted + 1) (results + 1) rest
  | .detach work origin hook :: rest =>
    ⟨submitted, work, .detached origin hook⟩ :: submissions (submitted + 1) results rest
  | _ :: rest => submissions submitted results rest

theorem submissions_cons (move : Move α ε) (rest : List (Move α ε)) (submitted results : Nat) :
    submissions submitted results (move :: rest) = submissions submitted results [move] ++
      submissions (submitted + (submissions submitted results [move]).length)
        (results + move.made) rest := by
  cases move <;> simp [submissions, Move.made]

theorem step_ledger (workers : Nat) (thread : Nat → String) (h next : Host α ε)
    (notes new : List (Note ε)) (jobs : List (Job α ε)) (fate : JobId → Fate α) (move : Move α ε)
    (ledger : Ledger workers thread h notes jobs fate) (moved : h.step? move = some (next, new)) :
    ∃ fate', Ledger workers thread next (notes ++ new)
        (jobs ++ submissions h.pool.submitted h.results.length [move]) fate' ∧
      ∀ job worker answer, fate' job = .finished worker answer →
        fate job = .finished worker answer ∨ move = .finish worker answer ∧
          ∃ held, h.pool.slots[worker]? = some (.busy held) ∧ held.id = job := by
  cases move with
  | promise work =>
    simp only [step?, Option.some.injEq, Prod.mk.injEq] at moved
    obtain ⟨rfl, rfl⟩ := moved
    exact ⟨_, ledger.promise work, fun job worker answer finished =>
      Or.inl (verdict_unfinished h.pool fate _ job worker answer finished)⟩
  | detach work origin hook =>
    simp only [step?, Option.some.injEq, Prod.mk.injEq] at moved
    obtain ⟨rfl, rfl⟩ := moved
    exact ⟨_, ledger.detach work origin hook, fun job worker answer finished =>
      Or.inl (verdict_unfinished h.pool fate _ job worker answer finished)⟩
  | pickUp worker =>
    obtain ⟨job, _, _, picked⟩ := ledger.pick_up worker next new moved
    refine ⟨_, by simpa [submissions] using picked, fun other _ answer finished => Or.inl ?_⟩
    rcases assign_finished _ _ _ _ _ _ finished with ⟨_, running⟩ | old
    · cases running
    · exact old
  | finish worker answer =>
    obtain ⟨job, fate', held, kept, changed⟩ := ledger.finish worker answer next new moved
    refine ⟨fate', by simpa [submissions] using kept, fun other someone reply finished => ?_⟩
    rcases changed other with same | dropped
    · rcases assign_finished _ _ _ _ _ _ (same ▸ finished) with ⟨rfl, now⟩ | old
      · cases now
        exact Or.inr ⟨rfl, job, held, rfl⟩
      · exact Or.inl old
    · rw [dropped] at finished
      cases finished
  | close =>
    simp only [step?, Option.some.injEq] at moved
    obtain rfl : h.close.1 = next := congrArg Prod.fst moved
    obtain rfl : h.close.2 = new := congrArg Prod.snd moved
    obtain ⟨fate', closed, changed⟩ := ledger.close
    refine ⟨fate', by simpa [submissions] using closed, fun job worker answer finished => ?_⟩
    rcases changed job with same | dropped
    · exact Or.inl (same ▸ finished)
    · rw [dropped] at finished
      cases finished
  | join =>
    exact ⟨fate, by simpa [submissions] using ledger.join next new moved,
      fun _ _ _ finished => Or.inl finished⟩

theorem step_advance (workers : Nat) (thread : Nat → String) (h next : Host α ε)
    (notes new : List (Note ε)) (jobs : List (Job α ε)) (fate : JobId → Fate α) (move : Move α ε)
    (ledger : Ledger workers thread h notes jobs fate) (moved : h.step? move = some (next, new)) :
    ∃ fate', Advance step? Move.finish workers thread h next notes new jobs
      (submissions h.pool.submitted h.results.length [move]) fate fate' [move] := by
  obtain ⟨fate', after, now⟩ :=
    step_ledger workers thread h next notes new jobs fate move ledger moved
  refine ⟨fate', after, fun job worker answer finished => ?_,
    step_calm h next move new moved⟩
  rcases now job worker answer finished with before | ⟨rfl, held, busy, rfl⟩
  · exact Or.inl before
  · exact Or.inr (answered_now h [] worker answer held busy)

theorem run_ledger (workers : Nat) (thread : Nat → String) (h last : Host α ε)
    (notes new : List (Note ε)) (jobs : List (Job α ε)) (fate : JobId → Fate α)
    (moves : List (Move α ε)) (ledger : Ledger workers thread h notes jobs fate)
    (ran : h.run? moves = some (last, new)) :
    ∃ fate', Advance step? Move.finish workers thread h last notes new jobs
      (submissions h.pool.submitted h.results.length moves) fate fate' moves := by
  rw [host_run_follows] at ran
  induction moves generalizing h notes new jobs fate with
  | nil =>
    simp only [follow, Option.some.injEq, Prod.mk.injEq] at ran
    obtain ⟨rfl, rfl⟩ := ran
    exact ⟨fate, .still ledger⟩
  | cons move rest ih =>
    obtain ⟨next, first, others, moved, went, rfl⟩ :=
      follow_cons_some step? h move rest last new ran
    obtain ⟨middle, now⟩ :=
      step_advance workers thread h next notes first jobs fate move ledger moved
    obtain ⟨fate', later⟩ := ih next (notes ++ first) others _ middle now.ledger went
    have counted := now.ledger.places.counted
    rw [List.length_append, ← ledger.places.counted] at counted
    rw [counted, (step_results h next move first moved).1] at later
    rw [submissions_cons]
    exact ⟨fate', now.cons moved later⟩

end Host

end HostBridge
