import HostBridge.Pending.Wait
import HostBridge.Proofs.Pending.Settling
import Mathlib.Data.List.Induction

set_option autoImplicit false

namespace HostBridge.Pending

inductive Cause where
  | notified
  | spurious
  | clock
deriving DecidableEq

inductive Incident where
  | operate (op : Operation)
  | wakeUp (cause : Cause) (time : Nanoseconds)

def Incident.operation? : Incident → Option Operation
  | operate op => some op
  | wakeUp _ _ => none

structure Wait where
  result : PendingId
  now : Nanoseconds
  span : Nanoseconds

namespace Session

def after (s : Session) (incidents : List Incident) : Session :=
  (s.run (incidents.filterMap Incident.operation?)).1

theorem run_append (s : Session) (ops more : List Operation) :
    (s.run (ops ++ more)).1 = ((s.run ops).1.run more).1 := by
  induction ops generalizing s with
  | nil => rfl
  | cons op rest ih => exact ih (s.step op).1

theorem after_append (s : Session) (past rest : List Incident) :
    s.after (past ++ rest) = (s.after past).after rest := by
  rw [after, List.filterMap_append, run_append]
  rfl

theorem Sound.after {s : Session} (sound : s.Sound) (incidents : List Incident) :
    (s.after incidents).Sound := sound.run _

theorem Sound.step_settled {s : Session} (sound : s.Sound) (op : Operation) (id : PendingId)
    (outcome : Settlement) (settled : s.results.outcome? id = some outcome) :
    (s.step op).1.results.outcome? id = some outcome := by
  have made : id < s.results.length := by
    apply Decidable.byContradiction
    intro beyond
    have absent := List.getElem?_eq_none (Nat.le_of_not_lt beyond)
    simp [Pendings.outcome?, absent] at settled
  have turn := step_turn s sound op
  generalize (s.step op).1 = later, (s.step op).2 = answer at turn
  cases turn with
  | create => exact (outcome_push_old s.results _ id made).trans settled
  | ready _ given _ => exact (outcome_push_old s.results _ id made).trans settled
  | clone _ _ _ => exact settled
  | dropHandle _ => exact settled
  | use _ _ r given _ _ _ =>
    by_cases own : id = r.result
    · subst own
      rw [Pendings.outcome_settle_self s.results r.result given made, settled]
      rfl
    · exact (Pendings.outcome_settle_other s.results r.result id given own).trans settled
  | ask _ _ looked _ _ _ _ _ _ polled _ _ => exact (polled.outcomes id).trans settled
  | idle _ _ _ _ => exact settled

end Session

theorem wait_from_asleep (start : Option Settlement) (past rest : List WakeUp)
    (asleep : waitFrom start past = .asleep) :
    waitFrom start (past ++ rest) = waitFrom none rest := by
  induction past generalizing start with
  | nil =>
    cases start with
    | none => rfl
    | some outcome => cases asleep
  | cons w past ih =>
    cases start with
    | some outcome => cases asleep
    | none =>
      obtain ⟨outcome, timedOut⟩ := w
      cases timedOut with
      | false => exact ih outcome asleep
      | true => cases outcome <;> cases asleep

theorem wait_from_ended (start : Option Settlement) (past rest : List WakeUp)
    (ended : waitFrom start past ≠ .asleep) :
    waitFrom start (past ++ rest) = waitFrom start past := by
  induction past generalizing start with
  | nil =>
    cases start with
    | none => exact absurd rfl ended
    | some outcome => rw [List.nil_append, waitFrom, waitFrom]
  | cons w past ih =>
    cases start with
    | some outcome => rw [waitFrom, waitFrom]
    | none =>
      obtain ⟨outcome, timedOut⟩ := w
      cases timedOut with
      | false => exact ih outcome ended
      | true => rfl

namespace Wait

variable (w : Wait) (s : Session)

def deadline : Nanoseconds := w.now + w.span

def outcome? : Option Settlement := s.results.outcome? w.result

def wakeUps (s : Session) : List Incident → List WakeUp
  | [] => []
  | .operate op :: rest => wakeUps (s.step op).1 rest
  | .wakeUp cause _ :: rest => ⟨w.outcome? s, cause = .clock⟩ :: wakeUps s rest

def ending (incidents : List Incident) : WaitEnd :=
  waitFor w.now w.span (w.outcome? s) (w.wakeUps s incidents)

inductive Looks : List Incident → Prop
  | start : Looks []
  | wakeUp (past : List Incident) (cause : Cause) (time : Nanoseconds)
      (asleep : w.ending s past = .asleep) : Looks (past ++ [.wakeUp cause time])

/-- What is promised to whoever waits. A result that is settled at the start is found by the first
look, so its outcome is returned whatever comes up. -/
structure Kept (incidents : List Incident) : Prop where
  unbroken : w.ending s incidents ≠ .noDeadline
  found : ∀ past rest outcome, incidents = past ++ rest → w.Looks s past →
    w.outcome? (s.after past) = some outcome → w.ending s incidents = .settled outcome
  settled : ∀ outcome, w.ending s incidents = .settled outcome →
    ∃ past rest, incidents = past ++ rest ∧ w.Looks s past ∧
      w.outcome? (s.after past) = some outcome
  timedOut : w.ending s incidents = .timedOut →
    ∃ past time rest, incidents = past ++ .wakeUp .clock time :: rest ∧
      w.ending s past = .asleep ∧ w.deadline ≤ time ∧ w.outcome? (s.after past) = none
  ended : ∀ past time rest, incidents = past ++ .wakeUp .clock time :: rest →
    w.ending s incidents ≠ .asleep
  woken : ∀ past later cause time rest outcome,
    incidents = past ++ (later ++ .wakeUp cause time :: rest) → w.ending s past = .asleep →
    w.outcome? (s.after past) = some outcome → w.ending s incidents = .settled outcome

theorem wake_ups_append (past rest : List Incident) :
    w.wakeUps s (past ++ rest) = w.wakeUps s past ++ w.wakeUps (s.after past) rest := by
  induction past generalizing s with
  | nil => rfl
  | cons incident past ih =>
    cases incident with
    | operate op => exact ih (s.step op).1
    | wakeUp cause time => exact congrArg (List.cons _) (ih s)

theorem ending_of_late (late : lastInstant < w.deadline) (incidents : List Incident) :
    w.ending s incidents = .noDeadline := by
  have missing : deadline? w.now w.span = none := if_neg (Nat.not_le_of_lt late)
  rw [ending, waitFor, missing]

theorem wait_from_found (outcome : Settlement) (timedOut : Bool) (rest : List WakeUp) :
    waitFrom none (⟨some outcome, timedOut⟩ :: rest) = .settled outcome := by
  cases timedOut with
  | false => rw [waitFrom, if_neg Bool.false_ne_true, waitFrom]
  | true => rw [waitFrom, if_pos rfl]

theorem wait_from_settled (sound : s.Sound) (outcome : Settlement)
    (settled : w.outcome? s = some outcome) (later : List Incident) (cause : Cause)
    (time : Nanoseconds) (rest : List Incident) :
    waitFrom none (w.wakeUps s (later ++ .wakeUp cause time :: rest)) = .settled outcome := by
  induction later generalizing s with
  | nil =>
    rw [List.nil_append, wakeUps, settled]
    exact wait_from_found outcome _ _
  | cons incident later ih =>
    rw [List.cons_append]
    cases incident with
    | operate op =>
      have stays := sound.step_settled op w.result outcome settled
      exact ih (s.step op).1 (sound.turn (step_turn s sound op)) stays
    | wakeUp _ _ =>
      rw [wakeUps, settled]
      exact wait_from_found outcome _ _

section Timely

variable {w s} (timely : w.deadline ≤ lastInstant)

include timely

theorem ending_of_timely (incidents : List Incident) :
    w.ending s incidents = waitFrom (w.outcome? s) (w.wakeUps s incidents) := by
  have there : deadline? w.now w.span = some w.deadline := if_pos timely
  rw [ending, waitFor, there]

theorem ending_of_asleep (past rest : List Incident) (asleep : w.ending s past = .asleep) :
    w.ending s (past ++ rest) = waitFrom none (w.wakeUps (s.after past) rest) := by
  rw [ending_of_timely timely] at asleep ⊢
  rw [wake_ups_append]
  exact wait_from_asleep _ _ _ asleep

theorem ending_of_ended (past rest : List Incident) (ended : w.ending s past ≠ .asleep) :
    w.ending s (past ++ rest) = w.ending s past := by
  rw [ending_of_timely timely] at ended ⊢
  rw [ending_of_timely timely, wake_ups_append]
  exact wait_from_ended _ _ _ ended

theorem found_by_look (past rest : List Incident) (outcome : Settlement)
    (looks : w.Looks s past) (there : w.outcome? (s.after past) = some outcome) :
    w.ending s (past ++ rest) = .settled outcome := by
  cases looks with
  | start =>
    have first : w.outcome? s = some outcome := there
    rw [ending_of_timely timely, first, waitFrom]
  | wakeUp past cause time asleep =>
    rw [s.after_append] at there
    have found : w.outcome? (s.after past) = some outcome := there
    rw [List.append_assoc, ending_of_asleep timely past _ asleep]
    rw [List.cons_append, wakeUps, found]
    exact wait_from_found outcome _ _

end Timely

inductive Standing (incidents : List Incident) : Prop
  | asleep (still : w.ending s incidents = .asleep)
  | settled (past rest : List Incident) (outcome : Settlement) (split : incidents = past ++ rest)
      (looks : w.Looks s past) (there : w.outcome? (s.after past) = some outcome)
      (ends : w.ending s incidents = .settled outcome)
  | timedOut (past rest : List Incident) (time : Nanoseconds)
      (split : incidents = past ++ .wakeUp .clock time :: rest)
      (slept : w.ending s past = .asleep) (nothing : w.outcome? (s.after past) = none)
      (ends : w.ending s incidents = .timedOut)

section Timely

variable {w s} (timely : w.deadline ≤ lastInstant)

include timely

theorem ending_of_unfound (past : List Incident) (cause : Cause) (time : Nanoseconds)
    (asleep : w.ending s past = .asleep) (nothing : w.outcome? (s.after past) = none) :
    w.ending s (past ++ [.wakeUp cause time]) = if cause = .clock then .timedOut else .asleep := by
  rw [ending_of_asleep timely past _ asleep, wakeUps, nothing]
  cases cause <;> rfl

theorem standing_of_asleep (past : List Incident) (asleep : w.ending s past = .asleep)
    (incident : Incident) : w.Standing s (past ++ [incident]) := by
  cases incident with
  | operate op =>
    apply Standing.asleep
    rw [ending_of_asleep timely past _ asleep]
    rfl
  | wakeUp cause time =>
    cases there : w.outcome? (s.after past) with
    | some outcome =>
      have looks := Looks.wakeUp past cause time asleep
      have found : w.outcome? (s.after (past ++ [.wakeUp cause time])) = some outcome := by
        rw [s.after_append]
        exact there
      have ends := found_by_look timely _ [] outcome looks found
      rw [List.append_nil] at ends
      exact Standing.settled _ [] outcome (List.append_nil _).symm looks found ends
    | none =>
      have ends := ending_of_unfound timely past cause time asleep there
      by_cases clock : cause = .clock
      · subst clock
        rw [if_pos rfl] at ends
        exact Standing.timedOut past [] time rfl asleep there ends
      · rw [if_neg clock] at ends
        exact Standing.asleep ends

theorem standing_of_ended (past : List Incident) (ended : w.ending s past ≠ .asleep)
    (standing : w.Standing s past) (incident : Incident) :
    w.Standing s (past ++ [incident]) := by
  have same := ending_of_ended timely past [incident] ended
  cases standing with
  | asleep still => exact absurd still ended
  | settled before rest outcome split looks there ends =>
    apply Standing.settled before (rest ++ [incident]) outcome _ looks there (same.trans ends)
    rw [split, List.append_assoc]
  | timedOut before rest time split slept nothing ends =>
    apply Standing.timedOut before (rest ++ [incident]) time _ slept nothing (same.trans ends)
    rw [split, List.append_assoc, List.cons_append]

theorem standing (incidents : List Incident) : w.Standing s incidents := by
  induction incidents using List.reverseRecOn with
  | nil =>
    cases there : w.outcome? s with
    | some outcome =>
      exact Standing.settled [] [] outcome rfl .start there
        (found_by_look timely [] [] outcome .start there)
    | none =>
      apply Standing.asleep
      rw [ending_of_timely timely, there]
      rfl
  | append_singleton past incident ih =>
    by_cases asleep : w.ending s past = .asleep
    · exact standing_of_asleep timely past asleep incident
    · exact standing_of_ended timely past asleep ih incident

theorem ended_by_clock (past rest : List Incident) (time : Nanoseconds) :
    w.ending s (past ++ .wakeUp .clock time :: rest) ≠ .asleep := by
  by_cases asleep : w.ending s past = .asleep
  · rw [ending_of_asleep timely past _ asleep, wakeUps]
    cases w.outcome? (s.after past) <;> simp [waitFrom]
  · rw [ending_of_ended timely past _ asleep]
    exact asleep

theorem kept (sound : s.Sound) (incidents : List Incident)
    (punctual : ∀ time, .wakeUp .clock time ∈ incidents → w.deadline ≤ time) :
    w.Kept s incidents where
  unbroken := by
    have standing : w.Standing s incidents := standing timely incidents
    cases standing with
    | asleep still => simp [still]
    | settled past rest outcome split looks there ends => simp [ends]
    | timedOut past rest time split slept nothing ends => simp [ends]
  found past rest outcome split looks there := by
    subst split
    exact found_by_look timely past rest outcome looks there
  settled outcome ends := by
    have standing : w.Standing s incidents := standing timely incidents
    cases standing with
    | asleep still => simp [still] at ends
    | settled past rest found split looks there settled =>
      obtain rfl : found = outcome := by simpa [settled] using ends
      exact ⟨past, rest, split, looks, there⟩
    | timedOut past rest time split slept nothing late => simp [late] at ends
  timedOut ends := by
    have standing : w.Standing s incidents := standing timely incidents
    cases standing with
    | asleep still => simp [still] at ends
    | settled past rest found split looks there settled => simp [settled] at ends
    | timedOut past rest time split slept nothing late =>
      have reached : w.deadline ≤ time := by
        apply punctual
        simp [split]
      exact ⟨past, time, rest, split, slept, reached, nothing⟩
  ended past time rest split := by
    subst split
    exact ended_by_clock timely past rest time
  woken past later cause time rest outcome split asleep there := by
    subst split
    rw [ending_of_asleep timely past _ asleep]
    exact w.wait_from_settled _ (sound.after past) outcome there later cause time rest

end Timely

end Wait

theorem waits_miss_nothing_before_the_last_instant (before : List Operation) (w : Wait)
    (incidents : List Incident)
    (punctual : ∀ time, .wakeUp .clock time ∈ incidents → w.deadline ≤ time) :
    let s := (Session.empty.run before).1
    (w.Kept s incidents ↔ w.deadline ≤ lastInstant) ∧
      (lastInstant < w.deadline → w.ending s incidents = .noDeadline) := by
  intro s
  have sound : s.Sound := Session.Sound.empty.run before
  constructor
  · constructor
    · intro kept
      apply Nat.le_of_not_lt
      intro late
      exact kept.unbroken (w.ending_of_late s late incidents)
    · intro timely
      exact Wait.kept timely sound incidents punctual
  · intro late
    exact w.ending_of_late s late incidents

-- The result is settled between the deadline and the wake-up that comes of it.
theorem settled_at_the_deadline :
    (∀ time, Incident.wakeUp .clock time ∈ [.wakeUp .spurious 7, .operate (.resolve 0 .null),
        .wakeUp .clock 15] → 15 ≤ time) ∧
      Wait.ending ⟨0, 5, 10⟩ (Session.empty.run [.create]).1
        [.wakeUp .spurious 7, .operate (.resolve 0 .null), .wakeUp .clock 15] =
          .settled (.ok .null) := by
  have punctual : ∀ time, Incident.wakeUp .clock time ∈ [.wakeUp .spurious 7,
      .operate (.resolve 0 .null), .wakeUp .clock 15] → 15 ≤ time := by
    simp
  have kept := (waits_miss_nothing_before_the_last_instant [.create] ⟨0, 5, 10⟩ _ punctual).1.2
    (by decide)
  have slept : Wait.ending ⟨0, 5, 10⟩ (Session.empty.run [.create]).1
      [.wakeUp .spurious 7, .operate (.resolve 0 .null)] = .asleep := rfl
  exact ⟨punctual, kept.woken _ [] .clock 15 [] (.ok .null) rfl slept rfl⟩

-- The longest span that there is: seconds in an unsigned word of sixty-four bits, and not quite
-- one second more.
def longestSpan : Nanoseconds := (1 <<< 64 - 1) * 1000000000 + 999999999

-- The result is settled before anyone waits for it, and still it is not returned.
theorem settled_result_is_not_returned :
    (Session.empty.run [.resolved .null]).1.results.outcome? 0 = some (.ok .null) ∧
      Wait.ending ⟨0, 0, longestSpan⟩ (Session.empty.run [.resolved .null]).1 [] = .noDeadline ∧
      ¬ Wait.Kept ⟨0, 0, longestSpan⟩ (Session.empty.run [.resolved .null]).1 [] := by
  have broken : Wait.ending ⟨0, 0, longestSpan⟩ (Session.empty.run [.resolved .null]).1 [] =
      .noDeadline := rfl
  exact ⟨rfl, broken, fun kept => kept.unbroken broken⟩

end HostBridge.Pending
