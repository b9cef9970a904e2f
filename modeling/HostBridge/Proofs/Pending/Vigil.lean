import HostBridge.Proofs.Pending.Waking

set_option autoImplicit false

namespace HostBridge.Pending

-- Settling rings the wakers that it has taken one by one, while others may already look. Here
-- each ring is a move of its own, so that operations come in between.
structure Vigil where
  session : Session
  due : List (PendingId × Waker)

def signsOf (id : PendingId) (signs : List (PendingId × Sign)) : List Sign :=
  signs.filterMap fun sign => if sign.1 = id then some sign.2 else none

namespace Vigil

inductive Move where
  | operate (op : Operation)
  | ring (id : PendingId) (w : Waker)

def start : Vigil := ⟨.empty, []⟩

def step (v : Vigil) : Move → Vigil × List (PendingId × Sign)
  | .operate op =>
    let (later, answer) := v.session.step op
    (⟨later, v.due ++ v.session.owed op⟩, v.session.signs op answer)
  | .ring id w =>
    if (id, w) ∈ v.due then
      ({ v with due := v.due.erase (id, w) }, [(id, .rung w (v.session.results.outcome? id))])
    else (v, [])

def run (v : Vigil) : List Move → Vigil × List (PendingId × Sign)
  | [] => (v, [])
  | move :: rest =>
    let (next, signs) := v.step move
    let (last, more) := next.run rest
    (last, signs ++ more)

def operations (moves : List Move) : List Operation :=
  moves.filterMap fun
    | .operate op => some op
    | .ring _ _ => none

end Vigil

section Tallies

variable (id other : PendingId) (signs more : List (PendingId × Sign)) (shown : List Sign)
  (wakers : List Waker) (w : Waker)

theorem signs_of_append : signsOf id (signs ++ more) = signsOf id signs ++ signsOf id more :=
  List.filterMap_append

theorem signs_of_own : signsOf id (shown.map (id, ·)) = shown := by
  rw [signsOf, List.filterMap_map]
  simp only [Function.comp_def, if_true]
  exact List.filterMap_some

theorem signs_of_other (differ : other ≠ id) : signsOf id (shown.map (other, ·)) = [] := by
  simp [signsOf, differ]

theorem count_own : (wakers.map (id, ·)).count (id, w) = wakers.count w := by
  rw [List.count, List.countP_map]
  refine List.countP_congr fun x _ => ?_
  simp

theorem count_other (differ : other ≠ id) : (wakers.map (other, ·)).count (id, w) = 0 := by
  refine List.count_eq_zero.2 fun among => ?_
  obtain ⟨x, _, same⟩ := List.mem_map.1 among
  exact differ (congrArg Prod.fst same)

theorem count_rings : (shown.map (id, ·)).countP (fun sign => sign.2.rings w) =
    shown.countP (Sign.rings w) := List.countP_map

theorem count_due : (wakers.map (id, ·)).countP (fun entry => entry.2 == w) = wakers.count w :=
  List.countP_map

end Tallies

namespace Vigil

structure Kept (v : Vigil) (signs : List (PendingId × Sign)) : Prop where
  sound : v.session.Sound
  watch : ∀ (id : PendingId) (cell : Cell), v.session.results[id]? = some cell →
    Watch cell (fun w => v.due.count (id, w)) (signsOf id signs)
  unmade : ∀ id, v.session.results.length ≤ id →
    signsOf id signs = [] ∧ ∀ w, v.due.count (id, w) = 0
  known : ∀ (id : PendingId) (cell : Cell), v.session.results[id]? = some cell →
    ∀ w ∈ cell.wakers, w < v.session.wakes.length
  counted : ∀ w, v.session.wakes.getD w 0 =
    signs.countP (fun sign => sign.2.rings w) + v.due.countP (fun entry => entry.2 == w)

namespace Kept

variable {v : Vigil} {signs : List (PendingId × Sign)}

theorem at_result (kept : Kept v signs) (later : Session) (id : PendingId) (cell : Cell)
    (shown : List Sign) (taken : List Waker) (sound : later.Sound)
    (own : later.results[id]? = some cell)
    (others : ∀ other : PendingId, other ≠ id →
      later.results[other]? = v.session.results[other]?)
    (grown : v.session.wakes.length ≤ later.wakes.length)
    (known : ∀ w ∈ cell.wakers, w < later.wakes.length)
    (counts : ∀ w, later.wakes.getD w 0 = v.session.wakes.getD w 0 + taken.count w)
    (unrung : ∀ w, shown.countP (Sign.rings w) = 0)
    (watch : Watch cell (fun w => v.due.count (id, w) + taken.count w)
      (signsOf id signs ++ shown)) :
    Kept ⟨later, v.due ++ taken.map (id, ·)⟩ (signs ++ shown.map (id, ·)) := by
  have apart : ∀ other, other ≠ id → signsOf other (signs ++ shown.map (id, ·)) =
      signsOf other signs ∧ ∀ w, (v.due ++ taken.map (id, ·)).count (other, w) =
        v.due.count (other, w) := fun other differ => by
    refine ⟨?_, fun w => ?_⟩
    · rw [signs_of_append, signs_of_other other id shown (Ne.symm differ), List.append_nil]
    · rw [List.count_append, count_other other id taken w (Ne.symm differ), Nat.add_zero]
  refine ⟨sound, fun other found held => ?_, fun other beyond => ?_,
    fun other found held w among => ?_, fun w => ?_⟩
  · by_cases same : other = id
    · subst same
      obtain rfl := Option.some.inj (held.symm.trans own)
      simpa only [signs_of_append, signs_of_own, List.count_append, count_own] using watch
    · obtain ⟨told, owed⟩ := apart other same
      simp only [told, owed]
      exact kept.watch other found ((others other same).symm.trans held)
  · have absent : later.results[other]? = none := List.getElem?_eq_none beyond
    have differ : other ≠ id := by
      rintro rfl
      rw [own] at absent
      cases absent
    obtain ⟨told, owed⟩ := apart other differ
    rw [told]
    simp only [owed]
    exact kept.unmade other (List.getElem?_eq_none_iff.1 ((others other differ).symm.trans absent))
  · by_cases same : other = id
    · subst same
      obtain rfl := Option.some.inj (held.symm.trans own)
      exact known w among
    · exact Nat.lt_of_lt_of_le
        (kept.known other found ((others other same).symm.trans held) w among) grown
  · rw [counts w, kept.counted w, List.countP_append, List.countP_append, count_rings, count_due,
      unrung w]
    omega

theorem operate (kept : Kept v signs) (op : Operation) :
    Kept (v.step (.operate op)).1 (signs ++ (v.step (.operate op)).2) := by
  have sound := kept.sound.turn (step_turn v.session kept.sound op)
  have deal := step_deal v.session kept.sound op
  simp only [step]
  generalize (v.session.step op).1 = later at sound deal ⊢
  generalize (v.session.step op).2 = answer at deal ⊢
  cases deal with
  | still results wakes silent owed =>
    rw [silent, owed, List.append_nil, List.append_nil]
    refine ⟨sound, fun id cell held => ?_, fun id beyond => ?_, fun id cell held w among => ?_,
      fun w => (wakes.same w).trans (kept.counted w)⟩
    · exact kept.watch id cell (results ▸ held)
    · exact kept.unmade id (results ▸ beyond)
    · exact Nat.lt_of_lt_of_le (kept.known id cell (results ▸ held) w among) wakes.length
  | made cell shown results wakes told owed watch unheard unrung =>
    rw [told, owed]
    obtain ⟨silent, undue⟩ := kept.unmade v.session.results.length (Nat.le_refl _)
    refine kept.at_result later _ cell shown [] sound ?_ (fun other differ => ?_)
      (Nat.le_of_eq (congrArg List.length wakes.symm)) (fun w among => ?_) (fun w => ?_) unrung ?_
    · rw [results, List.getElem?_concat_length]
    · rw [results]
      exact get_push v.session.results cell other differ
    · rw [unheard] at among
      cases among
    · rw [wakes]
      rfl
    · simpa only [silent, undue, List.nil_append, List.count_nil] using watch
  | polled id cell w there results wakes told owed =>
    rw [told, owed]
    have bound := (List.getElem?_eq_some_iff.1 there).1
    obtain ⟨extended, inside⟩ := extends_waker v.session w
    rw [← wakes] at extended inside
    refine kept.at_result later id (cell.poll w).1 [.polled w (cell.poll w).2] [] sound ?_
      (fun other differ => ?_) extended.length (fun x among => ?_) (fun x => ?_) (fun _ => rfl)
      ((kept.watch id cell there).poll w)
    · rw [results, List.getElem?_set_self bound]
    · rw [results, List.getElem?_set_ne (Ne.symm differ)]
    · rcases poll_registers cell w x among with old | rfl
      · exact Nat.lt_of_lt_of_le (kept.known id cell there x old) extended.length
      · exact inside
    · rw [extended.same x]
      rfl
  | settled id cell outcome there unsettled results wakes told owed =>
    rw [told, owed]
    have bound := (List.getElem?_eq_some_iff.1 there).1
    have settled : cell.settle outcome = (⟨some outcome, []⟩, cell.wakers) := by
      simp [Cell.settle, unsettled]
    obtain ⟨length, counts⟩ := foldl_wake cell.wakers v.session.wakes (kept.known id cell there)
    have watch := (kept.watch id cell there).settle unsettled outcome
    rw [settled] at results wakes watch ⊢
    rw [← wakes] at length counts
    refine kept.at_result later id ⟨some outcome, []⟩ [.settled outcome] cell.wakers sound ?_
      (fun other differ => ?_) (Nat.le_of_eq length.symm) (fun x among => ?_) counts
      (fun _ => rfl) watch
    · rw [results, List.getElem?_set_self bound]
    · rw [results, List.getElem?_set_ne (Ne.symm differ)]
    · cases among

theorem ring (kept : Kept v signs) (id : PendingId) (w : Waker) :
    Kept (v.step (.ring id w)).1 (signs ++ (v.step (.ring id w)).2) := by
  unfold step
  by_cases owed : (id, w) ∈ v.due
  · simp only [if_pos owed]
    have some_due : 0 < v.due.count (id, w) := List.count_pos_iff.2 owed
    have rings : [(id, Sign.rung w (v.session.results.outcome? id))] =
        [Sign.rung w (v.session.results.outcome? id)].map (id, ·) := rfl
    refine ⟨kept.sound, fun other cell held => ?_, fun other beyond => ?_, kept.known, fun x => ?_⟩
    · by_cases same : other = id
      · subst same
        have readable : v.session.results.outcome? other = cell.outcome := by
          simp [Pendings.outcome?, held]
        have watch := (kept.watch other cell held).ring w some_due
        have left : (fun x => if x = w then v.due.count (other, x) - 1
            else v.due.count (other, x)) =
              fun x => (v.due.erase (other, w)).count (other, x) := funext fun x => by
          rw [List.count_erase]
          by_cases rung : x = w
          · simp [rung]
          · simp [rung, Ne.symm rung]
        rw [left] at watch
        rw [rings, signs_of_append, signs_of_own, readable]
        exact watch
      · have others : (fun x => (v.due.erase (id, w)).count (other, x)) =
            fun x => v.due.count (other, x) := funext fun x => by
          simp [List.count_erase, Ne.symm same]
        rw [rings, signs_of_append, signs_of_other other id _ (Ne.symm same), List.append_nil,
          others]
        exact kept.watch other cell held
    · obtain ⟨silent, undue⟩ := kept.unmade other beyond
      have differ : other ≠ id := by
        rintro rfl
        exact absurd (undue w) (Nat.ne_of_gt some_due)
      refine ⟨?_, fun x => ?_⟩
      · rw [rings, signs_of_append, signs_of_other other id _ (Ne.symm differ), silent]
        rfl
      · simp [List.count_erase, undue x]
    · have same := (List.perm_cons_erase owed).countP_eq fun entry => entry.2 == x
      rw [List.countP_cons] at same
      rw [kept.counted x, same, List.countP_append]
      simp only [List.countP_cons, List.countP_nil, Sign.rings]
      omega
  · simpa only [if_neg owed, List.append_nil] using kept

theorem run (kept : Kept v signs) (moves : List Move) :
    Kept (v.run moves).1 (signs ++ (v.run moves).2) := by
  induction moves generalizing v signs with
  | nil => simpa [Vigil.run] using kept
  | cons move rest ih =>
    have next : Kept (v.step move).1 (signs ++ (v.step move).2) := by
      cases move with
      | operate op => exact kept.operate op
      | ring id w => exact kept.ring id w
    simpa [Vigil.run, List.append_assoc] using ih next

theorem start : Kept start [] :=
  ⟨Session.Sound.empty, nofun, fun _ _ => ⟨rfl, fun _ => rfl⟩, nofun, fun _ => rfl⟩

end Kept

theorem run_session (v : Vigil) (moves : List Move) :
    (v.run moves).1.session = (v.session.run (operations moves)).1 := by
  induction moves generalizing v with
  | nil => rfl
  | cons move rest ih =>
    cases move with
    | operate op => exact ih _
    | ring id w =>
      have still : (v.step (.ring id w)).1.session = v.session := by
        unfold step
        by_cases owed : (id, w) ∈ v.due <;> simp [owed]
      change ((v.step (.ring id w)).1.run rest).1.session = _
      rw [ih, still]
      rfl

theorem ring_all (v : Vigil) :
    (v.run (v.due.map fun entry => .ring entry.1 entry.2)).1 = ⟨v.session, []⟩ := by
  obtain ⟨session, due⟩ := v
  induction due with
  | nil => rfl
  | cons entry rest ih =>
    have first : (Vigil.step ⟨session, entry :: rest⟩ (.ring entry.1 entry.2)).1 =
        ⟨session, rest⟩ := by
      simp [step]
    simp only [List.map_cons, run, first]
    exact ih

end Vigil

theorem no_wakeup_is_lost (moves : List Vigil.Move) :
    let v := (Vigil.start.run moves).1
    let signs := (Vigil.start.run moves).2
    v.session = (Session.empty.run (Vigil.operations moves)).1 ∧
      (∀ (id : PendingId) (cell : Cell), v.session.results[id]? = some cell →
        Watch cell (fun w => v.due.count (id, w)) (signsOf id signs)) ∧
      (∀ w, v.session.wakes.getD w 0 =
        signs.countP (fun sign => sign.2.rings w) + v.due.countP (fun entry => entry.2 == w)) ∧
      (v.run (v.due.map fun entry => .ring entry.1 entry.2)).1 = ⟨v.session, []⟩ := by
  intro v signs
  have kept : v.Kept signs := by simpa using Vigil.Kept.start.run moves
  exact ⟨Vigil.start.run_session moves, kept.watch, kept.counted, v.ring_all⟩

-- A waker that has polled twice is rung once, and one that comes late is not rung at all.
example : (Vigil.start.run [.operate .create, .operate (.poll 0 3), .operate (.poll 0 3),
    .operate (.dropResolver 0), .operate (.poll 0 5), .ring 0 3]).2 =
    [(0, .polled 3 none), (0, .polled 3 none), (0, .settled (.error .abandoned)),
      (0, .polled 5 (some (.error .abandoned))), (0, .rung 3 (some (.error .abandoned)))] := rfl

end HostBridge.Pending
