import HostBridge.Bridge.Invoke

set_option autoImplicit false

namespace HostBridge

variable {σ μ ν : Type}

def follow (step? : σ → μ → Option (σ × List ν)) (s : σ) : List μ → Option (σ × List ν)
  | [] => some (s, [])
  | move :: rest => do
    let (s, seen) ← step? s move
    let (s, others) ← follow step? s rest
    some (s, seen ++ others)

theorem follow_cons_some (step? : σ → μ → Option (σ × List ν)) (s : σ) (move : μ) (rest : List μ)
    (last : σ) (seen : List ν) (ran : follow step? s (move :: rest) = some (last, seen)) :
    ∃ next first others, step? s move = some (next, first) ∧
      follow step? next rest = some (last, others) ∧ seen = first ++ others := by
  cases moved : step? s move with
  | none => simp [follow, moved] at ran
  | some result =>
    obtain ⟨next, first⟩ := result
    cases went : follow step? next rest with
    | none => simp [follow, moved, went] at ran
    | some result =>
      obtain ⟨final, others⟩ := result
      simp only [follow, moved, went, Option.bind_eq_bind, Option.bind_some, Option.some.injEq,
        Prod.mk.injEq] at ran
      obtain ⟨rfl, rfl⟩ := ran
      exact ⟨next, first, others, rfl, went, rfl⟩

theorem follow_cons (step? : σ → μ → Option (σ × List ν)) (s next last : σ) (move : μ)
    (rest : List μ) (first others : List ν) (moved : step? s move = some (next, first))
    (went : follow step? next rest = some (last, others)) :
    follow step? s (move :: rest) = some (last, first ++ others) := by
  simp [follow, moved, went]

theorem follow_append_some (step? : σ → μ → Option (σ × List ν)) (s last : σ)
    (before after : List μ) (seen : List ν)
    (ran : follow step? s (before ++ after) = some (last, seen)) :
    ∃ mid earlier later, follow step? s before = some (mid, earlier) ∧
      follow step? mid after = some (last, later) ∧ seen = earlier ++ later := by
  induction before generalizing s seen with
  | nil => exact ⟨s, [], seen, rfl, ran, rfl⟩
  | cons move rest ih =>
    obtain ⟨next, first, others, moved, went, rfl⟩ := follow_cons_some step? s move _ last seen ran
    obtain ⟨mid, earlier, later, reached, left, rfl⟩ := ih next others went
    exact ⟨mid, first ++ earlier, later, follow_cons step? s next mid move rest first earlier moved
      reached, left, (List.append_assoc first earlier later).symm⟩

theorem follow_append (step? : σ → μ → Option (σ × List ν)) (s mid last : σ)
    (before after : List μ) (earlier later : List ν)
    (reached : follow step? s before = some (mid, earlier))
    (went : follow step? mid after = some (last, later)) :
    follow step? s (before ++ after) = some (last, earlier ++ later) := by
  induction before generalizing s earlier with
  | nil =>
    simp only [follow, Option.some.injEq, Prod.mk.injEq] at reached
    obtain ⟨rfl, rfl⟩ := reached
    exact went
  | cons move rest ih =>
    obtain ⟨next, first, others, moved, left, rfl⟩ :=
      follow_cons_some step? s move rest mid earlier reached
    rw [List.append_assoc]
    exact follow_cons step? s next last move _ first _ moved (ih next others left)

-- The invariant speaks of all that has been seen so far, so the run may start in its middle.
theorem follow_invariant (step? : σ → μ → Option (σ × List ν)) (Inv : σ → List ν → Prop)
    (kept : ∀ s seen move next new, Inv s seen → step? s move = some (next, new) →
      Inv next (seen ++ new))
    (s last : σ) (seen new : List ν) (moves : List μ) (holds : Inv s seen)
    (ran : follow step? s moves = some (last, new)) : Inv last (seen ++ new) := by
  induction moves generalizing s seen new with
  | nil =>
    simp only [follow, Option.some.injEq, Prod.mk.injEq] at ran
    obtain ⟨rfl, rfl⟩ := ran
    simpa using holds
  | cons move rest ih =>
    obtain ⟨next, first, others, moved, went, rfl⟩ :=
      follow_cons_some step? s move rest last new ran
    have after := ih next (seen ++ first) others (kept s seen move next first holds moved) went
    simpa [List.append_assoc] using after

theorem follow_passes (step? : σ → μ → Option (σ × List ν)) (count : σ → Nat)
    (rises : ∀ s next move new, step? s move = some (next, new) → count next ≤ count s + 1)
    (s last : σ) (moves : List μ) (seen : List ν) (ran : follow step? s moves = some (last, seen))
    (n : Nat) (above : count s ≤ n) (below : n < count last) :
    ∃ before move after mid earlier next new later, moves = before ++ move :: after ∧
      follow step? s before = some (mid, earlier) ∧ step? mid move = some (next, new) ∧
      follow step? next after = some (last, later) ∧ seen = earlier ++ (new ++ later) ∧
      count mid = n ∧ count next = n + 1 := by
  induction moves generalizing s seen with
  | nil =>
    simp only [follow, Option.some.injEq, Prod.mk.injEq] at ran
    obtain ⟨rfl, _⟩ := ran
    omega
  | cons move rest ih =>
    obtain ⟨next, first, others, moved, went, rfl⟩ :=
      follow_cons_some step? s move rest last seen ran
    by_cases later : count next ≤ n
    · obtain ⟨before, further, after, mid, earlier, next', new, others', rfl, reached, here, left,
        rfl, old, more⟩ := ih next others went later
      refine ⟨move :: before, further, after, mid, first ++ earlier, next', new, others', rfl,
        follow_cons step? s next mid move before first earlier moved reached, here, left, ?_, old,
        more⟩
      rw [List.append_assoc]
    · have step := rises s next move first moved
      exact ⟨[], move, rest, s, [], next, first, others, rfl, rfl, moved, went, rfl, by omega,
        by omega⟩

theorem append_eq_split (first others early late : List ν) (x : ν)
    (split : first ++ others = early ++ x :: late) :
    (∃ front, early = first ++ front ∧ others = front ++ x :: late) ∨
      ∃ back, first = early ++ x :: back ∧ late = back ++ others := by
  rcases List.append_eq_append_iff.1 split with same | ⟨front, same, whole⟩
  · exact Or.inl same
  · cases front with
    | nil => exact Or.inl ⟨[], by simpa using same.symm, by simpa using whole.symm⟩
    | cons y back =>
      obtain ⟨rfl, rest⟩ := List.cons.inj whole
      exact Or.inr ⟨back, same, rest⟩

theorem follow_shows (step? : σ → μ → Option (σ × List ν)) (s last : σ) (moves : List μ) (x : ν)
    (early late : List ν) (ran : follow step? s moves = some (last, early ++ x :: late)) :
    ∃ before move after mid earlier next front back later, moves = before ++ move :: after ∧
      follow step? s before = some (mid, earlier) ∧
      step? mid move = some (next, front ++ x :: back) ∧
      follow step? next after = some (last, later) ∧ early = earlier ++ front ∧
      late = back ++ later := by
  induction moves generalizing s early with
  | nil => simp [follow] at ran
  | cons move rest ih =>
    obtain ⟨next, first, others, moved, went, split⟩ :=
      follow_cons_some step? s move rest last _ ran
    rcases append_eq_split first others early late x split.symm with
      ⟨front, rfl, rfl⟩ | ⟨back, rfl, rfl⟩
    · obtain ⟨before, further, after, mid, earlier, next', front', back, later, rfl, reached, here,
        left, rfl, rfl⟩ := ih next front went
      exact ⟨move :: before, further, after, mid, first ++ earlier, next', front', back, later, rfl,
        follow_cons step? s next mid move before first earlier moved reached, here, left,
        (List.append_assoc first earlier front').symm, rfl⟩
    · exact ⟨[], move, rest, s, [], next, early, back, others, rfl, rfl, moved, went, rfl, rfl⟩

theorem host_run_follows {α ε : Type} (h : Host α ε) (moves : List (Host.Move α ε)) :
    h.run? moves = follow Host.step? h moves := by
  induction moves generalizing h with
  | nil => rfl
  | cons move rest ih => simp only [Host.run?, follow, ih]

theorem bridge_run_follows {α ε : Type} (b : Bridge α ε) (h : Host α ε)
    (moves : List (Bridge.Move α)) : b.run? h moves = follow b.step? h moves := by
  induction moves generalizing h with
  | nil => rfl
  | cons move rest ih => simp only [Bridge.run?, follow, ih]

end HostBridge
