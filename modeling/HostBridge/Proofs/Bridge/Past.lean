import HostBridge.Proofs.Bridge.Calls
import HostBridge.Proofs.Pool.Desertion
import HostBridge.Proofs.Pool.Order

set_option autoImplicit false

namespace HostBridge

variable {α ε : Type}

inductive Past (start : Host α ε) : Host α ε → List (Note ε) → List (Job α ε) → Prop where
  | start : Past start start [] []
  | move {h next : Host α ε} {notes new : List (Note ε)} {jobs : List (Job α ε)}
      (move : Host.Move α ε) (past : Past start h notes jobs)
      (moved : h.step? move = some (next, new)) :
      Past start next (notes ++ new)
        (jobs ++ Host.submissions h.pool.submitted h.results.length [move])
  | call {h : Host α ε} {notes : List (Note ε)} {jobs : List (Job α ε)} (b : Bridge α ε)
      (module method : String) (args : List Value) (acts : List ε) (new : List (Note ε))
      (made : List (Job α ε)) (past : Past start h notes jobs)
      (served : Served h (b.invoke h module method args).1 new made)
      (shown : (b.invoke h module method args).2.1 = acts.map (.acted .caller none) ++ new) :
      Past start (b.invoke h module method args).1
        (notes ++ (b.invoke h module method args).2.1) (jobs ++ made)

namespace Past

variable {start h last : Host α ε} {notes more : List (Note ε)} {jobs others : List (Job α ε)}

theorem trans (past : Past start h notes jobs) (later : Past h last more others) :
    Past start last (notes ++ more) (jobs ++ others) := by
  induction later with
  | start => simpa using past
  | move move _ moved ih =>
    rw [← List.append_assoc, ← List.append_assoc]
    exact ih.move move moved
  | call b module method args acts new made _ served shown ih =>
    rw [← List.append_assoc, ← List.append_assoc]
    exact ih.call b module method args acts new made served shown

theorem of_move (move : Host.Move α ε) (moved : start.step? move = some (last, more)) :
    Past start last more
      (Host.submissions start.pool.submitted start.results.length [move]) :=
  Past.start.move move moved

theorem of_call (b : Bridge α ε) (module method : String) (args : List Value) :
    ∃ jobs, Past start (b.invoke start module method args).1
      (b.invoke start module method args).2.1 jobs := by
  obtain ⟨acts, new, made, served, shown, _⟩ := b.invoke_served start module method args
  exact ⟨[] ++ made, Past.start.call b module method args acts new made served shown⟩

theorem ledger {workers : Nat} {thread : Nat → String} {before : List (Note ε)}
    {known : List (Job α ε)} {fate : JobId → Fate α}
    (ledger : Ledger workers thread start before known fate) (past : Past start h notes jobs) :
    ∃ fate', Ledger workers thread h (before ++ notes) (known ++ jobs) fate' := by
  induction past with
  | start => exact ⟨fate, by simpa using ledger⟩
  | move move _ moved ih =>
    obtain ⟨fate', after⟩ := ih
    obtain ⟨fate'', next, _⟩ := Host.step_ledger workers thread _ _ _ _ _ fate' move after moved
    exact ⟨fate'', by simpa only [List.append_assoc] using next⟩
  | call b module method args acts new made _ served shown ih =>
    obtain ⟨fate', after⟩ := ih
    obtain ⟨fate'', next, _⟩ := served.ledger (after.acted acts)
    refine ⟨fate'', ?_⟩
    rw [shown]
    simpa only [List.append_assoc] using next

theorem of_run {workers : Nat} {thread : Nat → String} {before : List (Note ε)}
    {known : List (Job α ε)} {fate : JobId → Fate α} (moves : List (Host.Move α ε))
    (ledger : Ledger workers thread start before known fate)
    (ran : start.run? moves = some (last, more)) :
    Past start last more
      (Host.submissions start.pool.submitted start.results.length moves) := by
  rw [host_run_follows] at ran
  induction moves generalizing start before known fate more with
  | nil =>
    simp only [follow, Option.some.injEq, Prod.mk.injEq] at ran
    obtain ⟨rfl, rfl⟩ := ran
    exact .start
  | cons move rest ih =>
    obtain ⟨next, first, others, moved, went, rfl⟩ :=
      follow_cons_some Host.step? start move rest last more ran
    obtain ⟨_, now, _⟩ := Host.step_ledger workers thread _ _ _ _ _ fate move ledger moved
    have later := ih now went
    have counted := now.places.counted
    rw [List.length_append, ← ledger.places.counted] at counted
    rw [counted, (Host.step_results start next move first moved).1] at later
    rw [Host.submissions_cons]
    exact (of_move move moved).trans later

theorem of_bridge_run (b : Bridge α ε) (moves : List (Bridge.Move α))
    (ran : b.run? start moves = some (last, more)) : ∃ jobs, Past start last more jobs := by
  rw [bridge_run_follows] at ran
  induction moves generalizing start more with
  | nil =>
    simp only [follow, Option.some.injEq, Prod.mk.injEq] at ran
    obtain ⟨rfl, rfl⟩ := ran
    exact ⟨[], .start⟩
  | cons move rest ih =>
    obtain ⟨next, first, others, moved, went, rfl⟩ :=
      follow_cons_some b.step? start move rest last more ran
    obtain ⟨jobs, later⟩ := ih went
    have now : ∃ made, Past start next first made := by
      cases move with
      | invoke module method args =>
        simp only [Bridge.step?, Option.some.injEq, Prod.mk.injEq] at moved
        obtain ⟨rfl, rfl⟩ := moved
        exact of_call b module method args
      | pickUp worker => exact ⟨_, of_move (.pickUp worker) moved⟩
      | finish worker answer => exact ⟨_, of_move (.finish worker answer) moved⟩
      | close => exact ⟨_, of_move .close moved⟩
      | join => exact ⟨_, of_move .join moved⟩
    obtain ⟨made, now⟩ := now
    exact ⟨made ++ jobs, now.trans later⟩

theorem keeps (Inv : Pool α ε → List (Note ε) → Prop)
    (kept : ∀ p p' seen shown, Inv p seen → Motion p p' shown → Inv p' (seen ++ shown))
    (holds : Inv start.pool []) (past : Past start h notes jobs) :
    Inv h.pool (milestones notes) := by
  induction past with
  | start => exact holds
  | move move _ moved ih =>
    rw [milestones_append]
    exact kept _ _ _ _ ih (Host.step_motion _ _ move _ moved)
  | call b module method args acts new made _ served shown ih =>
    rw [shown, milestones_append, milestones_append, milestones_acts, List.nil_append]
    rcases served.motion with ⟨same, silent⟩ | motion
    · rw [same, silent, List.append_nil]
      exact ih
    · exact kept _ _ _ _ ih motion

theorem calm (past : Past start h notes jobs) : ∀ note ∈ notes, note.isMishap = false :=
  calm_of_milestones notes (past.keeps (fun _ seen => ∀ note ∈ seen, note.isMishap = false)
    (fun _ _ _ _ before motion note seen =>
      (List.mem_append.1 seen).elim (before note) (motion.calm note))
    fun _ seen => (List.not_mem_nil seen).elim)

theorem ordered (ordered : Ordered start.pool [] [] []) (past : Past start h notes jobs) :
    Ordered h.pool (acceptances notes) (starts notes) (discards notes) := by
  have after := past.keeps
    (fun p seen => Ordered p (acceptances seen) (starts seen) (discards seen))
    (fun p p' seen shown before motion => by
      simpa only [acceptances, starts, discards, List.filterMap_append] using
        before.motion motion) ordered
  obtain ⟨accepted, started, discarded⟩ := order_milestones notes
  rwa [accepted, started, discarded] at after

end Past

end HostBridge
