set_option autoImplicit false

namespace HostBridge

variable {γ δ η : Type}

theorem bind_ok {x : Except η γ} {f : γ → Except η δ} {r : δ}
    (done : x >>= f = .ok r) : ∃ y, x = .ok y ∧ f y = .ok r := by
  cases x with
  | error e => cases done
  | ok y => exact ⟨y, rfl, done⟩

theorem bind_error {x : Except η γ} {f : γ → Except η δ} {e : η}
    (failed : x >>= f = .error e) : x = .error e ∨ ∃ y, x = .ok y ∧ f y = .error e := by
  cases x with
  | error e =>
    cases failed
    exact Or.inl rfl
  | ok y => exact Or.inr ⟨y, rfl, failed⟩

theorem mapM_ok (f : γ → Except η δ) (items : List γ) (results : List δ)
    (done : items.mapM f = .ok results) :
    (∀ x ∈ items, ∃ y ∈ results, f x = .ok y) ∧ ∀ y ∈ results, ∃ x ∈ items, f x = .ok y := by
  induction items generalizing results with
  | nil =>
    cases done
    simp
  | cons head tail ih =>
    rw [List.mapM_cons] at done
    obtain ⟨first, made, done⟩ := bind_ok done
    obtain ⟨others, went, done⟩ := bind_ok done
    cases done
    obtain ⟨onto, from_⟩ := ih others went
    constructor
    · intro x member
      rcases List.mem_cons.1 member with rfl | later
      · exact ⟨first, .head _, made⟩
      · obtain ⟨y, among, same⟩ := onto x later
        exact ⟨y, .tail _ among, same⟩
    · intro y member
      rcases List.mem_cons.1 member with rfl | later
      · exact ⟨head, .head _, made⟩
      · obtain ⟨x, among, same⟩ := from_ y later
        exact ⟨x, .tail _ among, same⟩

end HostBridge
