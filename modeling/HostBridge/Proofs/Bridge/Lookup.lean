import HostBridge.Bridge.Invoke
import HostBridge.Proofs.Except

set_option autoImplicit false

namespace HostBridge

variable {α ε β : Type}

theorem lookup_insert_fresh (m : KeyMap β) (name : String) (value : β)
    (fresh : m.contains name = false) (key : String) (found : β) :
    (m.insert name value).lookup key = some found ↔
      m.lookup key = some found ∨ found = value ∧ key = name := by
  have none : m.lookup name = none := by
    simpa [KeyMap.contains] using fresh
  rw [KeyMap.lookup_insert]
  by_cases same : key = name
  · rw [if_pos same, same, none]
    simp [eq_comm]
  · simp [same]

section Fold

variable {σ η : Type} {step : σ → β → Except η σ}

theorem foldlM_keeps {γ : Type} (part : σ → γ)
    (kept : ∀ s x next, step s x = .ok next → part next = part s) (items : List β) (s last : σ)
    (built : items.foldlM step s = .ok last) : part last = part s := by
  induction items generalizing s with
  | nil =>
    cases built
    rfl
  | cons x rest ih =>
    rw [List.foldlM_cons] at built
    obtain ⟨next, added, built⟩ := bind_ok built
    exact (ih next built).trans (kept s x next added)

theorem foldlM_lookup (entries : σ → KeyMap β) (name : β → String)
    (adds : ∀ s x next, step s x = .ok next → (entries s).contains (name x) = false ∧
      entries next = (entries s).insert (name x) x)
    (items : List β) (s last : σ) (built : items.foldlM step s = .ok last) (key : String)
    (found : β) : (entries last).lookup key = some found ↔
      (entries s).lookup key = some found ∨ found ∈ items ∧ key = name found := by
  induction items generalizing s with
  | nil =>
    cases built
    simp
  | cons x rest ih =>
    rw [List.foldlM_cons] at built
    obtain ⟨next, added, built⟩ := bind_ok built
    obtain ⟨fresh, inserted⟩ := adds s x next added
    rw [ih next built, inserted, lookup_insert_fresh (entries s) (name x) x fresh, or_assoc,
      List.mem_cons, or_and_right]
    refine or_congr_right (or_congr_left (and_congr_right fun same => ?_))
    rw [same]

end Fold

namespace Module

theorem add_some (m next : Module α ε) (method : Method α ε) (added : m.add method = .ok next) :
    m.methods.contains method.name = false ∧
      next = { m with methods := m.methods.insert method.name method } := by
  unfold add at added
  split at added
  · cases added
  · split at added
    · cases added
    · next fresh =>
      cases added
      exact ⟨Bool.eq_false_iff.2 fresh, rfl⟩

theorem build_finds (name : String) (methods : List (Method α ε)) (m : Module α ε)
    (built : build name methods = .ok m) :
    m.name = name ∧
      ∀ key found, m.resolve key = .ok found ↔ found ∈ methods ∧ key = found.name := by
  have named : m.name = name := foldlM_keeps Module.name
    (fun s method next added => (add_some s next method added).2 ▸ rfl) methods ⟨name, []⟩ m built
  refine ⟨named, fun key found => ?_⟩
  have held := foldlM_lookup Module.methods Method.name
    (fun s method next added => by
      obtain ⟨fresh, rfl⟩ := add_some s next method added
      exact ⟨fresh, rfl⟩)
    methods ⟨name, []⟩ m built key found
  simp only [List.lookup_nil, reduceCtorEq, false_or] at held
  rw [← held]
  unfold resolve
  cases m.methods.lookup key <;> simp

end Module

namespace Bridge

theorem add_some (b next : Bridge α ε) (m : Module α ε) (added : b.add m = .ok next) :
    b.modules.contains m.name = false ∧ next = ⟨b.modules.insert m.name m⟩ := by
  unfold add at added
  split at added
  · cases added
  · next fresh =>
    cases added
    exact ⟨Bool.eq_false_iff.2 fresh, rfl⟩

theorem lookup_built (modules : List (Module α ε)) (b : Bridge α ε)
    (built : ofModules modules = .ok b) (module : String) (m : Module α ε) :
    b.modules.lookup module = some m ↔ m ∈ modules ∧ module = m.name := by
  have finds := foldlM_lookup Bridge.modules Module.name
    (fun s m next added => by
      obtain ⟨fresh, rfl⟩ := add_some s next m added
      exact ⟨fresh, rfl⟩)
    modules ⟨[]⟩ b built module m
  simpa only [List.lookup_nil, reduceCtorEq, false_or] using finds

theorem resolves (modules : List (Module α ε)) (b : Bridge α ε)
    (built : ofModules modules = .ok b) (module method : String) (found : Method α ε) :
    b.resolve module method = .ok found ↔
      ∃ m ∈ modules, m.name = module ∧ m.resolve method = .ok found := by
  have finds := lookup_built modules b built module
  unfold resolve
  cases held : b.modules.lookup module with
  | none =>
    constructor
    · intro same
      cases same
    · rintro ⟨m, member, rfl, _⟩
      rw [(finds m).2 ⟨member, rfl⟩] at held
      cases held
  | some m =>
    obtain ⟨member, named⟩ := (finds m).1 held
    constructor
    · intro resolved
      exact ⟨m, member, named.symm, resolved⟩
    · rintro ⟨other, also, rfl, resolved⟩
      rw [(finds other).2 ⟨also, rfl⟩] at held
      cases held
      exact resolved

theorem build_some (config : Config) (processors : Nat) (modules : List (Module α ε))
    (b : Bridge α ε) (start : Host α ε) (built : build config processors modules = .ok (b, start)) :
    ofModules modules = .ok b ∧ start = .start config.pool.threadName config.pool.queueCapacity
      (config.pool.workerCount processors) := by
  unfold build at built
  split at built
  · cases built
  · split at built
    · cases built
    · next made =>
      cases built
      exact ⟨made, rfl⟩

theorem target_of_resolve (b : Bridge α ε) (module method : String) (args : List Value)
    (found : Method α ε) (bound : Arguments) (resolved : b.resolve module method = .ok found)
    (fits : found.signature.bind args = .ok bound) :
    b.target module method args = .ok (found, bound) := by
  simp [target, resolved, fits, bind, Except.bind]

theorem resolve_of_target (b : Bridge α ε) (module method : String) (args : List Value)
    (found : Method α ε) (bound : Arguments)
    (reached : b.target module method args = .ok (found, bound)) :
    b.resolve module method = .ok found ∧ found.signature.bind args = .ok bound := by
  obtain ⟨other, resolved, reached⟩ := bind_ok reached
  obtain ⟨others, fits, reached⟩ := bind_ok reached
  cases reached
  exact ⟨resolved, fits⟩

end Bridge

namespace Signature

theorem bindParams_cons (p : Param) (rest : List Param) (position : Nat) (args : List Value)
    (bound : List Argument) (fits : bindParams (p :: rest) position args = .ok bound) :
    ∃ first others, p.bind position args.head? = .ok first ∧
      bindParams rest (position + 1) args.tail = .ok others ∧ bound = first :: others := by
  obtain ⟨first, head, fits⟩ := bind_ok fits
  obtain ⟨others, tail, fits⟩ := bind_ok fits
  cases fits
  exact ⟨first, others, head, tail, rfl⟩

end Signature

namespace Param

theorem bind_required (type : ParamType) (position : Nat) (v : Option Value) (a : Argument)
    (fits : (⟨type, false⟩ : Param).bind position v = .ok a) :
    ∃ given, v = some given ∧ type.accept given = some a := by
  cases v with
  | none => simp [bind] at fits
  | some given =>
    cases accepted : type.accept given with
    | none => simp [bind, accepted] at fits
    | some other =>
      simp only [bind, Bool.false_and, Bool.false_eq_true, if_false, accepted,
        Except.ok.injEq] at fits
      exact ⟨given, rfl, fits ▸ accepted⟩

theorem bind_number (position : Nat) (v : Option Value) (a : Argument)
    (fits : (⟨.number, false⟩ : Param).bind position v = .ok a) :
    ∃ x, v = some (.number x) ∧ a = .number x := by
  obtain ⟨given, rfl, accepted⟩ := bind_required _ _ _ _ fits
  cases given <;> simp [ParamType.accept] at accepted
  exact ⟨_, rfl, accepted.symm⟩

theorem bind_string (position : Nat) (v : Option Value) (a : Argument)
    (fits : (⟨.string, false⟩ : Param).bind position v = .ok a) :
    ∃ s, v = some (.string s) ∧ a = .string s := by
  obtain ⟨given, rfl, accepted⟩ := bind_required _ _ _ _ fits
  cases given <;> simp [ParamType.accept] at accepted
  exact ⟨_, rfl, accepted.symm⟩

theorem bind_object (position : Nat) (v : Option Value) (a : Argument)
    (fits : (⟨.object, false⟩ : Param).bind position v = .ok a) :
    ∃ fields, v = some (.object fields) ∧ a = .object fields := by
  obtain ⟨given, rfl, accepted⟩ := bind_required _ _ _ _ fits
  cases given <;> simp [ParamType.accept] at accepted
  exact ⟨_, rfl, accepted.symm⟩

theorem bind_optional_object (position : Nat) (v : Option Value) (a : Argument)
    (fits : (⟨.object, true⟩ : Param).bind position v = .ok a) :
    a = .absent ∨ ∃ fields, v = some (.object fields) ∧ a = .object fields := by
  cases v with
  | none =>
    simp only [bind, if_true, Except.ok.injEq] at fits
    exact Or.inl fits.symm
  | some given =>
    cases given <;> simp [bind, Value.isUndefined, ParamType.accept] at fits
    · exact Or.inl fits.symm
    · exact Or.inr ⟨_, rfl, fits.symm⟩

end Param

end HostBridge
