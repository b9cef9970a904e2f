import HostBridge.Proofs.Bridge.Lookup
import HostBridge.Proofs.Registration
import HostBridge.Proofs.Text.Order

set_option autoImplicit false

namespace HostBridge

variable {α ε : Type}

theorem Keeps.keys_ascend {β : Type} {m : KeyMap β} {name : β → String} {items : List β}
    (kept : Keeps m name items) : m.keys.Pairwise Text.BytesBefore :=
  kept.ascending.imp fun less => (Text.lt_iff_bytes_before _ _).1 less

def Method.fault? (x : Method α ε) : Option BridgeError :=
  x.signature.misplaced?.map (.invalidSignature x.name)

theorem Method.fault_none_iff (x : Method α ε) :
    x.fault? = none ↔ x.signature.misplaced? = none :=
  Option.map_eq_none_iff

namespace Module

structure Tabled (name : String) (methods : List (Method α ε)) : Prop where
  builds : (∃ m, build name methods = .ok m) ↔
    (∀ x ∈ methods, x.signature.misplaced? = none) ∧ (methods.map Method.name).Nodup
  refuses : ∀ e, build name methods = .error e ↔ ∃ before x after,
    methods = before ++ x :: after ∧ Sound Method.fault? Method.name before ∧
      Refused Method.fault? Method.name (fun y => .duplicateMethod name y.name) before x e
  finds : ∀ m, build name methods = .ok m → ∀ key,
    (∀ found, m.resolve key = .ok found ↔ found ∈ methods ∧ key = found.name) ∧
    ∀ e, m.resolve key = .error e ↔
      key ∉ methods.map Method.name ∧ e = .unknownMethod name key
  lists : ∀ m, build name methods = .ok m →
    m.methodNames.Pairwise Text.BytesBefore ∧ m.methodNames.Perm (methods.map Method.name)
  -- It is the very same module, so nothing that is asked of it tells the difference.
  permuted : ∀ m others, build name methods = .ok m → others.Perm methods →
    build name others = .ok m

theorem adds_methods : Adds add (Module.methods (α := α) (ε := ε)) Method.name Method.fault?
    (fun m x => .duplicateMethod m.name x.name) where
  faulty m x e faulty := by
    obtain ⟨fault, found, rfl⟩ := Option.map_eq_some_iff.1 faulty
    rw [add, found]
  repeated m x fine taken := by
    rw [add, (x.fault_none_iff).1 fine]
    exact if_pos taken
  added m x fine free := by
    refine ⟨{ m with methods := m.methods.insert x.name x }, ?_, rfl, rfl⟩
    rw [add, (x.fault_none_iff).1 fine]
    exact if_neg (Bool.eq_false_iff.1 free)

theorem resolve_error_iff (m : Module α ε) (key : String) (e : BridgeError) :
    m.resolve key = .error e ↔ m.methods.contains key = false ∧ e = .unknownMethod m.name key := by
  rw [resolve, KeyMap.contains]
  cases m.methods.lookup key with
  | none => simp [eq_comm]
  | some found => simp

theorem tabled (name : String) (methods : List (Method α ε)) : Tabled name methods := by
  have keeps := filled_keeps adds_methods methods ⟨name, []⟩ rfl
  refine ⟨?_, unfilled_iff adds_methods methods ⟨name, []⟩ rfl, fun m built key => ?_,
    fun m built => ?_, fun m others built same => ?_⟩
  · rw [build, filled_iff adds_methods methods ⟨name, []⟩ rfl, Sound]
    simp only [Method.fault_none_iff]
  · obtain ⟨named, finds⟩ := build_finds name methods m built
    refine ⟨finds key, fun e => ?_⟩
    rw [resolve_error_iff, named, ← (keeps m built).contains_iff, Bool.not_eq_true]
  · exact ⟨(keeps m built).keys_ascend, (keeps m built).keys_perm⟩
  · obtain ⟨other, also, entries⟩ :=
      filled_perm adds_methods methods ⟨name, []⟩ rfl others same m built
    have names := (build_finds name methods m built).1
    have same := (build_finds name others other also).1
    obtain ⟨_, _⟩ := m
    obtain ⟨_, _⟩ := other
    cases names
    cases same
    cases entries
    exact also

end Module

namespace Bridge

structure Tabled (config : Config) (processors : Nat) (modules : List (Module α ε)) : Prop where
  builds : (∃ built, build config processors modules = .ok built) ↔
    config.fault? = none ∧ (modules.map Module.name).Nodup
  refuses : ∀ e, build config processors modules = .error e ↔
    (∃ reason, config.fault? = some reason ∧ e = .config reason) ∨
    config.fault? = none ∧ ∃ before x after, modules = before ++ x :: after ∧
      (before.map Module.name).Nodup ∧ x.name ∈ before.map Module.name ∧
      e = .bridge (.duplicateModule x.name)
  finds : ∀ b start, build config processors modules = .ok (b, start) → ∀ name,
    (∀ m, b.modules.lookup name = some m ↔ m ∈ modules ∧ name = m.name) ∧
    (∀ m ∈ modules, name = m.name → ∀ method, b.resolve name method = m.resolve method) ∧
    (name ∉ modules.map Module.name → ∀ method,
      b.resolve name method = .error (.unknownModule name))
  lists : ∀ b start, build config processors modules = .ok (b, start) →
    b.moduleNames.Pairwise Text.BytesBefore ∧ b.moduleNames.Perm (modules.map Module.name)
  permuted : ∀ built others, build config processors modules = .ok built → others.Perm modules →
    build config processors others = .ok built

theorem adds_modules : Adds add (Bridge.modules (α := α) (ε := ε)) Module.name (fun _ => none)
    (fun _ m => .duplicateModule m.name) where
  faulty _ _ _ faulty := nomatch faulty
  repeated _ _ _ taken := if_pos taken
  added b m _ free := ⟨⟨b.modules.insert m.name m⟩, if_neg (Bool.eq_false_iff.1 free), rfl, rfl⟩

section Modules

variable (modules : List (Module α ε))

theorem of_modules_iff : (∃ b, ofModules modules = .ok b) ↔ (modules.map Module.name).Nodup := by
  rw [ofModules, filled_iff adds_modules modules ⟨[]⟩ rfl, Sound]
  exact and_iff_right fun _ _ => rfl

theorem of_modules_error_iff (e : BridgeError) : ofModules modules = .error e ↔
    ∃ before x after, modules = before ++ x :: after ∧ (before.map Module.name).Nodup ∧
      x.name ∈ before.map Module.name ∧ e = .duplicateModule x.name := by
  rw [ofModules, unfilled_iff adds_modules modules ⟨[]⟩ rfl]
  constructor
  · intro ⟨before, x, after, split, sound, refused⟩
    cases refused with
    | faulty _ here => cases here
    | repeated _ again => exact ⟨before, x, after, split, sound.2, again, rfl⟩
  · intro ⟨before, x, after, split, distinct, again, same⟩
    exact ⟨before, x, after, split, ⟨fun _ _ => rfl, distinct⟩, same ▸ .repeated rfl again⟩

theorem of_modules_perm (others : List (Module α ε)) (same : others.Perm modules)
    (b : Bridge α ε) (built : ofModules modules = .ok b) : ofModules others = .ok b := by
  obtain ⟨⟨other⟩, also, entries⟩ := filled_perm adds_modules modules ⟨[]⟩ rfl others same b built
  cases entries
  exact also

end Modules

section Build

variable (config : Config) (processors : Nat) (modules : List (Module α ε))

theorem build_ok_iff (b : Bridge α ε) (start : Host α ε) :
    build config processors modules = .ok (b, start) ↔
      config.fault? = none ∧ ofModules modules = .ok b ∧
        start = .start config.pool.threadName config.pool.queueCapacity
          (config.pool.workerCount processors) := by
  constructor
  · intro built
    obtain ⟨made, started⟩ := build_some config processors modules b start built
    cases fault : config.fault? with
    | none => exact ⟨rfl, made, started⟩
    | some reason =>
      rw [build, fault] at built
      cases built
  · intro ⟨fine, made, started⟩
    rw [build, fine, made, started]

theorem build_error_iff (e : BuildError) : build config processors modules = .error e ↔
    (∃ reason, config.fault? = some reason ∧ e = .config reason) ∨
      config.fault? = none ∧ ∃ f, ofModules modules = .error f ∧ e = .bridge f := by
  rw [build]
  cases config.fault? with
  | some reason => simp [eq_comm]
  | none => cases ofModules modules <;> simp [eq_comm]

theorem tabled : Tabled config processors modules := by
  have keeps := filled_keeps adds_modules modules ⟨[]⟩ rfl
  refine ⟨?_, fun e => ?_, fun b start built name => ?_, fun b start built => ?_,
    fun ⟨b, start⟩ others built same => ?_⟩
  · rw [← of_modules_iff modules]
    simp only [Prod.exists, build_ok_iff]
    exact ⟨fun ⟨b, _, fine, made, _⟩ => ⟨fine, b, made⟩,
      fun ⟨fine, b, made⟩ => ⟨b, _, fine, made, rfl⟩⟩
  · rw [build_error_iff]
    refine or_congr_right (and_congr_right fun _ => ?_)
    simp only [of_modules_error_iff]
    constructor
    · rintro ⟨_, ⟨before, x, after, split, distinct, again, rfl⟩, rfl⟩
      exact ⟨before, x, after, split, distinct, again, rfl⟩
    · rintro ⟨before, x, after, split, distinct, again, rfl⟩
      exact ⟨_, ⟨before, x, after, split, distinct, again, rfl⟩, rfl⟩
  · obtain ⟨_, made, _⟩ := (build_ok_iff config processors modules b start).1 built
    have finds := lookup_built modules b made name
    refine ⟨finds, fun m member named method => ?_, fun unknown method => ?_⟩
    · rw [resolve, (finds m).2 ⟨member, named⟩]
    · have missing : b.modules.lookup name = none := by
        rw [← Option.not_isSome_iff_eq_none]
        exact fun found => unknown (((keeps b made).contains_iff name).1 found)
      rw [resolve, missing]
  · obtain ⟨_, made, _⟩ := (build_ok_iff config processors modules b start).1 built
    exact ⟨(keeps b made).keys_ascend, (keeps b made).keys_perm⟩
  · obtain ⟨fine, made, started⟩ := (build_ok_iff config processors modules b start).1 built
    exact (build_ok_iff config processors others b start).2
      ⟨fine, of_modules_perm modules others same b made, started⟩

end Build

theorem tables_hold_what_was_registered :
    (∀ (name : String) (methods : List (Method α ε)), Module.Tabled name methods) ∧
      ∀ (config : Config) (processors : Nat) (modules : List (Module α ε)),
        Tabled config processors modules :=
  ⟨Module.tabled, tabled⟩

end Bridge

end HostBridge
