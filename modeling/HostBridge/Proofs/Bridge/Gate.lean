import HostBridge.Proofs.Bridge.Outcomes

set_option autoImplicit false

namespace HostBridge

variable {α ε : Type}

inductive Gate (modules : List (Module α ε)) (module method : String) (args : List Value) :
    Except BridgeError (Method α ε × Arguments) → Prop where
  | noModule (absent : ∀ m ∈ modules, m.name ≠ module) :
      Gate modules module method args (.error (.unknownModule module))
  | noMethod (m : Module α ε) (member : m ∈ modules) (named : m.name = module)
      (absent : m.methods.lookup method = none) :
      Gate modules module method args (.error (.unknownMethod module method))
  | unfit (m : Module α ε) (found : Method α ε) (e : BridgeError) (member : m ∈ modules)
      (named : m.name = module) (offered : m.methods.lookup method = some found)
      (unbound : found.signature.bind args = .error e) :
      Gate modules module method args (.error e)
  | passed (m : Module α ε) (found : Method α ε) (bound : Arguments) (member : m ∈ modules)
      (named : m.name = module) (offered : m.methods.lookup method = some found)
      (fits : found.signature.bind args = .ok bound) :
      Gate modules module method args (.ok (found, bound))

theorem gate_iff (modules : List (Module α ε)) (b : Bridge α ε)
    (built : Bridge.ofModules modules = .ok b) (module method : String) (args : List Value)
    (verdict : Except BridgeError (Method α ε × Arguments)) :
    Gate modules module method args verdict ↔ b.target module method args = verdict := by
  have finds := Bridge.lookup_built modules b built module
  have reaches : ∀ m ∈ modules, m.name = module → b.target module method args = (do
      let found ← m.resolve method
      let bound ← found.signature.bind args
      .ok (found, bound)) := fun m member named => by
    rw [Bridge.target, Bridge.resolve, (finds m).2 ⟨member, named.symm⟩]
  constructor
  · intro gate
    cases gate with
    | noModule absent =>
      cases held : b.modules.lookup module with
      | none =>
        rw [Bridge.target, Bridge.resolve, held]
        rfl
      | some m =>
        obtain ⟨member, named⟩ := (finds m).1 held
        exact absurd named.symm (absent m member)
    | noMethod m member named absent =>
      rw [reaches m member named, Module.resolve, absent, named]
      rfl
    | unfit m found e member named offered unbound =>
      rw [reaches m member named, Module.resolve, offered]
      change (found.signature.bind args >>= _) = _
      rw [unbound]
      rfl
    | passed m found bound member named offered fits =>
      rw [reaches m member named, Module.resolve, offered]
      change (found.signature.bind args >>= _) = _
      rw [fits]
      rfl
  · rintro rfl
    cases held : b.modules.lookup module with
    | none =>
      rw [Bridge.target, Bridge.resolve, held]
      refine .noModule fun m member named => ?_
      rw [(finds m).2 ⟨member, named.symm⟩] at held
      cases held
    | some m =>
      obtain ⟨member, named⟩ := (finds m).1 held
      rw [reaches m member named.symm, Module.resolve]
      cases offered : m.methods.lookup method with
      | none =>
        rw [← named]
        exact .noMethod m member named.symm offered
      | some found =>
        change Gate _ _ _ _ (found.signature.bind args >>= _)
        cases bound : found.signature.bind args with
        | error e => exact .unfit m found e member named.symm offered bound
        | ok given => exact .passed m found given member named.symm offered bound

theorem Param.bind_error_shape (p : Param) (position : Nat) (v : Option Value) (e : BridgeError)
    (failed : p.bind position v = .error e) : e.isShapeError = true := by
  unfold bind at failed
  split at failed
  · split at failed <;> cases failed
    rfl
  · split at failed
    · cases failed
    · split at failed <;> cases failed
      rfl

theorem Signature.bind_error_shape (s : Signature) (args : List Value) (e : BridgeError)
    (failed : s.bind args = .error e) : e.isShapeError = true := by
  unfold bind at failed
  generalize s.params = params, 0 = position at failed
  induction params generalizing position args with
  | nil => cases failed
  | cons p rest ih =>
    rcases bind_error failed with here | ⟨first, _, failed⟩
    · exact p.bind_error_shape position _ e here
    · rcases bind_error failed with later | ⟨_, _, done⟩
      · exact ih _ _ later
      · cases done

theorem gate_error_shape (modules : List (Module α ε)) (module method : String)
    (args : List Value) (e : BridgeError) (gate : Gate modules module method args (.error e)) :
    e.isShapeError = true := by
  cases gate with
  | noModule => rfl
  | noMethod => rfl
  | unfit m found _ _ _ _ unbound => exact found.signature.bind_error_shape args e unbound

structure HandlerCall where
  module : String
  method : String
  args : Arguments

-- The same method, module or bridge, but each handler begins by showing that it was called.
def Method.announcing (announce : HandlerCall → ε) (module : String) (m : Method α ε) :
    Method α ε :=
  { m with handler := fun args =>
      let reaction := m.handler args
      { reaction with acts := announce ⟨module, m.name, args⟩ :: reaction.acts } }

def Module.announcing (announce : HandlerCall → ε) (module : String) (m : Module α ε) :
    Module α ε :=
  { m with methods := m.methods.map fun entry => (entry.1, entry.2.announcing announce module) }

def Bridge.announcing (b : Bridge α ε) (announce : HandlerCall → ε) : Bridge α ε :=
  ⟨b.modules.map fun entry => (entry.1, entry.2.announcing announce entry.1)⟩

namespace Bridge

variable (b : Bridge α ε) (announce : HandlerCall → ε) (module method : String)

theorem resolve_announcing : (b.announcing announce).resolve module method =
    (b.resolve module method).map (Method.announcing announce module) := by
  have modules := KeyMap.lookup_map (fun name m => m.announcing announce name) b.modules module
  simp only [resolve, announcing, modules]
  cases b.modules.lookup module with
  | none => rfl
  | some m =>
    have methods :=
      KeyMap.lookup_map (fun _ found => found.announcing announce module) m.methods method
    simp only [Option.map_some, Module.resolve, Module.announcing, methods]
    cases m.methods.lookup method <;> rfl

theorem target_announcing (args : List Value) : (b.announcing announce).target module method args =
    (b.target module method args).map fun reached =>
      (reached.1.announcing announce module, reached.2) := by
  unfold target
  rw [resolve_announcing]
  cases b.resolve module method with
  | error e => rfl
  | ok found =>
    change (found.signature.bind args >>= _) = Except.map _ (found.signature.bind args >>= _)
    cases found.signature.bind args <;> rfl

structure Stops (b : Bridge α ε) (h : Host α ε) (module method : String) (args : List Value)
    (e : BridgeError) : Prop where
  shape : e.isShapeError = true
  still : b.invoke h module method args = (h, [], some (.error e))
  uncalled : ∀ announce,
    (b.announcing announce).invoke h module method args = (h, [], some (.error e))
  unnoticed : ∀ after, b.run? h (.invoke module method args :: after) = b.run? h after

structure Admits (b : Bridge α ε) (h : Host α ε) (module method : String) (args : List Value)
    (found : Method α ε) (bound : Arguments) : Prop where
  called : ∀ announce, (b.announcing announce).invoke h module method args =
    ((b.invoke h module method args).1,
      .acted .caller none (announce ⟨module, found.name, bound⟩) ::
        (b.invoke h module method args).2.1,
      (b.invoke h module method args).2.2)
  acts : (b.invoke h module method args).2.1.filterMap Note.handlerAct? =
    (found.handler bound).acts
  error : ∀ e, (b.invoke h module method args).2.2 = some (.error e) → e.isShapeError = false ∧
    ((∃ f, e = .handler f) ∨
      ∃ declared returned, e = .returnShapeMismatch found.name declared returned)

variable (b : Bridge α ε) (h : Host α ε) (module method : String) (args : List Value)

theorem stops_of_target (e : BridgeError) (shape : e.isShapeError = true)
    (reached : b.target module method args = .error e) : b.Stops h module method args e := by
  have still : b.invoke h module method args = (h, [], some (.error e)) := by
    rw [invoke, reached]
  refine ⟨shape, still, fun announce => ?_, fun after => ?_⟩
  · rw [invoke, target_announcing, reached]
    rfl
  · simp only [run?, step?, still, Option.bind_eq_bind, Option.bind_some, List.nil_append]
    cases b.run? h after <;> rfl

theorem detached_reply (work : Work α ε) (origin : String) (hook : Option (Hook ε))
    (e : BridgeError) : (h.shapeDetached work origin hook).2.2 ≠ some (.error e) := by
  unfold Host.shapeDetached
  cases (h.submitDetached work origin hook).2.2 <;> simp

theorem shape_error (found : Method α ε) (result : Except Failure (Outcome α ε)) (e : BridgeError)
    (replied : (h.shape module found result).2.2 = some (.error e)) :
    (∃ f, e = .handler f) ∨
      ∃ declared returned, e = .returnShapeMismatch found.name declared returned := by
  unfold Host.shape at replied
  split at replied
  · cases result with
    | error f => exact Or.inl ⟨f, (Except.error.inj (Option.some.inj replied)).symm⟩
    | ok outcome =>
      cases outcome with
      | value v => cases replied
      | pending source => cases replied
      | blocking work => exact absurd replied (detached_reply h work _ none e)
      | detached work hook => exact absurd replied (detached_reply h work _ (some hook) e)
  · cases result with
    | error f => exact Or.inl ⟨f, (Except.error.inj (Option.some.inj replied)).symm⟩
    | ok outcome =>
      cases outcome <;> cases replied <;> exact Or.inr ⟨_, _, rfl⟩
  · cases result with
    | error f => cases replied
    | ok outcome =>
      cases outcome <;> cases replied
      exact Or.inr ⟨_, _, rfl⟩

theorem receive_silent (source : PendingSource) :
    (h.receive source).2.1.filterMap Note.handlerAct? = [] := by
  cases source <;> rfl

theorem shape_silent (found : Method α ε) (result : Except Failure (Outcome α ε)) :
    (h.shape module found result).2.1.filterMap Note.handlerAct? = [] := by
  unfold Host.shape
  split
  · cases result with
    | error f => rfl
    | ok outcome =>
      cases outcome with
      | value v => rfl
      | pending source => exact receive_silent h source
      | blocking work => exact handler_acts_submit h work _
      | detached work hook => exact handler_acts_submit h work _
  · cases result with
    | error f => rfl
    | ok outcome =>
      cases outcome with
      | pending source => exact receive_silent h source
      | _ => rfl
  · cases result with
    | error f => rfl
    | ok outcome =>
      cases outcome with
      | value v => rfl
      | pending source => exact receive_silent h source
      | blocking work => exact handler_acts_submit _ work _
      | detached work hook => rfl

theorem admits_of_target (found : Method α ε) (bound : Arguments)
    (reached : b.target module method args = .ok (found, bound)) :
    b.Admits h module method args found bound := by
  have invoked := b.invoke_reached h module method args found bound _ _ reached rfl
  refine ⟨fun announce => ?_, ?_, fun e replied => ?_⟩
  · have again : (b.announcing announce).target module method args =
        .ok (found.announcing announce module, bound) := by
      rw [target_announcing, reached]
      rfl
    rw [invoked, (b.announcing announce).invoke_reached h module method args _ bound _ _ again rfl]
    rfl
  · rw [invoked, List.filterMap_append, handler_acts_acted, shape_silent, List.append_nil]
  · rw [invoked] at replied
    have grounds := shape_error h module found _ e replied
    refine ⟨?_, grounds⟩
    rcases grounds with ⟨f, rfl⟩ | ⟨declared, returned, rfl⟩ <;> rfl

theorem calls_are_checked_first (config : Config) (processors : Nat) (modules : List (Module α ε))
    (b : Bridge α ε) (start : Host α ε) (built : build config processors modules = .ok (b, start))
    (h : Host α ε) (module method : String) (args : List Value) :
    ∃ verdict, (∀ other, Gate modules module method args other ↔ verdict = other) ∧
      match verdict with
      | .error e => b.Stops h module method args e
      | .ok (found, bound) => b.Admits h module method args found bound := by
  have made := (build_some config processors modules b start built).1
  have gate := gate_iff modules b made module method args
  refine ⟨b.target module method args, gate, ?_⟩
  cases reached : b.target module method args with
  | error e =>
    refine b.stops_of_target h module method args e ?_ reached
    exact gate_error_shape modules module method args e ((gate _).2 reached)
  | ok pair => exact b.admits_of_target h module method args pair.1 pair.2 reached

def greeting : Method Unit String :=
  ⟨"greet", .requiring [.string] .value, fun _ => ⟨["greeted"], .ok .done⟩⟩

def kiosk : Module Unit String := ⟨"kiosk", [("greet", greeting)]⟩

theorem kiosk_checks_calls : ∃ b start, build .standard 1 [kiosk] = .ok (b, start) ∧
    b.Stops start "kiosk" "greet" [] (.missingArgument 0) ∧
    b.Admits start "kiosk" "greet" [.string "Ada"] greeting [.string "Ada"] := by
  refine ⟨⟨[("kiosk", kiosk)]⟩, .start "adbridge-io" 256 2, rfl, ?_, ?_⟩
  · obtain ⟨verdict, gate, stopped⟩ := calls_are_checked_first .standard 1 [kiosk]
      ⟨[("kiosk", kiosk)]⟩ (.start "adbridge-io" 256 2) rfl (.start "adbridge-io" 256 2)
      "kiosk" "greet" []
    obtain rfl := (gate _).1 (.unfit kiosk greeting _ (.head _) rfl rfl rfl)
    exact stopped
  · obtain ⟨verdict, gate, admitted⟩ := calls_are_checked_first .standard 1 [kiosk]
      ⟨[("kiosk", kiosk)]⟩ (.start "adbridge-io" 256 2) rfl (.start "adbridge-io" 256 2)
      "kiosk" "greet" [.string "Ada"]
    obtain rfl := (gate _).1 (.passed kiosk greeting _ (.head _) rfl rfl rfl)
    exact admitted

end Bridge

end HostBridge
