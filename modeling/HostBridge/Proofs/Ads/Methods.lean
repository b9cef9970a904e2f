import HostBridge.Proofs.Ads.Loading
import HostBridge.Proofs.Ads.Promises
import HostBridge.Proofs.Bridge.Shaping

set_option autoImplicit false

namespace HostBridge.Ads

open Reaction

inductive Setter where
  | openDebugMenu
  | setAppVolume
  | setAppMuted
  | resetConsent
  | destroyNative

namespace Setter

def module : Setter → String
  | openDebugMenu | setAppVolume | setAppMuted => coreModuleName
  | resetConsent => consentModuleName
  | destroyNative => nativeModuleName

def name : Setter → String
  | openDebugMenu => "openDebugMenu"
  | setAppVolume => "setAppVolume"
  | setAppMuted => "setAppMuted"
  | resetConsent => "reset"
  | destroyNative => "destroy"

def signature : Setter → Signature
  | openDebugMenu | destroyNative => .requiring [.string] .void
  | setAppVolume => .requiring [.number] .void
  | setAppMuted => .requiring [.boolean] .void
  | resetConsent => .requiring [] .void

def handler : Setter → Handler Backend Act
  | openDebugMenu => fun args =>
    reading (args.string 0) fun adUnitId => setting (.openDebugMenu adUnitId)
  | setAppVolume => setAppVolumeHandler
  | setAppMuted => fun args => reading (args.boolean 0) fun muted => setting (.setAppMuted muted)
  | resetConsent => fun _ => setting .resetConsent
  | destroyNative => fun args =>
    reading (args.string 0) fun responseId => setting (.destroyNative responseId)

def order? : Setter → List Value → Option Call
  | openDebugMenu, .string adUnitId :: _ => some (.openDebugMenu adUnitId)
  | setAppVolume, .number volume :: _ => some (.setAppVolume volume)
  | setAppMuted, .bool muted :: _ => some (.setAppMuted muted)
  | resetConsent, _ => some .resetConsent
  | destroyNative, .string responseId :: _ => some (.destroyNative responseId)
  | _, _ => none

def fault? : Setter → List Value → Option Failure
  | setAppVolume, .number volume :: _ =>
    if volume.inUnitInterval then none else some (invalidVolume volume)
  | _, _ => none

end Setter

theorem one_binds (type : ParamType) (args : List Value) (bound : Arguments)
    (fits : (Signature.requiring [type] .void).bind args = .ok bound) :
    ∃ given rest a, args = given :: rest ∧ type.accept given = some a ∧ bound = [a] := by
  obtain ⟨a, _, first, none, rfl⟩ := Signature.bindParams_cons _ _ _ _ _ fits
  obtain ⟨given, isFirst, accepted⟩ := Param.bind_required _ _ _ _ first
  obtain ⟨rest, rfl⟩ := List.head?_eq_some_iff.1 isFirst
  cases none
  exact ⟨given, rest, a, rfl, accepted, rfl⟩

theorem setter_handled (s : Setter) (args : List Value) (bound : Arguments)
    (fits : s.signature.bind args = .ok bound) :
    ∃ call, s.order? args = some call ∧ s.handler bound =
      match s.fault? args with
      | some f => quiet (.error f)
      | none => setting call := by
  cases s with
  | resetConsent => exact ⟨_, rfl, rfl⟩
  | openDebugMenu | destroyNative | setAppMuted =>
    obtain ⟨given, rest, a, rfl, accepted, rfl⟩ := one_binds _ args bound fits
    cases given <;> cases accepted
    exact ⟨_, rfl, rfl⟩
  | setAppVolume =>
    obtain ⟨given, rest, a, rfl, accepted, rfl⟩ := one_binds _ args bound fits
    cases given with
    | number volume =>
      cases accepted
      refine ⟨_, rfl, ?_⟩
      change (if volume.inUnitInterval then _ else _) = _
      rw [Setter.fault?]
      cases volume.inUnitInterval <;> rfl
    | _ => cases accepted

theorem fault_iff (s : Setter) (args : List Value) (f : Failure) :
    s.fault? args = some f ↔ s = .setAppVolume ∧ ∃ volume, args.head? = some (.number volume) ∧
      volume.inUnitInterval = false ∧ f = invalidVolume volume := by
  unfold Setter.fault?
  split
  · next volume rest =>
    constructor
    · intro same
      split at same <;> cases same
      next outside => exact ⟨rfl, volume, rfl, Bool.eq_false_iff.2 outside, rfl⟩
    · rintro ⟨_, given, first, outside, rfl⟩
      cases first
      rw [outside]
      rfl
  · next other =>
    constructor
    · intro same
      cases same
    · rintro ⟨rfl, volume, first, _⟩
      obtain ⟨rest, rfl⟩ := List.head?_eq_some_iff.1 first
      exact absurd rfl (other volume rest rfl)

inductive AdMethod where
  | load (format : Format)
  | promise (p : PromiseMethod)
  | setter (s : Setter)
  | constants

namespace AdMethod

def module : AdMethod → String
  | load format => format.moduleName
  | promise p => p.module
  | setter s => s.module
  | constants => coreModuleName

def method : AdMethod → Method Backend Act
  | load format => ⟨s!"{format.stem}Load", loadSignature, loadHandler format⟩
  | promise p => ⟨p.name, p.signature, p.handler⟩
  | setter s => ⟨s.name, s.signature, s.handler⟩
  | constants =>
    ⟨"getConstants", .requiring [] .value, fun _ => quiet (.ok (.value Ads.constants))⟩

end AdMethod

theorem method_listed (m : Module Backend Act) (offered : Offered m) (key : String)
    (found : Method Backend Act) (resolved : m.resolve key = .ok found) :
    ∃ method : AdMethod, method.module = m.name ∧ method.method = found ∧ found.name = key := by
  rcases offered with ⟨format, made⟩ | made | made | made <;>
    obtain ⟨named, finds⟩ := Module.build_finds _ _ m made <;>
    obtain ⟨member, rfl⟩ := (finds key found).1 resolved <;>
    rw [named] <;>
    simp only [List.mem_cons, List.not_mem_nil, or_false] at member
  · rcases member with rfl | rfl
    · exact ⟨.load format, rfl, rfl, rfl⟩
    · exact ⟨.promise (.present format), rfl, rfl, rfl⟩
  · rcases member with rfl | rfl | rfl | rfl | rfl | rfl | rfl | rfl | rfl | rfl
    · exact ⟨.promise .requestInfoUpdate, rfl, rfl, rfl⟩
    · exact ⟨.promise .showForm, rfl, rfl, rfl⟩
    · exact ⟨.promise .showPrivacyOptionsForm, rfl, rfl, rfl⟩
    · exact ⟨.promise .loadAndShowConsentFormIfRequired, rfl, rfl, rfl⟩
    · exact ⟨.promise .getConsentInfo, rfl, rfl, rfl⟩
    · exact ⟨.promise .getTCString, rfl, rfl, rfl⟩
    · exact ⟨.promise .getGdprApplies, rfl, rfl, rfl⟩
    · exact ⟨.promise .getPurposeConsents, rfl, rfl, rfl⟩
    · exact ⟨.promise .getPurposeLegitimateInterests, rfl, rfl, rfl⟩
    · exact ⟨.setter .resetConsent, rfl, rfl, rfl⟩
  · rcases member with rfl | rfl | rfl | rfl | rfl | rfl | rfl
    · exact ⟨.constants, rfl, rfl, rfl⟩
    · exact ⟨.promise .startUp, rfl, rfl, rfl⟩
    · exact ⟨.promise .setRequestConfiguration, rfl, rfl, rfl⟩
    · exact ⟨.promise .openAdInspector, rfl, rfl, rfl⟩
    · exact ⟨.setter .openDebugMenu, rfl, rfl, rfl⟩
    · exact ⟨.setter .setAppVolume, rfl, rfl, rfl⟩
    · exact ⟨.setter .setAppMuted, rfl, rfl, rfl⟩
  · rcases member with rfl | rfl
    · exact ⟨.promise .loadNative, rfl, rfl, rfl⟩
    · exact ⟨.setter .destroyNative, rfl, rfl, rfl⟩

section Built

variable {config : Config} {processors : Nat} {b : Bridge Backend Act}
  {start : Host Backend Act} (built : build config processors = .ok (b, start))

include built

theorem setter_resolves (s : Setter) :
    b.resolve s.module s.name = .ok ⟨s.name, s.signature, s.handler⟩ := by
  obtain ⟨_, ⟨consent, asks⟩, ⟨core, general⟩, native, own⟩ := all_offered built
  have inCore := fun (i : Nat) found placed => method_resolves built coreModuleName _ core
    general (Or.inr (Or.inr (Or.inl general))) found (List.mem_of_getElem? (i := i) placed)
  cases s with
  | openDebugMenu => exact inCore 4 _ rfl
  | setAppVolume => exact inCore 5 _ rfl
  | setAppMuted => exact inCore 6 _ rfl
  | resetConsent =>
    exact method_resolves built consentModuleName _ consent asks (Or.inr (Or.inl asks)) _
      (List.mem_of_getElem? (i := 9) rfl)
  | destroyNative =>
    exact method_resolves built nativeModuleName _ native own (Or.inr (Or.inr (Or.inr own))) _
      (.tail _ (.head _))

theorem setter_invoked (s : Setter) (h : Host Backend Act) (args : List Value)
    (bound : Arguments) (fits : s.signature.bind args = .ok bound) :
    ∃ call, s.order? args = some call ∧ b.invoke h s.module s.name args =
      match s.fault? args with
      | some f => (h, [], some (.error (.handler f)))
      | none => (h, [.acted .caller none (.called call)], some (.ok .void)) := by
  obtain ⟨call, ordered, handled⟩ := setter_handled s args bound fits
  have reached := Bridge.target_of_resolve b _ _ args _ bound (setter_resolves built s) fits
  have void : s.signature.returns = .void := by cases s <;> rfl
  refine ⟨call, ordered, ?_⟩
  cases fault : s.fault? args with
  | some f =>
    rw [fault] at handled
    rw [b.invoke_reached h _ _ args _ bound _ _ reached handled, Host.shape, void]
    rfl
  | none =>
    rw [fault] at handled
    rw [b.invoke_reached h _ _ args _ bound _ _ reached handled, Host.shape, void]
    rfl

theorem constants_invoked (h : Host Backend Act) (args : List Value) :
    b.invoke h coreModuleName "getConstants" args = (h, [], some (.ok (.value constants))) := by
  obtain ⟨_, _, ⟨core, general⟩, _⟩ := all_offered built
  have resolved := method_resolves built coreModuleName _ core general
    (Or.inr (Or.inr (Or.inl general))) _ (.head _)
  have reached := Bridge.target_of_resolve b _ _ args _ [] resolved rfl
  rw [b.invoke_reached h _ _ args _ [] _ _ reached rfl]
  rfl

theorem called_method (module name : String) (args : List Value) (found : Method Backend Act)
    (bound : Arguments) (reached : b.target module name args = .ok (found, bound)) :
    ∃ method : AdMethod, module = method.module ∧ name = method.method.name ∧
      found = method.method ∧ method.method.signature.bind args = .ok bound := by
  obtain ⟨resolved, fits⟩ := b.resolve_of_target _ _ _ _ _ reached
  obtain ⟨m, offered, rfl, held⟩ := (resolves_offered built module name found).1 resolved
  obtain ⟨method, placed, rfl, rfl⟩ := method_listed m offered name found held
  exact ⟨method, placed.symm, rfl, rfl, fits⟩

end Built

end HostBridge.Ads
