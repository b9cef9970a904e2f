import HostBridge.Ads.Modules
import HostBridge.Proofs.Bridge.Outcomes

set_option autoImplicit false

namespace HostBridge.Ads

open Reaction

def Offered (m : Module Backend Act) : Prop :=
  (∃ format, fullScreenModule format = .ok m) ∨ consentModule = .ok m ∨ coreModule = .ok m ∨
    nativeModule = .ok m

theorem modules_offered (all : List (Module Backend Act)) (made : modules = .ok all) :
    (∀ m, m ∈ all ↔ Offered m) ∧ (∀ format, ∃ m, fullScreenModule format = .ok m) ∧
      (∃ m, consentModule = .ok m) ∧ (∃ m, coreModule = .ok m) ∧ ∃ m, nativeModule = .ok m := by
  obtain ⟨formats, mapped, made⟩ := bind_ok made
  obtain ⟨consent, asking, made⟩ := bind_ok made
  obtain ⟨core, general, made⟩ := bind_ok made
  obtain ⟨native, own, made⟩ := bind_ok made
  cases made
  obtain ⟨onto, only⟩ := mapM_ok fullScreenModule Format.all formats mapped
  have every : ∀ format, ∃ m ∈ formats, fullScreenModule format = .ok m := fun format =>
    onto format (by cases format <;> simp [Format.all])
  refine ⟨fun m => ?_, fun format => ?_, ⟨consent, asking⟩, ⟨core, general⟩, ⟨native, own⟩⟩
  · simp only [List.mem_append, List.mem_cons, List.not_mem_nil, or_false, Offered, asking,
      general, own, Except.ok.injEq]
    refine or_congr ⟨fun member => ?_, ?_⟩ (or_congr eq_comm (or_congr eq_comm eq_comm))
    · obtain ⟨format, _, same⟩ := only m member
      exact ⟨format, same⟩
    · rintro ⟨format, same⟩
      obtain ⟨other, member, also⟩ := every format
      rw [same] at also
      cases also
      exact member
  · obtain ⟨m, _, same⟩ := every format
    exact ⟨m, same⟩

section Built

variable {config : Config} {processors : Nat} {b : Bridge Backend Act}
  {start : Host Backend Act} (built : build config processors = .ok (b, start))

include built

theorem build_put : ∃ all, modules = .ok all ∧ Bridge.ofModules all = .ok b ∧
    start = .start config.pool.threadName config.pool.queueCapacity
      (config.pool.workerCount processors) := by
  unfold build at built
  generalize modules = listed at built ⊢
  cases listed with
  | error e => cases built
  | ok all => exact ⟨all, rfl, Bridge.build_some config processors all b start built⟩

theorem resolves_offered (module method : String) (found : Method Backend Act) :
    b.resolve module method = .ok found ↔
      ∃ m, Offered m ∧ m.name = module ∧ m.resolve method = .ok found := by
  obtain ⟨all, made, put, _⟩ := build_put built
  rw [Bridge.resolves all b put]
  refine exists_congr fun m => and_congr_left fun _ => ?_
  exact (modules_offered all made).1 m

theorem all_offered : (∀ format, ∃ m, fullScreenModule format = .ok m) ∧
    (∃ m, consentModule = .ok m) ∧ (∃ m, coreModule = .ok m) ∧ ∃ m, nativeModule = .ok m := by
  obtain ⟨all, made, _⟩ := build_put built
  exact (modules_offered all made).2

theorem method_resolves (module : String) (methods : List (Method Backend Act))
    (m : Module Backend Act) (made : Module.build module methods = .ok m) (offered : Offered m)
    (found : Method Backend Act) (member : found ∈ methods) :
    b.resolve module found.name = .ok found := by
  obtain ⟨named, finds⟩ := Module.build_finds module methods m made
  exact (resolves_offered built module found.name found).2
    ⟨m, offered, named, (finds found.name found).2 ⟨member, rfl⟩⟩

end Built

def Calm (handler : Handler Backend Act) : Prop :=
  ∀ args work hook, (handler args).result = .ok (.detached work hook) →
    ∀ site f, hook.breaksOff site f = false

theorem reading_result {β : Type} (read : Except Failure β) (after : β → Reaction Backend Act)
    (outcome : Outcome Backend Act) (done : (reading read after).result = .ok outcome) :
    ∃ x, read = .ok x ∧ (after x).result = .ok outcome := by
  cases read with
  | error f => cases done
  | ok x => exact ⟨x, rfl, done⟩

theorem load_calm (format : Format) : Calm (loadHandler format) := by
  intro args work hook done
  obtain ⟨requestId, _, done⟩ := reading_result _ _ _ done
  obtain ⟨adUnitId, _, done⟩ := reading_result _ _ _ done
  split at done
  · cases done
  · cases done
    intro site f
    rfl

theorem show_calm (format : Format) : Calm (showHandler format) := by
  intro args work hook done
  obtain ⟨requestId, _, done⟩ := reading_result _ _ _ done
  obtain ⟨adUnitId, _, done⟩ := reading_result _ _ _ done
  obtain ⟨options, _, done⟩ := reading_result _ _ _ done
  cases done

theorem quiet_calm (result : Except Failure (Outcome Backend Act))
    (undetached : ∀ work hook, result ≠ .ok (.detached work hook)) : Calm fun _ => quiet result :=
  fun _ work hook done => absurd done (undetached work hook)

theorem reading_calm {β : Type} (read : Arguments → Except Failure β)
    (after : β → Reaction Backend Act)
    (undetached : ∀ x work hook, (after x).result ≠ .ok (.detached work hook)) :
    Calm fun args => reading (read args) after := by
  intro args work hook done
  obtain ⟨x, _, done⟩ := reading_result _ _ _ done
  exact absurd done (undetached x work hook)

theorem load_native_calm : Calm loadNativeHandler := by
  intro args work hook done
  obtain ⟨adUnitId, _, done⟩ := reading_result _ _ _ done
  obtain ⟨options, _, done⟩ := reading_result _ _ _ done
  cases done

theorem app_volume_calm : Calm setAppVolumeHandler := by
  refine reading_calm _ _ fun volume work hook done => ?_
  split at done <;> cases done

theorem asked_calm (name : String) (call : Call) (space : String) (encode : call.Reply → Value) :
    Calm (asked name (promised call space encode)).handler :=
  quiet_calm _ fun work hook done => by cases done

theorem method_calm (m : Module Backend Act) (offered : Offered m) (key : String)
    (found : Method Backend Act) (resolved : m.resolve key = .ok found) : Calm found.handler := by
  rcases offered with ⟨format, made⟩ | made | made | made <;>
    have member := (((Module.build_finds _ _ m made).2 key found).1 resolved).1 <;>
    simp only [List.mem_cons, List.not_mem_nil, or_false] at member
  · rcases member with rfl | rfl
    · exact load_calm format
    · exact show_calm format
  · rcases member with rfl | rfl | rfl | rfl | rfl | rfl | rfl | rfl | rfl | rfl
    · exact reading_calm _ _ fun options work hook done => by cases done
    iterate 8 exact asked_calm _ _ _ _
    · exact fun args work hook done => by cases done
  · rcases member with rfl | rfl | rfl | rfl | rfl | rfl | rfl
    · exact quiet_calm _ fun work hook done => by cases done
    · exact asked_calm _ _ _ _
    · exact reading_calm _ _ fun config work hook done => by cases done
    · exact asked_calm _ _ _ _
    · exact reading_calm _ _ fun adUnitId work hook done => by cases done
    · exact app_volume_calm
    · exact reading_calm _ _ fun muted work hook done => by cases done
  · rcases member with rfl | rfl
    · exact load_native_calm
    · exact reading_calm _ _ fun responseId work hook done => by cases done

theorem bridge_harmless {config : Config} {processors : Nat} {b : Bridge Backend Act}
    {start : Host Backend Act} (built : build config processors = .ok (b, start)) :
    b.Harmless := by
  intro module method found resolved args work hook detached
  obtain ⟨m, offered, _, found_in⟩ := (resolves_offered built module method found).1 resolved
  exact method_calm m offered method found found_in args work hook detached

def sampleAds : Bridge Backend Act × Host Backend Act :=
  match build .standard 1 with
  | .ok made => made
  | .error _ => (⟨[]⟩, .start "" 0 0)

theorem sample_built : build .standard 1 = .ok (sampleAds.1, sampleAds.2) := rfl

theorem valid_config_builds (config : Config) (processors : Nat) (valid : config.fault? = none) :
    ∃ made, build config processors = .ok made := by
  obtain ⟨all, made, put, _⟩ := build_put sample_built
  generalize sampleAds.1 = b at put
  simp [build, made, Bridge.build, valid, put]

def sulking : Backend := fun _ => .refused ⟨"no-fill", "no ad to show"⟩

def servedCall (module method : String) (args : List Value) (backend : Backend)
    (closes : (sampleAds.1.run? (sampleAds.1.invoke sampleAds.2 module method args).1
      [.pickUp 0, .finish 0 backend, .close, .join]).isSome = true) :
    Invocation sampleAds.1 sampleAds.2 where
  before := []
  host := sampleAds.2
  earlier := []
  reached := rfl
  module := module
  method := method
  args := args
  after := [.pickUp 0, .finish 0 backend, .close, .join]
  last := (Option.get _ closes).1
  later := (Option.get _ closes).2
  ran := (Option.some_get closes).symm

end HostBridge.Ads
