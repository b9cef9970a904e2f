import HostBridge.Proofs.Ads.Catalogue
import HostBridge.Proofs.Ads.Reading
import HostBridge.Proofs.Bridge.Outcomes

set_option autoImplicit false

namespace HostBridge.Ads

open Reaction

inductive PromiseMethod where
  | present (format : Format)
  | startUp
  | setRequestConfiguration
  | openAdInspector
  | requestInfoUpdate
  | showForm
  | showPrivacyOptionsForm
  | loadAndShowConsentFormIfRequired
  | getConsentInfo
  | getTCString
  | getGdprApplies
  | getPurposeConsents
  | getPurposeLegitimateInterests
  | loadNative

structure Inquiry where
  call : Call
  encode : call.Reply → Value

namespace Inquiry

def unit (call : Call) : Inquiry := ⟨call, fun _ => .undefined⟩

def text (key : String) : Inquiry where
  call := .tcfValue key
  encode
    | some (.string s) => .string s
    | some (.int i) => .string (toString i)
    | none => .string ""

def gdprApplies : Inquiry where
  call := .tcfValue "IABTCF_gdprApplies"
  encode := fun stored : Option TcfValue =>
    .bool (decide (stored = some (.int 1) ∨ stored = some (.string "1")))

def outcome (inquiry : Inquiry) (space : String) (backend : Backend) : Settlement :=
  match backend inquiry.call with
  | .given x => .ok (inquiry.encode x)
  | .refused e => .error ⟨s!"{space}/{e.code}", e.message⟩
  | .brokeOff breakage => .error ⟨"bridge/panic", breakage.message⟩

end Inquiry

def showRequest (format : Format) (x : Binary64) (adUnitId : String) (options : Argument) :
    Except Failure Inquiry := do
  let requestId ← requestIdOf x
  let options ← decoded ShowOptions 2 options
  .ok (.unit (.present format requestId adUnitId options))

def configurationRequest (options : Argument) : Except Failure Inquiry := do
  let config ← decoded RequestConfiguration 0 options
  .ok (.unit (.setRequestConfiguration config))

def infoUpdateRequest (options : Argument) : Except Failure Inquiry := do
  let options ← decoded ConsentRequestOptions 0 options
  .ok ⟨.requestInfoUpdate options, fun info : ConsentInfo => Decodable.toValue info⟩

def loadNativeRequest (adUnitId : String) (options : Argument) : Except Failure Inquiry := do
  let options ← decoded NativeAdRequestOptions 1 options
  .ok ⟨.loadNative adUnitId options, fun ad : NativeAd => Decodable.toValue ad⟩

namespace PromiseMethod

def module : PromiseMethod → String
  | present format => format.moduleName
  | startUp | setRequestConfiguration | openAdInspector => coreModuleName
  | loadNative => nativeModuleName
  | _ => consentModuleName

def name : PromiseMethod → String
  | present format => s!"{format.stem}Show"
  | startUp => "initialize"
  | setRequestConfiguration => "setRequestConfiguration"
  | openAdInspector => "openAdInspector"
  | requestInfoUpdate => "requestInfoUpdate"
  | showForm => "showForm"
  | showPrivacyOptionsForm => "showPrivacyOptionsForm"
  | loadAndShowConsentFormIfRequired => "loadAndShowConsentFormIfRequired"
  | getConsentInfo => "getConsentInfo"
  | getTCString => "getTCString"
  | getGdprApplies => "getGdprApplies"
  | getPurposeConsents => "getPurposeConsents"
  | getPurposeLegitimateInterests => "getPurposeLegitimateInterests"
  | loadNative => "load"

def signature : PromiseMethod → Signature
  | present _ => showSignature
  | setRequestConfiguration | requestInfoUpdate =>
    (Signature.requiring [] .promise).withOptional .object
  | loadNative => .requiring [.string, .object] .promise
  | _ => .requiring [] .promise

def space : PromiseMethod → String
  | present _ | startUp | setRequestConfiguration | openAdInspector | loadNative =>
    "googleMobileAds"
  | _ => "consent"

def request : PromiseMethod → Arguments → Except Failure Inquiry
  | present format, [.number x, .string adUnitId, options] =>
    showRequest format x adUnitId options
  | setRequestConfiguration, [options] => configurationRequest options
  | requestInfoUpdate, [options] => infoUpdateRequest options
  | loadNative, [.string adUnitId, options] => loadNativeRequest adUnitId options
  | startUp, [] => .ok ⟨.start, fun statuses : List AdapterStatus =>
      .array (statuses.map Decodable.toValue)⟩
  | openAdInspector, [] => .ok (.unit .openAdInspector)
  | showForm, [] => .ok ⟨.showForm, fun info : ConsentInfo => Decodable.toValue info⟩
  | showPrivacyOptionsForm, [] =>
    .ok ⟨.showPrivacyOptionsForm, fun info : ConsentInfo => Decodable.toValue info⟩
  | loadAndShowConsentFormIfRequired, [] =>
    .ok ⟨.loadAndShowConsentFormIfRequired, fun info : ConsentInfo => Decodable.toValue info⟩
  | getConsentInfo, [] => .ok ⟨.consentInfo, fun info : ConsentInfo => Decodable.toValue info⟩
  | getTCString, [] => .ok (.text "IABTCF_TCString")
  | getGdprApplies, [] => .ok .gdprApplies
  | getPurposeConsents, [] => .ok (.text "IABTCF_PurposeConsents")
  | getPurposeLegitimateInterests, [] => .ok (.text "IABTCF_PurposeLegitimateInterests")
  | _, args => .error (args.mismatch 0 "bound")

def handler : PromiseMethod → Handler Backend Act
  | present format => showHandler format
  | startUp => fun _ => quiet (.ok (promised .start adsSpace adaptersValue))
  | setRequestConfiguration => setRequestConfigurationHandler
  | openAdInspector => fun _ => quiet (.ok (promised .openAdInspector adsSpace fun _ => .undefined))
  | requestInfoUpdate => requestInfoUpdateHandler
  | showForm => fun _ => quiet (.ok (promised .showForm consentSpace consentValue))
  | showPrivacyOptionsForm => fun _ =>
    quiet (.ok (promised .showPrivacyOptionsForm consentSpace consentValue))
  | loadAndShowConsentFormIfRequired => fun _ =>
    quiet (.ok (promised .loadAndShowConsentFormIfRequired consentSpace consentValue))
  | getConsentInfo => fun _ => quiet (.ok (promised .consentInfo consentSpace consentValue))
  | getTCString => (storedTextMethod "getTCString" "IABTCF_TCString").handler
  | getGdprApplies => fun _ => quiet (.ok (promised (.tcfValue "IABTCF_gdprApplies") consentSpace
      fun stored => .bool (saysYes stored)))
  | getPurposeConsents => (storedTextMethod "getPurposeConsents" "IABTCF_PurposeConsents").handler
  | getPurposeLegitimateInterests =>
    (storedTextMethod "getPurposeLegitimateInterests" "IABTCF_PurposeLegitimateInterests").handler
  | loadNative => loadNativeHandler

end PromiseMethod

theorem says_yes_iff (stored : Option TcfValue) :
    saysYes stored = decide (stored = some (.int 1) ∨ stored = some (.string "1")) := by
  cases stored with
  | none => rfl
  | some value =>
    cases value <;> simp only [saysYes, Option.some.injEq, reduceCtorEq, or_false, false_or,
      TcfValue.int.injEq, TcfValue.string.injEq] <;> rfl

theorem nothing_binds (returns : Returns) (args : List Value) (bound : Arguments)
    (fits : (Signature.requiring [] returns).bind args = .ok bound) : bound = [] := by
  cases fits
  rfl

theorem show_handled (format : Format) (x : Binary64) (adUnitId : String) (options : Argument)
    (fits : IsOptions options) :
    showHandler format [.number x, .string adUnitId, options] =
      quiet ((showRequest format x adUnitId options).map fun inquiry =>
        promised inquiry.call adsSpace inquiry.encode) := by
  unfold showHandler showRequest
  rw [request_id_read, string_read _ 1 adUnitId rfl,
    options_read ShowOptions _ 2 options rfl fits]
  cases requestIdOf x with
  | error f => rfl
  | ok requestId =>
    simp only [reading]
    cases decoded ShowOptions 2 options <;> rfl

theorem configuration_handled (options : Argument) (fits : IsOptions options) :
    setRequestConfigurationHandler [options] =
      quiet ((configurationRequest options).map fun inquiry =>
        promised inquiry.call adsSpace inquiry.encode) := by
  unfold setRequestConfigurationHandler configurationRequest
  rw [options_read RequestConfiguration _ 0 options rfl fits]
  cases decoded RequestConfiguration 0 options <;> rfl

theorem info_update_handled (options : Argument) (fits : IsOptions options) :
    requestInfoUpdateHandler [options] =
      quiet ((infoUpdateRequest options).map fun inquiry =>
        promised inquiry.call consentSpace inquiry.encode) := by
  unfold requestInfoUpdateHandler infoUpdateRequest
  rw [options_read ConsentRequestOptions _ 0 options rfl fits]
  cases decoded ConsentRequestOptions 0 options <;> rfl

theorem load_native_handled (adUnitId : String) (fields : KeyMap Value) :
    loadNativeHandler [.string adUnitId, .object fields] =
      quiet ((loadNativeRequest adUnitId (.object fields)).map fun inquiry =>
        promised inquiry.call adsSpace inquiry.encode) := by
  unfold loadNativeHandler loadNativeRequest
  rw [string_read _ 0 adUnitId rfl,
    options_read NativeAdRequestOptions _ 1 (.object fields) rfl (Or.inr ⟨fields, rfl⟩)]
  simp only [reading]
  cases decoded NativeAdRequestOptions 1 (.object fields) <;> rfl

theorem stored_text_handled (name key : String) (bound : Arguments) :
    (storedTextMethod name key).handler bound =
      quiet (.ok (promised (Inquiry.text key).call consentSpace (Inquiry.text key).encode)) := by
  have same : (fun stored => Value.string (storedText stored)) = (Inquiry.text key).encode := by
    funext stored
    cases stored with
    | none => rfl
    | some value => cases value <;> rfl
  rw [← same]
  rfl

theorem gdpr_handled :
    promised (.tcfValue "IABTCF_gdprApplies") consentSpace (fun stored => .bool (saysYes stored)) =
      promised Inquiry.gdprApplies.call consentSpace Inquiry.gdprApplies.encode := by
  have same : (fun stored => Value.bool (saysYes stored)) = Inquiry.gdprApplies.encode := by
    funext stored
    rw [says_yes_iff]
    rfl
  rw [← same]
  rfl

theorem promise_handled (p : PromiseMethod) (args : List Value) (bound : Arguments)
    (fits : p.signature.bind args = .ok bound) :
    p.handler bound = quiet ((p.request bound).map fun inquiry =>
      promised inquiry.call p.space inquiry.encode) := by
  cases p with
  | present format =>
    obtain ⟨x, adUnitId, options, rfl, readable⟩ := show_binds args bound fits
    exact show_handled format x adUnitId options readable
  | setRequestConfiguration =>
    obtain ⟨options, rfl, readable⟩ := options_bind args bound fits
    exact configuration_handled options readable
  | requestInfoUpdate =>
    obtain ⟨options, rfl, readable⟩ := options_bind args bound fits
    exact info_update_handled options readable
  | loadNative =>
    obtain ⟨adUnitId, fields, rfl⟩ := native_binds args bound fits
    exact load_native_handled adUnitId fields
  | getTCString | getPurposeConsents | getPurposeLegitimateInterests =>
    obtain rfl := nothing_binds _ args bound fits
    exact stored_text_handled _ _ []
  | getGdprApplies =>
    obtain rfl := nothing_binds _ args bound fits
    rw [PromiseMethod.handler, gdpr_handled]
    rfl
  | startUp | openAdInspector | showForm | showPrivacyOptionsForm
  | loadAndShowConsentFormIfRequired | getConsentInfo =>
    obtain rfl := nothing_binds _ args bound fits
    rfl

def Inquiry.work (inquiry : Inquiry) (space : String) : Work Backend Act :=
  asking inquiry.call fun
    | .ok x => ([], .ok (inquiry.encode x))
    | .error e => ([], .error (e.failure space))

theorem inquiry_shows_call (inquiry : Inquiry) (space thread : String) (backend : Backend) :
    (inquiry.work space).opening ++ ((inquiry.work space).closing thread backend).1 =
      [.called inquiry.call] := by
  simp only [Inquiry.work, asking]
  cases backend inquiry.call <;> rfl

theorem inquiry_ends (inquiry : Inquiry) (space thread : String) (backend : Backend) :
    ((inquiry.work space).closing thread backend).2.outcome = inquiry.outcome space backend := by
  simp only [Inquiry.work, asking, Inquiry.outcome]
  cases backend inquiry.call <;> rfl

theorem show_request_error (format : Format) (x : Binary64) (adUnitId : String)
    (options : Argument) (f : Failure)
    (failed : showRequest format x adUnitId options = .error f) :
    f.code = "bridge/argument" ∨ f.code = "googleMobileAds/invalid-options" := by
  unfold showRequest at failed
  cases truncated : requestIdOf x with
  | error g =>
    rw [truncated] at failed
    cases failed
    exact Or.inl (request_id_error x f truncated)
  | ok requestId =>
    cases read : decoded ShowOptions 2 options with
    | error g =>
      rw [truncated, read] at failed
      cases failed
      exact Or.inr (decoded_error _ _ _ f read)
    | ok options =>
      rw [truncated, read] at failed
      cases failed

theorem options_request_error {T : Type} [Decodable T] (index : Nat) (options : Argument)
    (after : T → Inquiry) (f : Failure)
    (failed : (do let x ← decoded T index options; .ok (after x)) = Except.error f) :
    f.code = "googleMobileAds/invalid-options" := by
  cases read : decoded T index options with
  | error g =>
    rw [read] at failed
    cases failed
    exact decoded_error _ _ _ f read
  | ok x =>
    rw [read] at failed
    cases failed

theorem request_error (p : PromiseMethod) (args : List Value) (bound : Arguments)
    (fits : p.signature.bind args = .ok bound) (f : Failure) (failed : p.request bound = .error f) :
    f.code = "bridge/argument" ∨ f.code = "googleMobileAds/invalid-options" := by
  cases p with
  | present format =>
    obtain ⟨x, adUnitId, options, rfl, _⟩ := show_binds args bound fits
    exact show_request_error format x adUnitId options f failed
  | setRequestConfiguration =>
    obtain ⟨options, rfl, _⟩ := options_bind args bound fits
    exact Or.inr (options_request_error 0 options _ f failed)
  | requestInfoUpdate =>
    obtain ⟨options, rfl, _⟩ := options_bind args bound fits
    exact Or.inr (options_request_error 0 options _ f failed)
  | loadNative =>
    obtain ⟨adUnitId, fields, rfl⟩ := native_binds args bound fits
    exact Or.inr (options_request_error 1 (.object fields) _ f failed)
  | _ =>
    obtain rfl := nothing_binds _ args bound fits
    cases failed

section Built

variable {config : Config} {processors : Nat} {b : Bridge Backend Act}
  {start : Host Backend Act} (built : build config processors = .ok (b, start))

include built

theorem promise_resolves (p : PromiseMethod) :
    b.resolve p.module p.name = .ok ⟨p.name, p.signature, p.handler⟩ := by
  obtain ⟨full, ⟨consent, asks⟩, ⟨core, general⟩, native, own⟩ := all_offered built
  have inConsent := fun (i : Nat) found placed => method_resolves built consentModuleName _
    consent asks (Or.inr (Or.inl asks)) found (List.mem_of_getElem? (i := i) placed)
  have inCore := fun (i : Nat) found placed => method_resolves built coreModuleName _ core
    general (Or.inr (Or.inr (Or.inl general))) found (List.mem_of_getElem? (i := i) placed)
  cases p with
  | present format =>
    obtain ⟨m, made⟩ := full format
    exact method_resolves built format.moduleName _ m made (Or.inl ⟨format, made⟩) _
      (.tail _ (.head _))
  | loadNative =>
    exact method_resolves built nativeModuleName _ native own (Or.inr (Or.inr (Or.inr own))) _
      (.head _)
  | startUp => exact inCore 1 _ rfl
  | setRequestConfiguration => exact inCore 2 _ rfl
  | openAdInspector => exact inCore 3 _ rfl
  | requestInfoUpdate => exact inConsent 0 _ rfl
  | showForm => exact inConsent 1 _ rfl
  | showPrivacyOptionsForm => exact inConsent 2 _ rfl
  | loadAndShowConsentFormIfRequired => exact inConsent 3 _ rfl
  | getConsentInfo => exact inConsent 4 _ rfl
  | getTCString => exact inConsent 5 _ rfl
  | getGdprApplies => exact inConsent 6 _ rfl
  | getPurposeConsents => exact inConsent 7 _ rfl
  | getPurposeLegitimateInterests => exact inConsent 8 _ rfl

theorem promise_answers_once (c : Invocation b start) (p : PromiseMethod)
    (module : c.module = p.module) (method : c.method = p.name) (found : Method Backend Act)
    (bound : Arguments) (reached : b.target c.module c.method c.args = .ok (found, bound))
    (closed : c.last.pool.phase = .closed) :
    ∃ id, c.reply = some (.ok (.pending id)) ∧
      match p.request bound, c.host.pool.refusal? with
      | .error f, _ =>
        (f.code = "bridge/argument" ∨ f.code = "googleMobileAds/invalid-options") ∧
          c.effects = [] ∧ c.Settles id (.error f)
      | .ok _, some f =>
        (f = .queueFull ∨ f = .poolClosed) ∧ c.effects = [] ∧ c.Settles id (.error f)
      | .ok inquiry, none => ∃ worker backend,
          Answered b.step? .finish c.next c.after c.host.pool.submitted worker backend ∧
            c.effects = [.called inquiry.call] ∧
              c.Settles id (inquiry.outcome p.space backend) := by
  obtain ⟨all, _, _, rfl⟩ := build_put built
  have harmless := bridge_harmless built
  obtain ⟨resolved, fits⟩ := b.resolve_of_target _ _ _ found bound reached
  rw [module, method, promise_resolves built p] at resolved
  cases resolved
  have handled := promise_handled p c.args bound fits
  have promise : p.signature.returns = .promise := by cases p <;> rfl
  cases asked : p.request bound with
  | error f =>
    rw [asked] at handled
    obtain ⟨replied, effects, settles⟩ :=
      c.failed_settles _ bound [] reached promise f handled
    exact ⟨_, replied, request_error p c.args bound fits f asked, effects, settles⟩
  | ok inquiry =>
    rw [asked] at handled
    obtain ⟨replied, submits⟩ :=
      c.submits_blocking _ bound [] reached promise (inquiry.work p.space) handled
    obtain ⟨outcome, paid, ended⟩ := submits.concludes c harmless closed
    obtain ⟨once, final⟩ := paid _ rfl
    refine ⟨_, replied, ?_⟩
    cases refused : c.host.pool.refusal? with
    | some f =>
      rw [refused] at ended
      obtain ⟨rfl, effects⟩ := ended
      exact ⟨refusal_grounds c.host.pool f refused, effects,
        c.settles_of_submits _ once final⟩
    | none =>
      rw [refused] at ended
      obtain ⟨worker, backend, answered, rfl, effects⟩ := ended
      rw [inquiry_ends] at once final
      refine ⟨worker, backend, answered, effects.trans ?_,
        c.settles_of_submits _ once final⟩
      rw [List.nil_append, inquiry_shows_call]
      rfl

end Built

def sampleShow : Invocation sampleAds.1 sampleAds.2 :=
  servedCall (PromiseMethod.present .interstitial).module (PromiseMethod.present .interstitial).name
    [.number (.ofInt 7), .string "unit"] sulking (by decide +kernel)

set_option maxRecDepth 4000 in
theorem sample_show_answers : ∃ id, sampleShow.reply = some (.ok (.pending id)) ∧
    ∃ worker backend, Answered sampleAds.1.step? .finish sampleShow.next sampleShow.after
        sampleShow.host.pool.submitted worker backend ∧
      sampleShow.effects = [.called (.present .interstitial 7 "unit" Decodable.blank)] ∧
      sampleShow.Settles id ((Inquiry.unit (.present .interstitial 7 "unit"
        Decodable.blank)).outcome "googleMobileAds" backend) :=
  promise_answers_once sample_built sampleShow (.present .interstitial) rfl rfl _ _
    (Bridge.target_of_resolve _ _ _ _ _ [.number (.ofInt 7), .string "unit", .absent]
      (promise_resolves sample_built (.present .interstitial)) rfl) (by decide +kernel)

end HostBridge.Ads
