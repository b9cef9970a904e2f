import HostBridge.Ads.Modules
import HostBridge.Proofs.Ads.Members

set_option autoImplicit false

namespace HostBridge.Ads

structure Reports (T : Type) [Decodable T] (stages : List (List (Member T))) : Prop where
  fails : ∀ (args : Arguments) (index : Nat) (fields : KeyMap Value),
    args[index]? = some (.object fields) → ((∃ f, args.decode T index = .error f) ↔
      ∃ p ∈ stages.flatten,
        (∃ e, p.Refuses (Value.shown? fields) e) ∨ p.Lacks (Value.shown? fields))
  tells : ∀ (args : Arguments) (index : Nat) (fields : KeyMap Value) (f : Failure),
    args[index]? = some (.object fields) → (args.decode T index = .error f ↔
      ∃ e, FirstFault (Value.shown? fields) stages e ∧
        f = ⟨"bridge/invalid-options", s!"argument {index}: {e.message}"⟩)
  repeats : ∀ (args : Arguments) (index : Nat) (fields : KeyMap Value) (f : Failure),
    args[index]? = some (.object fields) → (optionsOf T args index = .error f ↔
      ∃ e, FirstFault (Value.shown? fields) stages e ∧
        f = ⟨"googleMobileAds/invalid-options", s!"argument {index}: {e.message}"⟩)

theorem options_error_iff {T : Type} [Decodable T] (args : Arguments) (index : Nat) (f : Failure) :
    optionsOf T args index = .error f ↔ ∃ g, args.decode T index = .error g ∧
      f = ⟨"googleMobileAds/invalid-options", g.message⟩ := by
  unfold optionsOf
  cases args.decode T index with
  | ok x => exact iff_of_false nofun nofun
  | error g =>
    simp only [Except.error.injEq, exists_eq_left']
    exact eq_comm

theorem reports_of_staged {T : Type} [Decodable T] {stages : List (List (Member T))}
    (staged : Staged (Decodable.decode (T := T)) Decodable.blank stages) : Reports T stages where
  fails args index fields given := by
    simp only [staged.read_error_iff fields given, ← FirstFault.exists_iff]
    constructor
    · rintro ⟨_, e, fault, _⟩
      exact ⟨e, fault⟩
    · rintro ⟨e, fault⟩
      exact ⟨_, e, fault, rfl⟩
  tells args index fields f given := staged.read_error_iff fields given f
  repeats args index fields f given := by
    simp only [options_error_iff, staged.read_error_iff fields given]
    constructor
    · rintro ⟨_, ⟨e, fault, rfl⟩, rfl⟩
      exact ⟨e, fault, rfl⟩
    · rintro ⟨e, fault, rfl⟩
      exact ⟨_, ⟨e, fault, rfl⟩, rfl⟩

structure HandlersRepeat : Prop where
  loads : ∀ (format : Format) (args : Arguments) (requestId : Int) (adUnitId : String)
    (f : Failure), args.int 0 = .ok requestId → args.string 1 = .ok adUnitId →
    args.decode RequestOptions 2 = .error f → loadHandler format args =
      ⟨[.published (.failed format requestId adUnitId "googleMobileAds/invalid-options" f.message)],
        .ok .done⟩
  shows : ∀ (format : Format) (args : Arguments) (requestId : Int) (adUnitId : String)
    (f : Failure), args.int 0 = .ok requestId → args.string 1 = .ok adUnitId →
    args.decode ShowOptions 2 = .error f → showHandler format args =
      ⟨[], .error ⟨"googleMobileAds/invalid-options", f.message⟩⟩
  configures : ∀ (args : Arguments) (f : Failure), args.decode RequestConfiguration 0 = .error f →
    setRequestConfigurationHandler args =
      ⟨[], .error ⟨"googleMobileAds/invalid-options", f.message⟩⟩
  asks : ∀ (args : Arguments) (f : Failure), args.decode ConsentRequestOptions 0 = .error f →
    requestInfoUpdateHandler args = ⟨[], .error ⟨"googleMobileAds/invalid-options", f.message⟩⟩
  loadsNative : ∀ (args : Arguments) (adUnitId : String) (f : Failure),
    args.string 0 = .ok adUnitId → args.decode NativeAdRequestOptions 1 = .error f →
    loadNativeHandler args = ⟨[], .error ⟨"googleMobileAds/invalid-options", f.message⟩⟩

theorem handlers_repeat : HandlersRepeat := by
  have failed : ∀ {T : Type} [Decodable T] (args : Arguments) (index : Nat) (f : Failure),
      args.decode T index = .error f →
        optionsOf T args index = .error ⟨"googleMobileAds/invalid-options", f.message⟩ :=
    fun args index f unread => (options_error_iff args index _).2 ⟨f, unread, rfl⟩
  constructor
  · intro format args requestId adUnitId f request unit unread
    simp only [loadHandler, request, unit, failed args 2 f unread, Reaction.reading]
    rfl
  · intro format args requestId adUnitId f request unit unread
    simp only [showHandler, request, unit, failed args 2 f unread, Reaction.reading]
    rfl
  · intro args f unread
    simp only [setRequestConfigurationHandler, failed args 0 f unread, Reaction.reading]
    rfl
  · intro args f unread
    simp only [requestInfoUpdateHandler, failed args 0 f unread, Reaction.reading]
    rfl
  · intro args adUnitId f unit unread
    simp only [loadNativeHandler, unit, failed args 1 f unread, Reaction.reading]
    rfl

theorem first_fault_is_reported :
    Reports RequestOptions [RequestOptions.members] ∧
    Reports ServerSideVerificationOptions [ServerSideVerificationOptions.members] ∧
    Reports ShowOptions [ShowOptions.members] ∧
    Reports RequestConfiguration [RequestConfiguration.members] ∧
    Reports ConsentRequestOptions [ConsentRequestOptions.members] ∧
    Reports NativeAdRequestOptions
      [NativeAdRequestOptions.ownMembers, NativeAdRequestOptions.requestMembers] ∧
    Reports ConsentInfo [ConsentInfo.members] ∧
    Reports NativeAd [NativeAd.members] ∧
    HandlersRepeat :=
  ⟨reports_of_staged (RequestOptions.staged .fewer),
    reports_of_staged ServerSideVerificationOptions.staged,
    reports_of_staged ShowOptions.staged,
    reports_of_staged RequestConfiguration.staged,
    reports_of_staged ConsentRequestOptions.staged,
    reports_of_staged NativeAdRequestOptions.staged,
    reports_of_staged ConsentInfo.staged,
    reports_of_staged NativeAd.staged,
    handlers_repeat⟩

-- The own field comes first, although its name is the greatest.
set_option maxRecDepth 4000 in
example : Arguments.decode NativeAdRequestOptions [.object [("contentUrl", .bool true),
      ("keywords", .null), ("startVideoMuted", .array [])]] 0 =
    .error (.invalidOptions "argument 0: invalid type: sequence, expected a boolean") := rfl

end HostBridge.Ads
