import HostBridge.Ads.Event
import HostBridge.Ads.Options
import HostBridge.Module

set_option autoImplicit false

namespace HostBridge.Ads

inductive TcfValue where
  | string (s : String)
  | int (i : Int)
deriving DecidableEq, Repr

inductive Call where
  | load (format : Format) (requestId : Int) (adUnitId : String) (options : RequestOptions)
  | present (format : Format) (requestId : Int) (adUnitId : String) (options : ShowOptions)
  | start
  | setRequestConfiguration (config : RequestConfiguration)
  | openAdInspector
  | openDebugMenu (adUnitId : String)
  | setAppVolume (volume : Binary64)
  | setAppMuted (muted : Bool)
  | requestInfoUpdate (options : ConsentRequestOptions)
  | showForm
  | showPrivacyOptionsForm
  | loadAndShowConsentFormIfRequired
  | consentInfo
  | tcfValue (key : String)
  | resetConsent
  | loadNative (adUnitId : String) (options : NativeAdRequestOptions)
  | destroyNative (responseId : String)

namespace Call

def Reply : Call → Type
  | start => List AdapterStatus
  | requestInfoUpdate _ => ConsentInfo
  | showForm => ConsentInfo
  | showPrivacyOptionsForm => ConsentInfo
  | loadAndShowConsentFormIfRequired => ConsentInfo
  | consentInfo => ConsentInfo
  | tcfValue _ => Option TcfValue
  | loadNative _ _ => NativeAd
  | _ => Unit

end Call

inductive Answer (β : Type) where
  | given (x : β)
  | refused (error : AdError)
  | brokeOff (breakage : Breakage)

abbrev Backend := (call : Call) → Answer call.Reply

inductive Act where
  | called (call : Call)
  | published (event : AdEvent)

def asking (call : Call) (next : Except AdError call.Reply → List Act × Settlement) :
    Work Backend Act where
  opening := [.called call]
  closing _ backend :=
    match backend call with
    | .brokeOff breakage => ([], .brokeOff breakage)
    | .given x =>
      let (acts, outcome) := next (.ok x)
      (acts, .returned outcome)
    | .refused e =>
      let (acts, outcome) := next (.error e)
      (acts, .returned outcome)

def promised (call : Call) (space : String) (encode : call.Reply → Value) :
    Outcome Backend Act :=
  .blocking (asking call fun
    | .ok x => ([], .ok (encode x))
    | .error e => ([], .error (e.failure space)))

-- The backend is called on the caller's thread to set something, and gives no answer. This call is
-- taken to return.
def setting (call : Call) : Reaction Backend Act := ⟨[.called call], .ok .done⟩

def optionsOf (T : Type) [Decodable T] (args : Arguments) (index : Nat) : Except Failure T :=
  match args.decode T index with
  | .ok x => .ok x
  | .error f => .error ⟨s!"{adsSpace}/invalid-options", f.message⟩

end HostBridge.Ads
