import HostBridge.Ads.Core
import HostBridge.Ads.FullScreen
import HostBridge.Bridge.Basic

set_option autoImplicit false

namespace HostBridge.Ads

open Reaction

def nativeModuleName : String := "RNGoogleMobileAdsNativeModule"

def loadNativeHandler : Handler Backend Act := fun args =>
  reading (args.string 0) fun adUnitId =>
  reading (optionsOf NativeAdRequestOptions args 1) fun options =>
  quiet (.ok (promised (.loadNative adUnitId options) adsSpace
    (Decodable.toValue (T := NativeAd))))

def nativeModule : Except BridgeError (Module Backend Act) :=
  Module.build nativeModuleName [
    ⟨"load", .requiring [.string, .object] .promise, loadNativeHandler⟩,
    ⟨"destroy", .requiring [.string] .void,
      fun args => reading (args.string 0) fun responseId => setting (.destroyNative responseId)⟩]

def moduleNames : List String :=
  Format.all.map Format.moduleName ++ [consentModuleName, coreModuleName, nativeModuleName]

def modules : Except BridgeError (List (Module Backend Act)) := do
  let formats ← Format.all.mapM fullScreenModule
  let consent ← consentModule
  let core ← coreModule
  let native ← nativeModule
  .ok (formats ++ [consent, core, native])

def build (config : Config) (processors : Nat) :
    Except BuildError (Bridge Backend Act × Host Backend Act) :=
  match modules with
  | .error e => .error (.bridge e)
  | .ok modules => Bridge.build config processors modules

def contextDiagnostic (hub : String) : String := s!"AdsContext \x7b events: {hub}, .. \x7d"

end HostBridge.Ads
