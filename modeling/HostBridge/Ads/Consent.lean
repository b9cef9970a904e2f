import HostBridge.Ads.Backend

set_option autoImplicit false

namespace HostBridge.Ads

open Reaction

def consentModuleName : String := "RNGoogleMobileAdsConsentModule"

def asked (name : String) (outcome : Outcome Backend Act) : Method Backend Act :=
  ⟨name, .requiring [] .promise, fun _ => quiet (.ok outcome)⟩

def consentValue (info : ConsentInfo) : Value := Decodable.toValue info

def saysYes : Option TcfValue → Bool
  | some (.int i) => i == 1
  | some (.string s) => s == "1"
  | none => false

def storedText : Option TcfValue → String
  | some (.string s) => s
  | some (.int i) => toString i
  | none => ""

def storedTextMethod (name key : String) : Method Backend Act :=
  asked name (promised (.tcfValue key) consentSpace fun stored => .string (storedText stored))

def requestInfoUpdateHandler : Handler Backend Act := fun args =>
  reading (optionsOf ConsentRequestOptions args 0) fun options =>
  quiet (.ok (promised (.requestInfoUpdate options) consentSpace consentValue))

def consentModule : Except BridgeError (Module Backend Act) :=
  Module.build consentModuleName [
    ⟨"requestInfoUpdate", (Signature.requiring [] .promise).withOptional .object,
      requestInfoUpdateHandler⟩,
    asked "showForm" (promised .showForm consentSpace consentValue),
    asked "showPrivacyOptionsForm" (promised .showPrivacyOptionsForm consentSpace consentValue),
    asked "loadAndShowConsentFormIfRequired"
      (promised .loadAndShowConsentFormIfRequired consentSpace consentValue),
    asked "getConsentInfo" (promised .consentInfo consentSpace consentValue),
    storedTextMethod "getTCString" "IABTCF_TCString",
    asked "getGdprApplies"
      (promised (.tcfValue "IABTCF_gdprApplies") consentSpace fun stored => .bool (saysYes stored)),
    storedTextMethod "getPurposeConsents" "IABTCF_PurposeConsents",
    storedTextMethod "getPurposeLegitimateInterests" "IABTCF_PurposeLegitimateInterests",
    ⟨"reset", .requiring [] .void, fun _ => setting .resetConsent⟩]

end HostBridge.Ads
