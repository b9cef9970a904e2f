import HostBridge.Decode.Record

set_option autoImplicit false

namespace HostBridge.Ads

structure ServerSideVerificationOptions where
  userId : Option String
  customData : Option String
deriving DecidableEq, Repr

namespace ServerSideVerificationOptions

def blank : ServerSideVerificationOptions := ⟨none, none⟩

def record : Record ServerSideVerificationOptions where
  name := "ServerSideVerificationOptions"
  blank := blank
  fields := [
    .optional "userId" (.optional .string) userId fun v r => { r with userId := v },
    .optional "customData" (.optional .string) customData fun v r => { r with customData := v }]

end ServerSideVerificationOptions

structure RequestOptions where
  requestNonPersonalizedAdsOnly : Bool
  keywords : List String
  contentUrl : Option String
  neighboringContentUrls : List String
  requestAgent : Option String
  networkExtras : Option (KeyMap Json)
  serverSideVerificationOptions : Option ServerSideVerificationOptions
deriving Repr

namespace RequestOptions

def blank : RequestOptions := ⟨false, [], none, [], none, none, none⟩

def recordWith (limit : LengthLimit) : Record RequestOptions where
  name := "RequestOptions"
  blank := blank
  fields := [
    .optional "requestNonPersonalizedAdsOnly" .boolean requestNonPersonalizedAdsOnly
      fun v r => { r with requestNonPersonalizedAdsOnly := v },
    .optional "keywords" (.list .string) keywords fun v r => { r with keywords := v },
    .optional "contentUrl" (.optional .string) contentUrl fun v r => { r with contentUrl := v },
    .optional "neighboringContentUrls" (.list .string) neighboringContentUrls
      fun v r => { r with neighboringContentUrls := v },
    .optional "requestAgent" (.optional .string) requestAgent
      fun v r => { r with requestAgent := v },
    .optional "networkExtras" (.optional .map) networkExtras
      fun v r => { r with networkExtras := v },
    .optional "serverSideVerificationOptions"
      (.optional (ServerSideVerificationOptions.record.codec limit))
      serverSideVerificationOptions fun v r => { r with serverSideVerificationOptions := v }]

def record : Record RequestOptions := recordWith .fewer

end RequestOptions

structure ShowOptions where
  immersiveModeEnabled : Bool
deriving DecidableEq, Repr

namespace ShowOptions

def blank : ShowOptions := ⟨false⟩

def record : Record ShowOptions where
  name := "ShowOptions"
  blank := blank
  fields := [
    .optional "immersiveModeEnabled" .boolean immersiveModeEnabled
      fun v r => { r with immersiveModeEnabled := v }]

end ShowOptions

inductive ContentRating where
  | general
  | parentalGuidance
  | teen
  | mature
deriving DecidableEq, Repr

namespace ContentRating

def name : ContentRating → String
  | general => "G"
  | parentalGuidance => "PG"
  | teen => "T"
  | mature => "MA"

def all : List ContentRating := [general, parentalGuidance, teen, mature]

def codec : Codec ContentRating := .variant (all.map fun r => (r.name, r)) name

end ContentRating

structure RequestConfiguration where
  maxAdContentRating : Option ContentRating
  tagForChildDirectedTreatment : Option Bool
  tagForUnderAgeOfConsent : Option Bool
  testDeviceIdentifiers : List String
deriving DecidableEq, Repr

namespace RequestConfiguration

def blank : RequestConfiguration := ⟨none, none, none, []⟩

def record : Record RequestConfiguration where
  name := "RequestConfiguration"
  blank := blank
  fields := [
    .optional "maxAdContentRating" (.optional ContentRating.codec) maxAdContentRating
      fun v r => { r with maxAdContentRating := v },
    .optional "tagForChildDirectedTreatment" (.optional .boolean) tagForChildDirectedTreatment
      fun v r => { r with tagForChildDirectedTreatment := v },
    .optional "tagForUnderAgeOfConsent" (.optional .boolean) tagForUnderAgeOfConsent
      fun v r => { r with tagForUnderAgeOfConsent := v },
    .optional "testDeviceIdentifiers" (.list .string) testDeviceIdentifiers
      fun v r => { r with testDeviceIdentifiers := v }]

end RequestConfiguration

inductive DebugGeography where
  | disabled
  | eea
  | notEea
  | regulatedUsState
  | other
deriving DecidableEq, Repr

namespace DebugGeography

def code : DebugGeography → Int
  | disabled => 0
  | eea => 1
  | notEea => 2
  | regulatedUsState => 3
  | other => 4

def name : DebugGeography → String
  | disabled => "DISABLED"
  | eea => "EEA"
  | notEea => "NOT_EEA"
  | regulatedUsState => "REGULATED_US_STATE"
  | other => "OTHER"

def all : List DebugGeography := [disabled, eea, notEea, regulatedUsState, other]

def byCode : List (Int × DebugGeography) := all.map fun g => (g.code, g)

def ofCode? (code : Int) : Option DebugGeography := byCode.lookup code

def codec : Codec DebugGeography := .coded "debug geography" byCode code

end DebugGeography

structure ConsentRequestOptions where
  debugGeography : DebugGeography
  tagForUnderAgeOfConsent : Bool
  testIdentifiers : List String
deriving DecidableEq, Repr

namespace ConsentRequestOptions

def blank : ConsentRequestOptions := ⟨.disabled, false, []⟩

def record : Record ConsentRequestOptions where
  name := "ConsentRequestOptions"
  blank := blank
  fields := [
    .optional "debugGeography" DebugGeography.codec debugGeography
      fun v r => { r with debugGeography := v },
    .optional "tagForUnderAgeOfConsent" .boolean tagForUnderAgeOfConsent
      fun v r => { r with tagForUnderAgeOfConsent := v },
    .optional "testIdentifiers" (.list .string) testIdentifiers
      fun v r => { r with testIdentifiers := v }]

end ConsentRequestOptions

inductive ConsentStatus where
  | unknown
  | required
  | notRequired
  | obtained
deriving DecidableEq, Repr

namespace ConsentStatus

def name : ConsentStatus → String
  | unknown => "UNKNOWN"
  | required => "REQUIRED"
  | notRequired => "NOT_REQUIRED"
  | obtained => "OBTAINED"

def all : List ConsentStatus := [unknown, required, notRequired, obtained]

def codec : Codec ConsentStatus := .variant (all.map fun s => (s.name, s)) name

end ConsentStatus

inductive PrivacyOptionsRequirement where
  | unknown
  | required
  | notRequired
deriving DecidableEq, Repr

namespace PrivacyOptionsRequirement

def name : PrivacyOptionsRequirement → String
  | unknown => "UNKNOWN"
  | required => "REQUIRED"
  | notRequired => "NOT_REQUIRED"

def all : List PrivacyOptionsRequirement := [unknown, required, notRequired]

def codec : Codec PrivacyOptionsRequirement := .variant (all.map fun s => (s.name, s)) name

end PrivacyOptionsRequirement

structure ConsentInfo where
  status : ConsentStatus
  canRequestAds : Bool
  privacyOptionsRequirementStatus : PrivacyOptionsRequirement
  isConsentFormAvailable : Bool
deriving DecidableEq, Repr

namespace ConsentInfo

def blank : ConsentInfo := ⟨.unknown, false, .unknown, false⟩

def record : Record ConsentInfo where
  name := "ConsentInfo"
  blank := blank
  fields := [
    .required "status" ConsentStatus.codec status fun v r => { r with status := v },
    .required "canRequestAds" .boolean canRequestAds fun v r => { r with canRequestAds := v },
    .required "privacyOptionsRequirementStatus" PrivacyOptionsRequirement.codec
      privacyOptionsRequirementStatus
      fun v r => { r with privacyOptionsRequirementStatus := v },
    .required "isConsentFormAvailable" .boolean isConsentFormAvailable
      fun v r => { r with isConsentFormAvailable := v }]

end ConsentInfo

structure AdapterStatus where
  name : String
  description : String
  state : Int
deriving DecidableEq, Repr

namespace AdapterStatus

def blank : AdapterStatus := ⟨"", "", 0⟩

def record : Record AdapterStatus where
  name := "AdapterStatus"
  blank := blank
  fields := [
    .required "name" .string name fun v r => { r with name := v },
    .required "description" .string description fun v r => { r with description := v },
    .required "state" .int32 state fun v r => { r with state := v }]

end AdapterStatus

structure NativeAdRequestOptions where
  request : RequestOptions
  adChoicesPlacement : Option Int
  aspectRatio : Option Int
  startVideoMuted : Option Bool
deriving Repr

namespace NativeAdRequestOptions

def blank : NativeAdRequestOptions := ⟨.blank, none, none, none⟩

def ownRecord : Record NativeAdRequestOptions where
  name := "NativeAdRequestOptions"
  blank := blank
  fields := [
    .optional "adChoicesPlacement" (.optional .int32) adChoicesPlacement
      fun v r => { r with adChoicesPlacement := v },
    .optional "aspectRatio" (.optional .int32) aspectRatio fun v r => { r with aspectRatio := v },
    .optional "startVideoMuted" (.optional .boolean) startVideoMuted
      fun v r => { r with startVideoMuted := v }]

def requestRecord : Record RequestOptions := RequestOptions.recordWith (.exactly 2)

def encode (x : NativeAdRequestOptions) : Json :=
  .object (KeyMap.ofList (requestRecord.encodeFields x.request ++ ownRecord.encodeFields x))

def leftover (m : KeyMap Json) : KeyMap Json :=
  m.filter fun entry => !(ownRecord.fields.map Field.name).contains entry.1

def decode (m : KeyMap Json) : Except DecodeError NativeAdRequestOptions := do
  let own ← ownRecord.decodeFields m
  let request ← requestRecord.decodeFields (leftover m)
  .ok { own with request := request }

end NativeAdRequestOptions

structure NativeAd where
  responseId : String
  headline : String
  body : Option String
  advertiser : Option String
  callToAction : Option String
  starRating : Option Binary64
  price : Option String
  store : Option String
deriving DecidableEq, Repr

namespace NativeAd

def blank : NativeAd := ⟨"", "", none, none, none, none, none, none⟩

def record : Record NativeAd where
  name := "NativeAd"
  blank := blank
  fields := [
    .required "responseId" .string responseId fun v r => { r with responseId := v },
    .required "headline" .string headline fun v r => { r with headline := v },
    .optional "body" (.optional .string) body fun v r => { r with body := v },
    .optional "advertiser" (.optional .string) advertiser fun v r => { r with advertiser := v },
    .optional "callToAction" (.optional .string) callToAction
      fun v r => { r with callToAction := v },
    .optional "starRating" (.optional .number) starRating fun v r => { r with starRating := v },
    .optional "price" (.optional .string) price fun v r => { r with price := v },
    .optional "store" (.optional .string) store fun v r => { r with store := v }]

end NativeAd

instance : Decodable ServerSideVerificationOptions :=
  ⟨ServerSideVerificationOptions.blank, ServerSideVerificationOptions.record.encode,
    ServerSideVerificationOptions.record.decodeFields⟩

instance : Decodable RequestOptions :=
  ⟨RequestOptions.blank, RequestOptions.record.encode, RequestOptions.record.decodeFields⟩

instance : Decodable ShowOptions :=
  ⟨ShowOptions.blank, ShowOptions.record.encode, ShowOptions.record.decodeFields⟩

instance : Decodable RequestConfiguration :=
  ⟨RequestConfiguration.blank, RequestConfiguration.record.encode,
    RequestConfiguration.record.decodeFields⟩

instance : Decodable ConsentRequestOptions :=
  ⟨ConsentRequestOptions.blank, ConsentRequestOptions.record.encode,
    ConsentRequestOptions.record.decodeFields⟩

instance : Decodable ConsentInfo :=
  ⟨ConsentInfo.blank, ConsentInfo.record.encode, ConsentInfo.record.decodeFields⟩

instance : Decodable AdapterStatus :=
  ⟨AdapterStatus.blank, AdapterStatus.record.encode, AdapterStatus.record.decodeFields⟩

instance : Decodable NativeAd :=
  ⟨NativeAd.blank, NativeAd.record.encode, NativeAd.record.decodeFields⟩

instance : Decodable NativeAdRequestOptions :=
  ⟨NativeAdRequestOptions.blank, NativeAdRequestOptions.encode, NativeAdRequestOptions.decode⟩

end HostBridge.Ads
