import HostBridge.Ads.Consent

set_option autoImplicit false

namespace HostBridge.Ads

open Reaction

def coreModuleName : String := "RNGoogleMobileAdsModule"

def constants : Value :=
  .ofEntries [
    ("MAX_AD_CONTENT_RATING",
      .ofEntries (ContentRating.all.map fun r => (r.name, .string r.name))),
    ("DEBUG_GEOGRAPHY", .ofEntries (DebugGeography.all.map fun g => (g.name, .ofInt g.code)))]

def adaptersValue (statuses : List AdapterStatus) : Value :=
  .array (statuses.map Decodable.toValue)

def invalidVolume (volume : Binary64) : Failure :=
  ⟨s!"{adsSpace}/invalid-volume", s!"volume must be between 0 and 1, got {volume.text .plain}"⟩

def setRequestConfigurationHandler : Handler Backend Act := fun args =>
  reading (optionsOf RequestConfiguration args 0) fun config =>
  quiet (.ok (promised (.setRequestConfiguration config) adsSpace fun _ => .undefined))

def setAppVolumeHandler : Handler Backend Act := fun args =>
  reading (args.number 0) fun volume =>
  if volume.inUnitInterval then setting (.setAppVolume volume)
  else quiet (.error (invalidVolume volume))

def coreModule : Except BridgeError (Module Backend Act) :=
  Module.build coreModuleName [
    ⟨"getConstants", .requiring [] .value, fun _ => quiet (.ok (.value constants))⟩,
    asked "initialize" (promised .start adsSpace adaptersValue),
    ⟨"setRequestConfiguration", (Signature.requiring [] .promise).withOptional .object,
      setRequestConfigurationHandler⟩,
    asked "openAdInspector" (promised .openAdInspector adsSpace fun _ => .undefined),
    ⟨"openDebugMenu", .requiring [.string] .void,
      fun args => reading (args.string 0) fun adUnitId => setting (.openDebugMenu adUnitId)⟩,
    ⟨"setAppVolume", .requiring [.number] .void, setAppVolumeHandler⟩,
    ⟨"setAppMuted", .requiring [.boolean] .void,
      fun args => reading (args.boolean 0) fun muted => setting (.setAppMuted muted)⟩]

end HostBridge.Ads
