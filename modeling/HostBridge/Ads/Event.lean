import HostBridge.Ads.Format
import HostBridge.Error

set_option autoImplicit false

namespace HostBridge.Ads

def adsSpace : String := "googleMobileAds"

def consentSpace : String := "consent"

structure AdError where
  code : String
  message : String
deriving DecidableEq, Inhabited, Repr

namespace AdError

def text (e : AdError) : String := s!"{e.code}: {e.message}"

def failure (e : AdError) (space : String) : Failure := ⟨s!"{space}/{e.code}", e.message⟩

end AdError

inductive EventKind where
  | loaded
  | error
  | opened
  | closed
  | clicked
  | impression
  | earnedReward
deriving DecidableEq, Inhabited, Repr

namespace EventKind

def name : EventKind → String
  | loaded => "loaded"
  | error => "error"
  | opened => "opened"
  | closed => "closed"
  | clicked => "clicked"
  | impression => "impression"
  | earnedReward => "rewarded_earned_reward"

end EventKind

structure AdEvent where
  format : Format
  requestId : Int
  adUnitId : String
  kind : EventKind
  payload : Value
deriving Inhabited

namespace AdEvent

def plain (format : Format) (requestId : Int) (adUnitId : String) (kind : EventKind) : AdEvent :=
  ⟨format, requestId, adUnitId, kind, .undefined⟩

def withPayload (e : AdEvent) (payload : Value) : AdEvent := { e with payload := payload }

def failed (format : Format) (requestId : Int) (adUnitId code message : String) : AdEvent :=
  (plain format requestId adUnitId .error).withPayload
    (.ofEntries [("code", .string code), ("message", .string message)])

def reward (format : Format) (requestId : Int) (adUnitId type : String) (amount : Binary64) :
    AdEvent :=
  (plain format requestId adUnitId .earnedReward).withPayload
    (.ofEntries [("type", .string type), ("amount", .number amount)])

def body (e : AdEvent) : Value :=
  let key := if e.kind = .error then "error" else "data"
  let payload := if e.payload.isUndefined then [] else [(key, e.payload)]
  .ofEntries ([("type", .string e.kind.name), ("requestId", .ofInt e.requestId),
    ("adUnitId", .string e.adUnitId)] ++ payload)

end AdEvent

end HostBridge.Ads
