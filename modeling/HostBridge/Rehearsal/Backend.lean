import HostBridge.Ads.Backend
import HostBridge.Hub
import HostBridge.Rehearsal.Session

set_option autoImplicit false

namespace HostBridge.Rehearsal

open Ads

inductive ScriptedAnswer where
  | given (answer : Option Json)
  | refused (error : AdError)
  | brokeOff (breakage : Breakage)

abbrev Script := KeyMap ScriptedAnswer

def scriptName : Call → String
  | .load _ _ _ _ => "load"
  | .present _ _ _ _ => "show"
  | .start => "initialize"
  | .setRequestConfiguration _ => "setRequestConfiguration"
  | .openAdInspector => "openAdInspector"
  | .openDebugMenu _ => "openDebugMenu"
  | .setAppVolume _ => "setAppVolume"
  | .setAppMuted _ => "setAppMuted"
  | .requestInfoUpdate _ => "requestInfoUpdate"
  | .showForm => "showForm"
  | .showPrivacyOptionsForm => "showPrivacyOptionsForm"
  | .loadAndShowConsentFormIfRequired => "loadAndShowConsentFormIfRequired"
  | .consentInfo => "getConsentInfo"
  | .tcfValue key => s!"tcf:{key}"
  | .resetConsent => "reset"
  | .loadNative _ _ => "loadNative"
  | .destroyNative _ => "destroyNative"

def gateOf : Call → String
  | .load _ requestId _ _ => s!"load:{requestId}"
  | .present _ requestId _ _ => s!"show:{requestId}"
  | .tcfValue _ => "tcf"
  | call => scriptName call

def readAnswer {α : Type} (codec : Codec α) (blank : α) : Option Json → Except DecodeError α
  | none => .ok blank
  | some j => codec.decode j

def consentInfoOf : Option Json → Except DecodeError ConsentInfo :=
  readAnswer (ConsentInfo.record.codec .fewer) .blank

def adaptersOf : Option Json → Except DecodeError (List AdapterStatus) :=
  readAnswer (.list (AdapterStatus.record.codec .fewer)) []

def nativeAdOf : Option Json → Except DecodeError NativeAd :=
  readAnswer (NativeAd.record.codec .fewer) .blank

def storedOf : Option Json → Option TcfValue
  | some (.string s) => some (.string s)
  | some (.int i) => if -(1 <<< 63) ≤ i ∧ i < 1 <<< 63 then some (.int i) else none
  | _ => none

def replyOf (answer : Option Json) : (call : Call) → Except DecodeError call.Reply
  | .start => adaptersOf answer
  | .requestInfoUpdate _ => consentInfoOf answer
  | .showForm => consentInfoOf answer
  | .showPrivacyOptionsForm => consentInfoOf answer
  | .loadAndShowConsentFormIfRequired => consentInfoOf answer
  | .consentInfo => consentInfoOf answer
  | .tcfValue _ => .ok (storedOf answer)
  | .loadNative _ _ => nativeAdOf answer
  | .load _ _ _ _ => .ok ()
  | .present _ _ _ _ => .ok ()
  | .setRequestConfiguration _ => .ok ()
  | .openAdInspector => .ok ()
  | .openDebugMenu _ => .ok ()
  | .setAppVolume _ => .ok ()
  | .setAppMuted _ => .ok ()
  | .resetConsent => .ok ()
  | .destroyNative _ => .ok ()

def unreadable (e : DecodeError) : Breakage :=
  .said s!"script: Error({Text.quoted e.message}, line: 0, column: 0)"

def scriptedBackend (script : Script) (told : Option ScriptedAnswer) : Backend := fun call =>
  match (told <|> script.lookup (scriptName call)).getD (.given none) with
  | .given answer =>
    match replyOf answer call with
    | .ok reply => .given reply
    | .error e => .brokeOff (unreadable e)
  | .refused e => .refused e
  | .brokeOff b => .brokeOff b

def backendStaging (script : Script) : Staging Backend Ads.Act ScriptedAnswer where
  gateOf
    | .called call => some (gateOf call)
    | .published _ => none
  answer := scriptedBackend script

def publishedBy (notes : List (Note Ads.Act)) : List AdEvent :=
  notes.filterMap fun note =>
    match note.act? with
    | some (.published event) => some event
    | _ => none

def publishAll (hub : Hub AdEvent) (notes : List (Note Ads.Act)) : Hub AdEvent :=
  (publishedBy notes).foldl Hub.publish hub

end HostBridge.Rehearsal
