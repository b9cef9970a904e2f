import HostBridge.Ads.Backend

set_option autoImplicit false

namespace HostBridge.Ads

open Reaction

def loadSignature : Signature := .requiring [.number, .string, .object] .void

def showSignature : Signature :=
  (Signature.requiring [.number, .string] .promise).withOptional .object

def loadOutcome (format : Format) (requestId : Int) (adUnitId : String) {β : Type} :
    Except AdError β → AdEvent
  | .ok _ => .plain format requestId adUnitId .loaded
  | .error e => .failed format requestId adUnitId e.code e.message

def loadFailure (format : Format) (requestId : Int) (adUnitId : String) (f : Failure) : AdEvent :=
  .failed format requestId adUnitId f.code f.message

def loadHandler (format : Format) : Handler Backend Act := fun args =>
  reading (args.int 0) fun requestId =>
  reading (args.string 1) fun adUnitId =>
  match optionsOf RequestOptions args 2 with
  | .error f => ⟨[.published (loadFailure format requestId adUnitId f)], .ok .done⟩
  | .ok options =>
    quiet (.ok (.detached
      (asking (.load format requestId adUnitId options) fun r =>
        ([.published (loadOutcome format requestId adUnitId r)], .ok .undefined))
      ⟨fun f => [.published (loadFailure format requestId adUnitId f)], fun _ _ => false⟩))

def showHandler (format : Format) : Handler Backend Act := fun args =>
  reading (args.int 0) fun requestId =>
  reading (args.string 1) fun adUnitId =>
  reading (optionsOf ShowOptions args 2) fun options =>
  quiet (.ok (promised (.present format requestId adUnitId options) adsSpace fun _ => .undefined))

def fullScreenModule (format : Format) : Except BridgeError (Module Backend Act) :=
  Module.build format.moduleName [
    ⟨s!"{format.stem}Load", loadSignature, loadHandler format⟩,
    ⟨s!"{format.stem}Show", showSignature, showHandler format⟩]

end HostBridge.Ads
