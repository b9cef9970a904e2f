import HostBridge.Error
import HostBridge.Value.Basic

set_option autoImplicit false

namespace HostBridge

inductive Argument where
  | number (x : Binary64)
  | string (s : String)
  | boolean (b : Bool)
  | object (fields : KeyMap Value)
  | absent
deriving Inhabited, Repr

namespace Argument

def kind : Argument → String
  | number _ => "number"
  | string _ => "string"
  | boolean _ => "boolean"
  | object _ => "object"
  | absent => "absent"

def isAbsent : Argument → Bool
  | absent => true
  | _ => false

end Argument

namespace ParamType

def accept : ParamType → Value → Option Argument
  | number, .number x => some (.number x)
  | string, .string s => some (.string s)
  | boolean, .bool b => some (.boolean b)
  | object, .object fields => some (.object fields)
  | _, _ => none

end ParamType

namespace Param

def bind (p : Param) (position : Nat) : Option Value → Except BridgeError Argument
  | none => if p.optional then .ok .absent else .error (.missingArgument position)
  | some v =>
    if p.optional && v.isUndefined then .ok .absent
    else
      match p.type.accept v with
      | some argument => .ok argument
      | none => .error (.typeMismatch position p.type v.kind)

end Param

namespace Signature

def bindParams : List Param → Nat → List Value → Except BridgeError (List Argument)
  | [], _, _ => .ok []
  | p :: rest, position, args => do
    let first ← p.bind position args.head?
    let others ← bindParams rest (position + 1) args.tail
    .ok (first :: others)

def bind (s : Signature) (args : List Value) : Except BridgeError (List Argument) :=
  bindParams s.params 0 args

end Signature

end HostBridge
