import HostBridge.Json.Basic
import HostBridge.Text.Quoted
import HostBridge.Value.Basic

set_option autoImplicit false

namespace HostBridge

namespace Binary64

def toJson (x : Binary64) : Json :=
  match x.safeInteger? with
  | some i => .int i
  | none => if x.isFinite then .float x else .null

end Binary64

namespace Value

mutual

def toJson : Value → Json
  | undefined => .null
  | null => .null
  | bool b => .bool b
  | number x => x.toJson
  | string s => .string s
  | array items => .array (itemsToJson items)
  | object fields => .object (fieldsToJson fields)

def itemsToJson : List Value → List Json
  | [] => []
  | item :: rest => toJson item :: itemsToJson rest

def fieldsToJson : List (String × Value) → List (String × Json)
  | [] => []
  | (name, value) :: rest =>
    if value.isUndefined then fieldsToJson rest else (name, toJson value) :: fieldsToJson rest

end

mutual

def ofJson : Json → Value
  | .null => null
  | .bool b => bool b
  | .int i => ofInt i
  | .float x => number x
  | .string s => string s
  | .array items => array (itemsOfJson items)
  | .object fields => object (fieldsOfJson fields)

def itemsOfJson : List Json → List Value
  | [] => []
  | item :: rest => ofJson item :: itemsOfJson rest

def fieldsOfJson : List (String × Json) → List (String × Value)
  | [] => []
  | (name, value) :: rest => (name, ofJson value) :: fieldsOfJson rest

end

def display (v : Value) : String :=
  if v.isUndefined then "undefined" else v.toJson.print

mutual

def diagnostic : Value → String
  | undefined => "Undefined"
  | null => "Null"
  | bool b => "Bool(" ++ toString b ++ ")"
  | number x => "Number(" ++ x.text .diagnostic ++ ")"
  | string s => "String(" ++ Text.quoted s ++ ")"
  | array items => "Array([" ++ diagnosticItems items ++ "])"
  | object fields => "Object(\x7b" ++ diagnosticFields fields ++ "\x7d)"

def diagnosticItems : List Value → String
  | [] => ""
  | [item] => diagnostic item
  | item :: rest => diagnostic item ++ ", " ++ diagnosticItems rest

def diagnosticFields : List (String × Value) → String
  | [] => ""
  | [(name, value)] => Text.quoted name ++ ": " ++ diagnostic value
  | (name, value) :: rest =>
    Text.quoted name ++ ": " ++ diagnostic value ++ ", " ++ diagnosticFields rest

end

end Value

end HostBridge
