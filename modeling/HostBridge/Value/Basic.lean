import HostBridge.KeyMap
import HostBridge.Number.Rounding

set_option autoImplicit false

namespace HostBridge

inductive Value where
  | undefined
  | null
  | bool (b : Bool)
  | number (x : Binary64)
  | string (s : String)
  | array (items : List Value)
  | object (fields : List (String × Value))
deriving Inhabited, Repr

namespace Value

def kind : Value → String
  | undefined => "undefined"
  | null => "null"
  | bool _ => "boolean"
  | number _ => "number"
  | string _ => "string"
  | array _ => "array"
  | object _ => "object"

def isUndefined : Value → Bool
  | undefined => true
  | _ => false

def isNull : Value → Bool
  | null => true
  | _ => false

def number? : Value → Option Binary64
  | number x => some x
  | _ => none

def string? : Value → Option String
  | string s => some s
  | _ => none

def bool? : Value → Option Bool
  | bool b => some b
  | _ => none

def items? : Value → Option (List Value)
  | array items => some items
  | _ => none

def fields? : Value → Option (KeyMap Value)
  | object fields => some fields
  | _ => none

def field? (v : Value) (name : String) : Option Value := v.fields?.bind (·.lookup name)

def ofEntries (entries : List (String × Value)) : Value := object (KeyMap.ofList entries)

def ofInt (i : Int) : Value := number (.ofInt i)

def ofOption : Option Value → Value
  | none => null
  | some v => v

def names? (v : Value) : Option (List String) := v.fields?.map KeyMap.keys

mutual

-- Equality of values. Numbers are compared as numbers, so the two zeros agree and a value that
-- holds a NaN differs from itself.
def equal : Value → Value → Bool
  | undefined, undefined => true
  | null, null => true
  | bool a, bool b => a == b
  | number x, number y => x.equal y
  | string s, string t => s == t
  | array items, array others => equalItems items others
  | object fields, object others => equalFields fields others
  | _, _ => false

def equalItems : List Value → List Value → Bool
  | [], [] => true
  | a :: rest, b :: others => equal a b && equalItems rest others
  | _, _ => false

def equalFields : List (String × Value) → List (String × Value) → Bool
  | [], [] => true
  | (name, a) :: rest, (other, b) :: others =>
    name == other && equal a b && equalFields rest others
  | _, _ => false

end

end Value

end HostBridge
