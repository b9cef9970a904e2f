import HostBridge.Json.Basic
import HostBridge.Number.Style
import HostBridge.Text.Quoted

set_option autoImplicit false

namespace HostBridge

inductive Found where
  | null
  | boolean (b : Bool)
  | integer (i : Int)
  | float (x : Binary64)
  | string (s : String)
  | sequence
  | map
deriving DecidableEq, Repr

namespace Found

def ofJson : Json → Found
  | .null => null
  | .bool b => boolean b
  | .int i => integer i
  | .float x => float x
  | .string s => string s
  | .array _ => sequence
  | .object _ => map

def text : Found → String
  | null => "null"
  | boolean b => s!"boolean `{b}`"
  | integer i => s!"integer `{i}`"
  | float x => s!"floating point `{x.text .json}`"
  | string s => s!"string {Text.quoted s}"
  | sequence => "sequence"
  | map => "map"

end Found

inductive LengthLimit where
  | fewer
  | exactly (count : Nat)
deriving DecidableEq, Repr

namespace LengthLimit

def text : LengthLimit → String
  | fewer => "fewer elements in array"
  | exactly 1 => "1 element in sequence"
  | exactly count => s!"{count} elements in sequence"

end LengthLimit

inductive DecodeError where
  | wrongType (found : Found) (expected : String)
  | wrongValue (found : Found) (expected : String)
  | unknownVariant (name : String) (variants : List String)
  | missingField (name : String)
  | tooLong (length : Nat) (limit : LengthLimit)
  | tooShort (length : Nat) (record : String) (count : Nat)
  | unknownCode (what : String) (code : Int)
deriving DecidableEq, Repr

namespace DecodeError

def message : DecodeError → String
  | wrongType found expected => s!"invalid type: {found.text}, expected {expected}"
  | wrongValue found expected => s!"invalid value: {found.text}, expected {expected}"
  | unknownVariant name variants =>
    let list := ", ".intercalate (variants.map fun v => s!"`{v}`")
    s!"unknown variant `{name}`, expected one of {list}"
  | missingField name => s!"missing field `{name}`"
  | tooLong length limit => s!"invalid length {length}, expected {limit.text}"
  | tooShort length record count =>
    let elements := if count = 1 then "element" else "elements"
    s!"invalid length {length}, expected struct {record} with {count} {elements}"
  | unknownCode what code => s!"unknown {what} {code}"

end DecodeError

end HostBridge
