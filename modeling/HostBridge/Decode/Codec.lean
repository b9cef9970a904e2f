import HostBridge.Decode.Error
import HostBridge.Number.Rounding

set_option autoImplicit false

namespace HostBridge

structure Codec (α : Type) where
  encode : α → Json
  decode : Json → Except DecodeError α

namespace Codec

variable {α : Type}

def wrongType (j : Json) (expected : String) : DecodeError := .wrongType (.ofJson j) expected

def boolean : Codec Bool where
  encode := .bool
  decode
    | .bool b => .ok b
    | j => .error (wrongType j "a boolean")

def string : Codec String where
  encode := .string
  decode
    | .string s => .ok s
    | j => .error (wrongType j "a string")

def int32 : Codec Int where
  encode := .int
  decode
    | .int i =>
      if Binary64.fitsInt32 i then .ok i else .error (.wrongValue (.integer i) "i32")
    | j => .error (wrongType j "i32")

def number : Codec Binary64 where
  encode x := if x.isFinite then .float x else .null
  decode
    | .int i => .ok (.ofInt i)
    | .float x => .ok x
    | j => .error (wrongType j "f64")

def list (item : Codec α) : Codec (List α) where
  encode items := .array (items.map item.encode)
  decode
    | .array items => items.mapM item.decode
    | j => .error (wrongType j "a sequence")

def optional (value : Codec α) : Codec (Option α) where
  encode
    | none => .null
    | some v => value.encode v
  decode
    | .null => .ok none
    | j => (value.decode j).map some

def map : Codec (KeyMap Json) where
  encode := .object
  decode
    | .object fields => .ok fields
    | j => .error (wrongType j "a map")

-- One of some named values, written as its name. An object with the name as its only key stands for
-- it too, if nothing is given under the key.
def variant (values : List (String × α)) (name : α → String) : Codec α where
  encode v := .string (name v)
  decode
    | .string s => named s
    | .object [(s, payload)] => do
      let v ← named s
      match payload with
      | .null => .ok v
      | j => .error (wrongType j "unit")
    | .object _ => .error (.wrongValue .map "map with a single key")
    | j => .error (wrongType j "string or map")
where
  named (s : String) : Except DecodeError α :=
    match values.lookup s with
    | some v => .ok v
    | none => .error (.unknownVariant s (values.map Prod.fst))

def coded (what : String) (values : List (Int × α)) (code : α → Int) : Codec α where
  encode v := .int (code v)
  decode j := do
    let i ← int32.decode j
    match values.lookup i with
    | some v => .ok v
    | none => .error (.unknownCode what i)

end Codec

end HostBridge
