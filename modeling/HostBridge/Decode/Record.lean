import HostBridge.Decode.Codec
import HostBridge.Value.Json

/-!
Decoding looks each declared field up in the object, in ascending order of the names, so that the
first field that fails decides the error; only then are missing fields looked for, in the order of
declaration.
-/

set_option autoImplicit false

namespace HostBridge

structure Field (R : Type) where
  name : String
  isRequired : Bool
  encode : R → Json
  decode : Json → R → Except DecodeError R

namespace Field

variable {R α : Type}

def ofCodec (isRequired : Bool) (name : String) (codec : Codec α) (get : R → α)
    (set : α → R → R) : Field R where
  name := name
  isRequired := isRequired
  encode r := codec.encode (get r)
  decode j r := (codec.decode j).map (set · r)

def optional (name : String) (codec : Codec α) (get : R → α) (set : α → R → R) : Field R :=
  ofCodec false name codec get set

def required (name : String) (codec : Codec α) (get : R → α) (set : α → R → R) : Field R :=
  ofCodec true name codec get set

end Field

structure Record (R : Type) where
  name : String
  fields : List (Field R)
  blank : R

namespace Record

variable {R : Type}

def ascending (t : Record R) : KeyMap (Field R) :=
  KeyMap.ofList (t.fields.map fun f => (f.name, f))

def encodeFields (t : Record R) (r : R) : List (String × Json) :=
  t.fields.map fun f => (f.name, f.encode r)

def encode (t : Record R) (r : R) : Json := .object (KeyMap.ofList (t.encodeFields r))

def takeFields (m : KeyMap Json) : List (String × Field R) → R → Except DecodeError R
  | [], r => .ok r
  | (name, f) :: rest, r =>
    match m.lookup name with
    | none => takeFields m rest r
    | some j => do takeFields m rest (← f.decode j r)

def missing? (t : Record R) (m : KeyMap Json) : Option String :=
  (t.fields.find? fun f => f.isRequired && !m.contains f.name).map Field.name

def decodeFields (t : Record R) (m : KeyMap Json) : Except DecodeError R := do
  let r ← takeFields m t.ascending t.blank
  match t.missing? m with
  | some name => .error (.missingField name)
  | none => .ok r

def takeItems : List (Field R) → List Json → R → Except DecodeError R
  | f :: fields, j :: items, r => do takeItems fields items (← f.decode j r)
  | _, _, r => .ok r

-- A record may stand as a list of its values. If a field is required, then none may be left out;
-- otherwise values left out at the end stay as they are in the blank record.
def decodeItems (t : Record R) (limit : LengthLimit) (items : List Json) :
    Except DecodeError R := do
  let r ← takeItems t.fields items t.blank
  if items.length < t.fields.length && t.fields.any Field.isRequired then
    .error (.tooShort items.length t.name t.fields.length)
  else if t.fields.length < items.length then .error (.tooLong items.length limit)
  else .ok r

def codec (t : Record R) (limit : LengthLimit) : Codec R where
  encode := t.encode
  decode
    | .object m => t.decodeFields m
    | .array items => t.decodeItems limit items
    | j => .error (Codec.wrongType j s!"struct {t.name}")

end Record

class Decodable (T : Type) where
  blank : T
  encode : T → Json
  decode : KeyMap Json → Except DecodeError T

def Decodable.toValue {T : Type} [Decodable T] (x : T) : Value := .ofJson (Decodable.encode x)

end HostBridge
