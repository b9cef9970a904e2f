import HostBridge.Decode.Record
import HostBridge.Number.Style
import HostBridge.Signature.Bind

set_option autoImplicit false

namespace HostBridge

abbrev Arguments := List Argument

namespace Arguments

def kindAt (args : Arguments) (index : Nat) : String :=
  match args[index]? with
  | some a => a.kind
  | none => "unbound"

def mismatch (args : Arguments) (index : Nat) (wanted : String) : Failure :=
  .argument s!"argument {index} read as {wanted} but is {args.kindAt index}"

def isAbsent (args : Arguments) (index : Nat) : Bool :=
  match args[index]? with
  | some a => a.isAbsent
  | none => true

def number (args : Arguments) (index : Nat) : Except Failure Binary64 :=
  match args[index]? with
  | some (.number x) => .ok x
  | _ => .error (args.mismatch index "number")

def int (args : Arguments) (index : Nat) : Except Failure Int := do
  let x ← args.number index
  match x.toInt32? with
  | some i => .ok i
  | none => .error (.argument s!"argument {index} is not a 32-bit integer: {x.text .plain}")

def string (args : Arguments) (index : Nat) : Except Failure String :=
  match args[index]? with
  | some (.string s) => .ok s
  | _ => .error (args.mismatch index "string")

def boolean (args : Arguments) (index : Nat) : Except Failure Bool :=
  match args[index]? with
  | some (.boolean b) => .ok b
  | _ => .error (args.mismatch index "boolean")

def object (args : Arguments) (index : Nat) : Except Failure (KeyMap Value) :=
  match args[index]? with
  | some (.object fields) => .ok fields
  | _ => .error (args.mismatch index "object")

def optional {α : Type} (read : Arguments → Nat → Except Failure α) (args : Arguments)
    (index : Nat) : Except Failure (Option α) :=
  if args.isAbsent index then .ok none else (read args index).map some

def decode (T : Type) [Decodable T] (args : Arguments) (index : Nat) : Except Failure T := do
  match ← args.optional object index with
  | none => .ok Decodable.blank
  | some fields =>
    match Decodable.decode (Value.fieldsToJson fields) with
    | .ok x => .ok x
    | .error e => .error (.invalidOptions s!"argument {index}: {e.message}")

end Arguments

end HostBridge
