set_option autoImplicit false

namespace HostBridge

inductive ParamType where
  | number
  | string
  | boolean
  | object
deriving DecidableEq, Inhabited, Repr

namespace ParamType

def name : ParamType → String
  | number => "number"
  | string => "string"
  | boolean => "boolean"
  | object => "object"

def all : List ParamType := [number, string, boolean, object]

def ofName? (name : String) : Option ParamType := all.find? (·.name == name)

def diagnostic : ParamType → String
  | number => "Number"
  | string => "String"
  | boolean => "Bool"
  | object => "Object"

end ParamType

structure Param where
  type : ParamType
  optional : Bool
deriving DecidableEq, Inhabited, Repr

inductive Returns where
  | void
  | value
  | promise
deriving DecidableEq, Inhabited, Repr

namespace Returns

def name : Returns → String
  | void => "void"
  | value => "value"
  | promise => "promise"

def all : List Returns := [void, value, promise]

def ofName? (name : String) : Option Returns := all.find? (·.name == name)

def diagnostic : Returns → String
  | void => "Void"
  | value => "Value"
  | promise => "Promise"

end Returns

structure Signature where
  params : List Param
  returns : Returns
deriving DecidableEq, Inhabited, Repr

structure Misplaced where
  required : Nat
  optional : Nat
deriving DecidableEq, Repr

namespace Misplaced

def message (m : Misplaced) : String :=
  s!"required parameter {m.required} follows optional parameter {m.optional}"

end Misplaced

namespace Signature

def requiring (types : List ParamType) (returns : Returns) : Signature :=
  ⟨types.map (⟨·, false⟩), returns⟩

def withOptional (s : Signature) (type : ParamType) : Signature :=
  { s with params := s.params ++ [⟨type, true⟩] }

def arity (s : Signature) : Nat := s.params.length

def requiredArity (s : Signature) : Nat := (s.params.takeWhile (!·.optional)).length

def misplaced? (s : Signature) : Option Misplaced := do
  let optional ← s.params.findIdx? (·.optional)
  let offset ← (s.params.drop optional).findIdx? (!·.optional)
  some ⟨optional + offset, optional⟩

def diagnosticParam (p : Param) : String :=
  s!"ParamSpec \x7b ty: {p.type.diagnostic}, optional: {p.optional} \x7d"

def diagnostic (s : Signature) : String :=
  let params := ", ".intercalate (s.params.map diagnosticParam)
  s!"MethodSignature \x7b params: [{params}], returns: {s.returns.diagnostic} \x7d"

end Signature

end HostBridge
