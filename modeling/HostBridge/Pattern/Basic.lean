set_option autoImplicit false

namespace HostBridge

namespace Pattern

structure Mode where
  unicode : Bool
  ignoreCase : Bool
  ignoreBlanks : Bool
deriving DecidableEq, Repr

def Mode.plain : Mode := ⟨true, false, false⟩

structure Literal where
  char : Char
  isByte : Bool
deriving DecidableEq, Repr

inductive SetItem where
  | empty
  | literal (l : Literal)
  | range (first last : Literal)
  | named (negated : Bool)
  | shorthand (negated : Bool)
  | bracketed (negated : Bool) (content : SetItem)
  | union (items : List SetItem)
  | operation (left right : SetItem)
deriving Repr

inductive Leaf where
  | literal (l : Literal)
  | any
  | shorthand (negated : Bool)
  | edge
  | wordBoundary
deriving DecidableEq, Repr

end Pattern

inductive Pattern where
  | empty
  | leaf (mode : Pattern.Mode) (leaf : Pattern.Leaf)
  | set (mode : Pattern.Mode) (negated : Bool) (content : Pattern.SetItem)
  | group (body : Pattern)
  | repeated (body : Pattern) (isNever : Bool)
  | sequence (items : List Pattern)
  | choice (branches : List Pattern)
deriving Repr

namespace Pattern

def ofItems : List Pattern → Pattern
  | [] => empty
  | [item] => item
  | items => sequence items

def SetItem.ofItems : List SetItem → SetItem
  | [] => empty
  | [item] => item
  | items => union items

end Pattern

end HostBridge
