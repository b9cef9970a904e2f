import HostBridge.Pattern.Reader

/-!
Patterns are matched byte by byte and without tables of Unicode properties. So case can be ignored
only and classes can be named only where patterns are about bytes; there no byte may be asked for
that is not a character of its own.
-/

set_option autoImplicit false

namespace HostBridge

inductive PatternError where
  | unreadable
  | wordBoundary
deriving DecidableEq, Repr

namespace PatternError

def message : PatternError → String
  | unreadable => "error building NFA"
  | wordBoundary => "unsupported regex feature for DFAs: cannot build DFAs for regexes with " ++
      "Unicode word boundaries; switch to ASCII word boundaries, or heuristically enable " ++
      "Unicode word boundaries or use a different regex engine"

end PatternError

namespace Pattern

def maxDepth : Nat := 250

namespace Literal

def isAscii (l : Literal) : Bool := l.char.toNat < 128

def isUsable (mode : Mode) (l : Literal) : Bool :=
  if mode.unicode then !mode.ignoreCase else !l.isByte || l.isAscii

def isUsableInSet (mode : Mode) (l : Literal) : Bool :=
  if mode.unicode then !mode.ignoreCase else l.isAscii

end Literal

def isShorthandUsable (mode : Mode) (negated : Bool) : Bool := !mode.unicode && !negated

namespace SetItem

mutual

def isUsable (mode : Mode) : SetItem → Bool
  | empty => true
  | literal l => l.isUsableInSet mode
  | range first last => first.isUsableInSet mode && last.isUsableInSet mode
  | named negated => if mode.unicode then !mode.ignoreCase else !negated
  | shorthand negated => isShorthandUsable mode negated
  | bracketed negated content => (mode.unicode || !negated) && isUsable mode content
  | union items => areUsable mode items
  | operation left right => isUsable mode left && isUsable mode right

def areUsable (mode : Mode) : List SetItem → Bool
  | [] => true
  | item :: rest => isUsable mode item && areUsable mode rest

end

mutual

def depth : SetItem → Nat
  | bracketed _ content => depth content + 1
  | union items => depthOfItems items + 1
  | operation left right => max (depth left) (depth right) + 1
  | _ => 0

def depthOfItems : List SetItem → Nat
  | [] => 0
  | item :: rest => max (depth item) (depthOfItems rest)

end

end SetItem

def Leaf.isUsable (mode : Mode) : Leaf → Bool
  | literal l => l.isUsable mode
  | any => mode.unicode
  | shorthand negated => isShorthandUsable mode negated
  | edge => true
  | wordBoundary => true

mutual

def isUsable : Pattern → Bool
  | empty => true
  | leaf mode l => l.isUsable mode
  | set mode negated content => (SetItem.bracketed negated content).isUsable mode
  | group body => isUsable body
  | repeated body _ => isUsable body
  | sequence items => areUsable items
  | choice branches => areUsable branches

def areUsable : List Pattern → Bool
  | [] => true
  | item :: rest => isUsable item && areUsable rest

end

mutual

def depth : Pattern → Nat
  | empty => 0
  | leaf _ _ => 0
  | set _ negated content => (SetItem.bracketed negated content).depth
  | group body => depth body + 1
  | repeated body _ => depth body + 1
  | sequence items => depthOfItems items + 1
  | choice branches => depthOfItems branches + 1

def depthOfItems : List Pattern → Nat
  | [] => 0
  | item :: rest => max (depth item) (depthOfItems rest)

end

mutual

def asksForWords : Pattern → Bool
  | leaf mode .wordBoundary => mode.unicode
  | group body => asksForWords body
  | repeated body isNever => !isNever && asksForWords body
  | sequence items => anyAsksForWords items
  | choice branches => anyAsksForWords branches
  | _ => false

def anyAsksForWords : List Pattern → Bool
  | [] => false
  | item :: rest => asksForWords item || anyAsksForWords rest

end

def fault? (cs : List Char) : Option PatternError :=
  match parse? cs with
  | none => some .unreadable
  | some pattern =>
    if !pattern.isUsable || maxDepth < pattern.depth then some .unreadable
    else if pattern.asksForWords then some .wordBoundary
    else none

end Pattern

end HostBridge
