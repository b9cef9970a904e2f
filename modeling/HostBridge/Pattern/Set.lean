import HostBridge.Pattern.Escape

set_option autoImplicit false

namespace HostBridge.Pattern

namespace SetItem

def ofLeaf? : Leaf → Option SetItem
  | .literal l => some (literal l)
  | .shorthand negated => some (shorthand negated)
  | _ => none

def ofBounds? : Leaf → Leaf → Option SetItem
  | .literal first, .literal last =>
    if first.char ≤ last.char then some (range first last) else none
  | _, _ => none

def join (left : Option SetItem) (right : SetItem) : SetItem :=
  match left with
  | none => right
  | some left => operation left right

end SetItem

def setNames : List String :=
  ["alnum", "alpha", "ascii", "blank", "cntrl", "digit", "graph", "lower", "print", "punct",
    "space", "upper", "word", "xdigit"]

def readNamedSet? : List Char → Option (SetItem × List Char)
  | ':' :: rest =>
    let (negated, rest) := match rest with
      | '^' :: rest => (true, rest)
      | rest => (false, rest)
    match rest.dropWhile (· != ':') with
    | ':' :: ']' :: after =>
      if setNames.contains (String.ofList (rest.takeWhile (· != ':'))) then
        some (.named negated, after)
      else none
    | _ => none
  | _ => none

def readSetLeaf (mode : Mode) : List Char → Option (Leaf × List Char)
  | [] => none
  | '\\' :: rest => readEscape mode rest
  | c :: rest => some (.literal ⟨c, false⟩, rest)

def peek (mode : Mode) (cs : List Char) : Option Char :=
  if mode.ignoreBlanks then
    match cs.dropWhile Text.isBlank with
    | '#' :: rest => (rest.dropWhile Text.isBlank).head?
    | rest => rest.head?
  else cs.head?

def readSetItem (mode : Mode) (cs : List Char) : Option (SetItem × List Char) := do
  let (first, rest) ← readSetLeaf mode cs
  match mode.skip rest with
  | '-' :: after =>
    let next := peek mode after
    if next == some ']' || next == some '-' then
      let item ← SetItem.ofLeaf? first
      some (item, '-' :: after)
    else
      let (last, rest) ← readSetLeaf mode (mode.skip after)
      let item ← SetItem.ofBounds? first last
      some (item, rest)
  | rest => do
    let item ← SetItem.ofLeaf? first
    some (item, rest)

mutual

def readSet : Nat → Mode → List Char → Option ((Bool × SetItem) × List Char)
  | 0, _, _ => none
  | fuel + 1, mode, cs => do
    let (negated, cs) := match mode.skip cs with
      | '^' :: rest => (true, rest)
      | rest => (false, rest)
    let (content, rest) ← readSetItems fuel mode true none [] cs
    some ((negated, content), rest)

def readSetItems : Nat → Mode → Bool → Option SetItem → List SetItem → List Char →
    Option (SetItem × List Char)
  | 0, _, _, _, _, _ => none
  | fuel + 1, mode, inFront, left, taken, cs =>
    let listed := SetItem.join left (.ofItems taken.reverse)
    match mode.skip cs, inFront with
    | [], _ => none
    | '-' :: rest, true =>
      readSetItems fuel mode true left (.literal ⟨'-', false⟩ :: taken) rest
    | ']' :: rest, inFront =>
      if inFront && taken.isEmpty then
        readSetItems fuel mode false left [.literal ⟨']', false⟩] rest
      else some (listed, rest)
    | '[' :: rest, _ =>
      match readNamedSet? rest with
      | some (item, rest) => readSetItems fuel mode false left (item :: taken) rest
      | none => do
        let ((negated, content), rest) ← readSet fuel mode rest
        readSetItems fuel mode false left (.bracketed negated content :: taken) rest
    | '&' :: '&' :: rest, _ => readSetItems fuel mode false (some listed) [] rest
    | '-' :: '-' :: rest, _ => readSetItems fuel mode false (some listed) [] rest
    | '~' :: '~' :: rest, _ => readSetItems fuel mode false (some listed) [] rest
    | cs, _ => do
      let (item, rest) ← readSetItem mode cs
      readSetItems fuel mode false left (item :: taken) rest

end

end HostBridge.Pattern
