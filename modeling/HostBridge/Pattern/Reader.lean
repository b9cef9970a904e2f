import HostBridge.Pattern.Flag
import HostBridge.Pattern.Set
import HostBridge.Text.Letter

set_option autoImplicit false

namespace HostBridge.Pattern

structure Context where
  mode : Mode
  names : List (List Char)

def isNameStart (c : Char) : Bool := c == '_' || Text.isLetter c

def isNamePart (c : Char) : Bool :=
  c == '_' || c == '.' || c == '[' || c == ']' || Text.isAlphanumeric c

def isName : List Char → Bool
  | [] => false
  | c :: rest => isNameStart c && rest.all isNamePart

def readName (context : Context) (cs : List Char) : Option (Context × List Char) :=
  let name := cs.takeWhile (· != '>')
  match cs.dropWhile (· != '>') with
  | [] => none
  | _ :: rest =>
    if isName name && !context.names.contains name then
      some ({ context with names := name :: context.names }, rest)
    else none

inductive Opening where
  | group (context : Context)
  | flags (mode : Mode)

def readOpening (context : Context) : List Char → Option (Opening × List Char)
  | '?' :: 'P' :: '<' :: rest => do
    let (context, rest) ← readName context rest
    some (.group context, rest)
  | '?' :: '<' :: rest => do
    let (context, rest) ← readName context rest
    some (.group context, rest)
  | '?' :: rest =>
    let isEnd (c : Char) : Bool := c == ':' || c == ')'
    let flags := rest.takeWhile (!isEnd ·)
    match rest.dropWhile (!isEnd ·) with
    | ':' :: rest => do
      let mode ← context.mode.switchAll? flags
      some (.group { context with mode := mode }, rest)
    | ')' :: rest => do
      let mode ← if flags.isEmpty then none else context.mode.switchAll? flags
      some (.flags mode, rest)
    | _ => none
  | rest => some (.group context, rest)

def skipLazy : List Char → List Char
  | '?' :: rest => rest
  | rest => rest

def readCount (mode : Mode) (cs : List Char) : Option (Nat × List Char) := do
  let cs := (mode.skip cs).dropWhile Text.isBlank
  let (digits, rest) := mode.run Char.isDigit cs.length cs
  match mode.skip (rest.dropWhile Text.isBlank) with
  | '\x7d' :: rest =>
    let count := Text.digitsValue digits
    if digits.isEmpty || 1 <<< 32 ≤ count then none
    else some (count, skipLazy (mode.skip rest))
  | _ => none

def repeatLast (isNever : Bool) : List Pattern → Option (List Pattern)
  | [] => none
  | empty :: _ => none
  | item :: items => some (repeated item isNever :: items)

def readLeaf (mode : Mode) : List Char → Option (Leaf × List Char)
  | [] => none
  | '\\' :: rest => readEscape mode rest
  | '.' :: rest => some (.any, rest)
  | '^' :: rest => some (.edge, rest)
  | '$' :: rest => some (.edge, rest)
  | c :: rest => some (.literal ⟨c, false⟩, rest)

def close (branches items : List Pattern) : Pattern :=
  match branches with
  | [] => ofItems items.reverse
  | branches => choice (ofItems items.reverse :: branches).reverse

def readBody : Nat → Context → List Pattern → List Pattern → List Char →
    Option (Pattern × Context × List Char)
  | 0, _, _, _, _ => none
  | fuel + 1, context, branches, items, cs =>
    let mode := context.mode
    match mode.skip cs with
    | [] => some (close branches items, context, [])
    | ')' :: rest => some (close branches items, context, ')' :: rest)
    | '|' :: rest => readBody fuel context (ofItems items.reverse :: branches) [] rest
    | '(' :: rest => do
      let (opening, rest) ← readOpening context (mode.skip rest)
      match opening with
      | .flags mode =>
        readBody fuel { context with mode := mode } branches (empty :: items) rest
      | .group inner =>
        let (body, inner, rest) ← readBody fuel inner [] [] rest
        match rest with
        | ')' :: rest =>
          readBody fuel { inner with mode := mode } branches (group body :: items) rest
        | _ => none
    | '[' :: rest => do
      let ((negated, content), rest) ← readSet (2 * rest.length + 2) mode rest
      readBody fuel context branches (set mode negated content :: items) rest
    | '\x7b' :: rest => do
      let (count, rest) ← readCount mode rest
      let items ← repeatLast (count == 0) items
      readBody fuel context branches items rest
    | c :: rest => do
      if c == '*' || c == '+' || c == '?' then
        let items ← repeatLast false items
        readBody fuel context branches items (skipLazy rest)
      else
        let (item, rest) ← readLeaf mode (c :: rest)
        readBody fuel context branches (leaf mode item :: items) rest

def parse? (cs : List Char) : Option Pattern :=
  match readBody cs.length.succ ⟨.plain, []⟩ [] [] cs with
  | some (pattern, _, []) => some pattern
  | _ => none

end HostBridge.Pattern
