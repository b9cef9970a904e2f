import HostBridge.Pattern.Basic
import HostBridge.Text.Chars

set_option autoImplicit false

namespace HostBridge.Pattern

def skipBlanks (inComment : Bool) : List Char → List Char
  | [] => []
  | c :: rest =>
    if inComment then skipBlanks (c != '\n') rest
    else if Text.isBlank c then skipBlanks false rest
    else if c == '#' then skipBlanks true rest
    else c :: rest

namespace Mode

def skip (mode : Mode) (cs : List Char) : List Char :=
  if mode.ignoreBlanks then skipBlanks false cs else cs

def run (mode : Mode) (isOf : Char → Bool) : Nat → List Char → List Char × List Char
  | 0, cs => ([], cs)
  | _, [] => ([], [])
  | limit + 1, c :: rest =>
    if isOf c then
      let (taken, rest) := run mode isOf limit (mode.skip rest)
      (c :: taken, rest)
    else ([], c :: rest)

end Mode

def isHex (c : Char) : Bool := (Text.hexValue? c).isSome

def charOfHex? (digits : List Char) : Option Char := (Text.hexDigits? digits).bind Text.charOf?

def readHex (mode : Mode) (count : Nat) (cs : List Char) : Option (Leaf × List Char) :=
  match mode.skip cs with
  | '\x7b' :: rest =>
    match mode.run isHex rest.length (mode.skip rest) with
    | (digits, '\x7d' :: rest) => do
      let c ← if digits.isEmpty then none else charOfHex? digits
      some (.literal ⟨c, false⟩, mode.skip rest)
    | _ => none
  | cs => do
    let (digits, rest) := mode.run isHex count cs
    let c ← if digits.length < count then none else charOfHex? digits
    some (.literal ⟨c, count == 2⟩, rest)

def boundaryNames : List String := ["start", "end", "start-half", "end-half"]

def readBoundaryKind (mode : Mode) (cs : List Char) : Option (List Char) :=
  let isOfName (c : Char) : Bool := c.isAlpha || c == '-'
  match cs with
  | '\x7b' :: inner =>
    match mode.run isOfName inner.length (mode.skip inner) with
    | ([], _ :: _) => some cs
    | (name, '\x7d' :: rest) =>
      if boundaryNames.contains (String.ofList name) then some rest else none
    | _ => none
  | _ => some cs

-- What follows a backslash. Classes by their Unicode properties are not supported, and neither are
-- references to groups.
def readEscape (mode : Mode) : List Char → Option (Leaf × List Char)
  | [] => none
  | c :: rest =>
    let special (code : Char) : Option (Leaf × List Char) := some (.literal ⟨code, false⟩, rest)
    match c with
    | 'x' => readHex mode 2 rest
    | 'u' => readHex mode 4 rest
    | 'U' => readHex mode 8 rest
    | 'd' | 's' | 'w' => some (.shorthand false, rest)
    | 'D' | 'S' | 'W' => some (.shorthand true, rest)
    | 'A' | 'z' => some (.edge, rest)
    | 'b' => (readBoundaryKind mode rest).map fun rest => (.wordBoundary, rest)
    | 'B' | '<' | '>' => some (.wordBoundary, rest)
    | 'a' => special '\x07'
    | 'f' => special '\x0c'
    | 'n' => special '\n'
    | 'r' => special '\r'
    | 't' => special '\t'
    | 'v' => special '\x0b'
    | c => if c.toNat < 128 && !c.isAlphanum then special c else none

end HostBridge.Pattern
