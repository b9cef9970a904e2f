import HostBridge.Text.Chars

set_option autoImplicit false

namespace HostBridge.Toml

def isSpace (c : Char) : Bool := c == ' ' || c == '\t'

def isText (c : Char) : Bool := c == '\t' || (decide (32 ≤ c.toNat) && c.toNat != 127)

def isBasicText (c : Char) : Bool := isText c && c != '"' && c != '\\'

def isLiteralText (c : Char) : Bool := isText c && c != '\''

def isBare (c : Char) : Bool := c.isAlphanum || c == '_' || c == '-'

def skipSpace (cs : List Char) : List Char := cs.dropWhile isSpace

def newline? : List Char → Option (List Char)
  | '\n' :: rest => some rest
  | '\r' :: '\n' :: rest => some rest
  | _ => none

def skipBlank : List Char → List Char
  | ' ' :: rest => skipBlank rest
  | '\t' :: rest => skipBlank rest
  | '\n' :: rest => skipBlank rest
  | '\r' :: '\n' :: rest => skipBlank rest
  | cs => cs

def skipComment : List Char → List Char
  | '#' :: rest => rest.dropWhile isText
  | cs => cs

def lineEnd? (cs : List Char) : Option (List Char) :=
  match skipComment (skipSpace cs) with
  | [] => some []
  | rest => newline? rest

def readCode (digits : Nat) (cs : List Char) : Option (Char × List Char) := do
  let code := cs.take digits
  if code.length < digits then none
  else
    let c ← (Text.hexDigits? code).bind Text.charOf?
    some (c, cs.drop digits)

def readEscape : List Char → Option (Char × List Char)
  | 'b' :: rest => some ('\x08', rest)
  | 't' :: rest => some ('\t', rest)
  | 'n' :: rest => some ('\n', rest)
  | 'f' :: rest => some ('\x0c', rest)
  | 'r' :: rest => some ('\r', rest)
  | '"' :: rest => some ('"', rest)
  | '\\' :: rest => some ('\\', rest)
  | 'u' :: rest => readCode 4 rest
  | 'U' :: rest => readCode 8 rest
  | _ => none

def readBasicBody : Nat → List Char → List Char → Option (String × List Char)
  | 0, _, _ => none
  | fuel + 1, taken, cs =>
    match cs with
    | '"' :: rest => some (String.ofList taken.reverse, rest)
    | '\\' :: rest => do
      let (c, rest) ← readEscape rest
      readBasicBody fuel (c :: taken) rest
    | c :: rest => if isBasicText c then readBasicBody fuel (c :: taken) rest else none
    | [] => none

def readBasic (cs : List Char) : Option (String × List Char) := readBasicBody (cs.length + 1) [] cs

def readLiteral (cs : List Char) : Option (String × List Char) :=
  match cs.dropWhile isLiteralText with
  | '\'' :: rest => some (String.ofList (cs.takeWhile isLiteralText), rest)
  | _ => none

-- A run of quotes inside a string of several lines: up to two belong to the string; from three on,
-- the last three end it, and what is before them still belongs to it.
inductive QuoteRun where
  | inside (count : Nat)
  | ending (count : Nat)
  | tooLong

def quoteRun (count : Nat) : QuoteRun :=
  if count ≤ 2 then .inside count else if count ≤ 5 then .ending (count - 3) else .tooLong

def readLines (quote : Char) (isContent : Char → Bool) (escapes : Bool) :
    Nat → List Char → List Char → Option (String × List Char)
  | 0, _, _ => none
  | fuel + 1, taken, cs =>
    match cs with
    | [] => none
    | c :: rest =>
      if c = quote then
        let count := (cs.takeWhile (· == quote)).length
        match quoteRun count with
        | .inside n =>
          readLines quote isContent escapes fuel (List.replicate n quote ++ taken) (cs.drop n)
        | .ending n =>
          some (String.ofList (taken.reverse ++ List.replicate n quote), cs.drop count)
        | .tooLong => none
      else if escapes && c == '\\' then
        match newline? (skipSpace rest) with
        | some rest => readLines quote isContent escapes fuel taken (skipBlank rest)
        | none => do
          let (c, rest) ← readEscape rest
          readLines quote isContent escapes fuel (c :: taken) rest
      else
        match newline? cs with
        | some rest => readLines quote isContent escapes fuel ('\n' :: taken) rest
        | none =>
          if isContent c then readLines quote isContent escapes fuel (c :: taken) rest else none

def skipFirstNewline (cs : List Char) : List Char := (newline? cs).getD cs

def readString : List Char → Option (String × List Char)
  | '"' :: '"' :: '"' :: rest =>
    readLines '"' isBasicText true (rest.length + 1) [] (skipFirstNewline rest)
  | '"' :: rest => readBasic rest
  | '\'' :: '\'' :: '\'' :: rest =>
    readLines '\'' isLiteralText false (rest.length + 1) [] (skipFirstNewline rest)
  | '\'' :: rest => readLiteral rest
  | _ => none

def readSimpleKey : List Char → Option (String × List Char)
  | '"' :: rest => readBasic rest
  | '\'' :: rest => readLiteral rest
  | cs =>
    let bare := cs.takeWhile isBare
    if bare.isEmpty then none else some (String.ofList bare, cs.dropWhile isBare)

def depthLimit : Nat := 80

def readKeyParts : Nat → List Char → Option (List String × List Char)
  | 0, _ => none
  | fuel + 1, cs =>
    match cs with
    | '.' :: rest => do
      let (part, rest) ← readSimpleKey (skipSpace rest)
      let (parts, rest) ← readKeyParts fuel (skipSpace rest)
      some (part :: parts, rest)
    | rest => some ([], rest)

def readKey (cs : List Char) : Option (List String × String × List Char) := do
  let (first, rest) ← readSimpleKey (skipSpace cs)
  let (others, rest) ← readKeyParts (rest.length + 1) (skipSpace rest)
  let parts := first :: others
  if parts.length < depthLimit then some (parts.dropLast, others.getLast?.getD first, rest)
  else none

end HostBridge.Toml
