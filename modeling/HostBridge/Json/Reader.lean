import HostBridge.Json.Basic
import HostBridge.KeyMap
import HostBridge.Number.Rounding
import HostBridge.Text.Chars

set_option autoImplicit false

namespace HostBridge.Json

open Text (charOf? digitsValue hexDigits? readDigits)

def skipBlank (cs : List Char) : List Char :=
  cs.dropWhile fun c => c == ' ' || c == '\t' || c == '\n' || c == '\r'

def readEscapedUnit : List Char → Option (Char × List Char)
  | a :: b :: c :: d :: rest => do
    let unit ← hexDigits? [a, b, c, d]
    if 0xd800 ≤ unit ∧ unit < 0xdc00 then
      match rest with
      | '\\' :: 'u' :: a :: b :: c :: d :: rest =>
        let low ← hexDigits? [a, b, c, d]
        if 0xdc00 ≤ low ∧ low < 0xe000 then
          let c ← charOf? (0x10000 + (unit - 0xd800) * 0x400 + (low - 0xdc00))
          some (c, rest)
        else none
      | _ => none
    else
      let c ← charOf? unit
      some (c, rest)
  | _ => none

def readStringBody : Nat → List Char → List Char → Option (String × List Char)
  | 0, _, _ => none
  | fuel + 1, taken, cs =>
    match cs with
    | '"' :: rest => some (String.ofList taken.reverse, rest)
    | '\\' :: 'u' :: rest => do
      let (c, rest) ← readEscapedUnit rest
      readStringBody fuel (c :: taken) rest
    | '\\' :: c :: rest => do
      let c ← match c with
        | '"' => some '"'
        | '\\' => some '\\'
        | '/' => some '/'
        | 'b' => some '\x08'
        | 'f' => some '\x0c'
        | 'n' => some '\n'
        | 'r' => some '\r'
        | 't' => some '\t'
        | _ => none
      readStringBody fuel (c :: taken) rest
    | c :: rest => if c.toNat < 32 then none else readStringBody fuel (c :: taken) rest
    | [] => none

def ofNumberParts (negative : Bool) (whole places : List Char) (exponent : Option Int) : Json :=
  let digits := digitsValue (whole ++ places)
  let integer := places.isEmpty && exponent.isNone
  if integer && !negative && digits < 1 <<< 64 then int digits
  else if integer && negative && digits != 0 && digits ≤ 1 <<< 63 then int (-digits)
  else float (Binary64.ofDecimal negative digits (exponent.getD 0 - places.length))

def readPlaces : List Char → Option (List Char × List Char)
  | '.' :: rest =>
    let (digits, rest) := readDigits rest
    if digits.isEmpty then none else some (digits, rest)
  | rest => some ([], rest)

def readExponentDigits (negative : Bool) (cs : List Char) : Option (Option Int × List Char) :=
  let (digits, rest) := readDigits cs
  if digits.isEmpty then none
  else
    let size : Int := digitsValue digits
    some (some (if negative then -size else size), rest)

def readExponent : List Char → Option (Option Int × List Char)
  | c :: rest =>
    if c == 'e' || c == 'E' then
      match rest with
      | '+' :: rest => readExponentDigits false rest
      | '-' :: rest => readExponentDigits true rest
      | rest => readExponentDigits false rest
    else some (none, c :: rest)
  | [] => some (none, [])

def readUnsigned (negative : Bool) (cs : List Char) : Option (Json × List Char) := do
  let (whole, rest) := readDigits cs
  if whole.isEmpty || (whole.length > 1 && whole.head? == some '0') then none
  else
    let (places, rest) ← readPlaces rest
    let (exponent, rest) ← readExponent rest
    some (ofNumberParts negative whole places exponent, rest)

def readNumber : List Char → Option (Json × List Char)
  | '-' :: rest => readUnsigned true rest
  | cs => readUnsigned false cs

mutual

def readValue : Nat → List Char → Option (Json × List Char)
  | 0, _ => none
  | fuel + 1, cs =>
    match skipBlank cs with
    | 'n' :: 'u' :: 'l' :: 'l' :: rest => some (null, rest)
    | 't' :: 'r' :: 'u' :: 'e' :: rest => some (bool true, rest)
    | 'f' :: 'a' :: 'l' :: 's' :: 'e' :: rest => some (bool false, rest)
    | '"' :: rest => do
      let (s, rest) ← readStringBody (rest.length + 1) [] rest
      some (string s, rest)
    | '[' :: rest =>
      match skipBlank rest with
      | ']' :: rest => some (array [], rest)
      | rest => do
        let (items, rest) ← readItems fuel rest
        some (array items, rest)
    | '\x7b' :: rest =>
      match skipBlank rest with
      | '\x7d' :: rest => some (object [], rest)
      | rest => do
        let (fields, rest) ← readFields fuel rest
        some (object (KeyMap.ofList fields), rest)
    | rest => readNumber rest

def readItems : Nat → List Char → Option (List Json × List Char)
  | 0, _ => none
  | fuel + 1, cs => do
    let (item, rest) ← readValue fuel cs
    match skipBlank rest with
    | ',' :: rest => do
      let (items, rest) ← readItems fuel rest
      some (item :: items, rest)
    | ']' :: rest => some ([item], rest)
    | _ => none

def readFields : Nat → List Char → Option (List (String × Json) × List Char)
  | 0, _ => none
  | fuel + 1, cs => do
    match skipBlank cs with
    | '"' :: rest =>
      let (name, rest) ← readStringBody (rest.length + 1) [] rest
      match skipBlank rest with
      | ':' :: rest =>
        let (value, rest) ← readValue fuel rest
        match skipBlank rest with
        | ',' :: rest =>
          let (fields, rest) ← readFields fuel rest
          some ((name, value) :: fields, rest)
        | '\x7d' :: rest => some ([(name, value)], rest)
        | _ => none
      | _ => none
    | _ => none

end

def parse? (text : String) : Option Json := do
  let cs := text.toList
  let (value, rest) ← readValue (cs.length + 1) cs
  if (skipBlank rest).isEmpty then some value else none

end HostBridge.Json
