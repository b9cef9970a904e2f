import HostBridge.Number.Rounding
import HostBridge.Text.Chars
import HostBridge.Toml.Basic

set_option autoImplicit false

namespace HostBridge.Toml

def readGrouped (isDigit : Char → Bool) : List Char → List Char × List Char
  | '_' :: c :: rest =>
    if isDigit c then
      let (digits, rest) := readGrouped isDigit rest
      (c :: digits, rest)
    else ([], '_' :: c :: rest)
  | c :: rest =>
    if isDigit c then
      let (digits, rest) := readGrouped isDigit rest
      (c :: digits, rest)
    else ([], c :: rest)
  | [] => ([], [])

def readDigits (isDigit : Char → Bool) : List Char → Option (List Char × List Char)
  | c :: rest =>
    if isDigit c then
      let (digits, rest) := readGrouped isDigit rest
      some (c :: digits, rest)
    else none
  | [] => none

def readSign : List Char → Option Bool × List Char
  | '+' :: rest => (some false, rest)
  | '-' :: rest => (some true, rest)
  | cs => (none, cs)

def readDecimal (cs : List Char) : Option (Bool × List Char × List Char) :=
  let (sign, rest) := readSign cs
  let negative := sign.getD false
  match rest with
  | '0' :: rest => some (negative, ['0'], rest)
  | rest => do
    let (digits, rest) ← readDigits Char.isDigit rest
    some (negative, digits, rest)

def valueIn (base : Nat) (digits : List Char) : Nat :=
  digits.foldl (fun n c => base * n + (Text.hexValue? c).getD 0) 0

def integer? (negative : Bool) (size : Nat) : Option Toml :=
  if negative then if size ≤ 1 <<< 63 then some (integer (-size)) else none
  else if size < 1 <<< 63 then some (integer size) else none

def readRadix (base : Nat) (isDigit : Char → Bool) (cs : List Char) :
    Option (Toml × List Char) := do
  let (digits, rest) ← readDigits isDigit cs
  let i ← integer? false (valueIn base digits)
  some (i, rest)

def readInteger : List Char → Option (Toml × List Char)
  | '0' :: 'x' :: rest => readRadix 16 (fun c => (Text.hexValue? c).isSome) rest
  | '0' :: 'o' :: rest => readRadix 8 (fun c => '0' ≤ c && c ≤ '7') rest
  | '0' :: 'b' :: rest => readRadix 2 (fun c => c == '0' || c == '1') rest
  | cs => do
    let (negative, digits, rest) ← readDecimal cs
    let i ← integer? negative (valueIn 10 digits)
    some (i, rest)

def readPlaces : List Char → Option (List Char × List Char)
  | '.' :: rest => readDigits Char.isDigit rest
  | rest => some ([], rest)

def readExponent : List Char → Option (Option Int × List Char)
  | c :: rest =>
    if c == 'e' || c == 'E' then do
      let (sign, rest) := readSign rest
      let (digits, rest) ← readDigits Char.isDigit rest
      let size : Int := valueIn 10 digits
      some (some (if sign.getD false then -size else size), rest)
    else some (none, c :: rest)
  | [] => some (none, [])

-- A number with a point or an exponent. One that is too large is refused, unless it is negative.
def readDecimalFloat (cs : List Char) : Option (Toml × List Char) := do
  let (negative, whole, rest) ← readDecimal cs
  let (places, rest) ← readPlaces rest
  let (exponent, rest) ← readExponent rest
  if places.isEmpty && exponent.isNone then none
  else
    let x := Binary64.ofDecimal negative (valueIn 10 (whole ++ places))
      (exponent.getD 0 - places.length)
    if x.isInfinite && !negative then none else some (float x, rest)

def readSpecialFloat (cs : List Char) : Option (Toml × List Char) :=
  let (sign, rest) := readSign cs
  match rest with
  | 'i' :: 'n' :: 'f' :: rest => some (float (.infinity (sign.getD false)), rest)
  | 'n' :: 'a' :: 'n' :: rest => some (float .nan, rest)
  | _ => none

def readField (digits least greatest : Nat) (cs : List Char) : Option (Nat × List Char) :=
  let field := cs.take digits
  let n := valueIn 10 field
  if field.length = digits ∧ field.all Char.isDigit ∧ least ≤ n ∧ n ≤ greatest then
    some (n, cs.drop digits)
  else none

def expect (c : Char) : List Char → Option (List Char)
  | d :: rest => if c = d then some rest else none
  | [] => none

def isLeapYear (year : Nat) : Bool := year % 4 == 0 && (year % 100 != 0 || year % 400 == 0)

def daysIn (year month : Nat) : Nat :=
  match month with
  | 2 => if isLeapYear year then 29 else 28
  | 4 | 6 | 9 | 11 => 30
  | _ => 31

def readDate (cs : List Char) : Option (List Char) := do
  let (year, rest) ← readField 4 0 9999 cs
  let rest ← expect '-' rest
  let (month, rest) ← readField 2 1 12 rest
  let rest ← expect '-' rest
  let (_, rest) ← readField 2 1 (daysIn year month) rest
  some rest

def readTime (cs : List Char) : Option (List Char) := do
  let (_, rest) ← readField 2 0 23 cs
  let rest ← expect ':' rest
  let (_, rest) ← readField 2 0 59 rest
  let rest ← expect ':' rest
  let (_, rest) ← readField 2 0 60 rest
  match rest with
  | '.' :: rest =>
    let places := rest.takeWhile Char.isDigit
    if places.isEmpty then none else some (rest.dropWhile Char.isDigit)
  | rest => some rest

def readOffset (cs : List Char) : Option (List Char) :=
  match cs with
  | 'Z' :: rest => some rest
  | 'z' :: rest => some rest
  | c :: rest =>
    if c == '+' || c == '-' then do
      let (_, rest) ← readField 2 0 23 rest
      let rest ← expect ':' rest
      let (_, rest) ← readField 2 0 59 rest
      some rest
    else some (c :: rest)
  | [] => some []

def readTimeAfterDate (cs : List Char) : Option (List Char) :=
  match cs with
  | c :: rest =>
    if c == 'T' || c == 't' || c == ' ' then
      match readTime rest with
      | some rest => readOffset rest
      | none => some cs
    else some cs
  | [] => some []

def readDatetime (cs : List Char) : Option (Toml × List Char) :=
  match readDate cs with
  | some rest => (readTimeAfterDate rest).map (datetime, ·)
  | none => (readTime cs).map (datetime, ·)

def readNumber (cs : List Char) : Option (Toml × List Char) :=
  readDatetime cs <|> readDecimalFloat cs <|> readSpecialFloat cs <|> readInteger cs

end HostBridge.Toml
