import HostBridge.Number.Shortest

set_option autoImplicit false

namespace HostBridge

structure NumberStyle where
  positional : Option (Int × Int)
  pointed : Bool
  plus : Bool
  tie : TieRule

namespace NumberStyle

def plain : NumberStyle := ⟨none, false, false, .away⟩

def json : NumberStyle := ⟨some (-5, 15), true, true, .toEven⟩

def diagnostic : NumberStyle := ⟨some (-4, 15), true, false, .away⟩

end NumberStyle

namespace Binary64

def zeros (n : Nat) : List Char := List.replicate n '0'

def significantDigits (d : Decimal) : List Char :=
  ((Nat.toDigits 10 d.digits).reverse.dropWhile (· == '0')).reverse

def writePositional (pointed : Bool) (digits : List Char) (lead : Int) : List Char :=
  let end_ := if pointed then ['.', '0'] else []
  if lead < 0 then
    '0' :: '.' :: zeros (-lead - 1).toNat ++ digits
  else
    let whole := lead.toNat + 1
    if digits.length ≤ whole then digits ++ zeros (whole - digits.length) ++ end_
    else digits.take whole ++ '.' :: digits.drop whole

def writeScientific (plus : Bool) (digits : List Char) (lead : Int) : List Char :=
  let mantissa :=
    match digits with
    | [] => []
    | [d] => [d]
    | d :: rest => d :: '.' :: rest
  let sign := if lead < 0 then ['-'] else if plus then ['+'] else []
  mantissa ++ 'e' :: sign ++ Nat.toDigits 10 lead.natAbs

def writeFinite (style : NumberStyle) (x : Binary64) : List Char :=
  if x.magnitude = 0 then if style.pointed then ['0', '.', '0'] else ['0']
  else
    let decimal := x.shortest style.tie
    let digits := significantDigits decimal
    let lead := decimal.exponent + (Nat.toDigits 10 decimal.digits).length - 1
    match style.positional with
    | none => writePositional style.pointed digits lead
    | some (least, greatest) =>
      if least ≤ lead ∧ lead ≤ greatest then writePositional style.pointed digits lead
      else writeScientific style.plus digits lead

def text (style : NumberStyle) (x : Binary64) : String :=
  if x.isNaN then "NaN"
  else
    let size := if x.isFinite then writeFinite style x else ['i', 'n', 'f']
    String.ofList (if x.isNegative then '-' :: size else size)

end Binary64

end HostBridge
