/-!
A finite number is `scaled` units of `2^-1074`, so that comparison, truncation and integrality are
questions about integers.
-/

set_option autoImplicit false

namespace HostBridge

structure Binary64 where
  bits : UInt64
deriving DecidableEq, Inhabited, Repr

namespace Binary64

def word (x : Binary64) : Nat := x.bits.toNat

def isNegative (x : Binary64) : Bool := decide (1 <<< 63 ≤ x.word)

def biased (x : Binary64) : Nat := x.word >>> 52 % 2048

def fraction (x : Binary64) : Nat := x.word % 1 <<< 52

def isFinite (x : Binary64) : Bool := x.biased != 2047

def isNaN (x : Binary64) : Bool := x.biased == 2047 && x.fraction != 0

def isInfinite (x : Binary64) : Bool := x.biased == 2047 && x.fraction == 0

def significand (x : Binary64) : Nat :=
  if x.biased = 0 then x.fraction else 1 <<< 52 + x.fraction

def unit (x : Binary64) : Nat := x.biased - 1

def grainsPerOne : Nat := 1 <<< 1074

def magnitude (x : Binary64) : Nat := x.significand <<< x.unit

def scaled (x : Binary64) : Int :=
  if x.isNegative then -(x.magnitude : Int) else (x.magnitude : Int)

def isZero (x : Binary64) : Bool := x.isFinite && x.magnitude == 0

def equal (x y : Binary64) : Bool :=
  !x.isNaN && !y.isNaN && (x == y || (x.isZero && y.isZero))

def isIntegral (x : Binary64) : Bool := x.isFinite && x.magnitude % grainsPerOne == 0

def truncated? (x : Binary64) : Option Int :=
  if x.isFinite then
    let whole : Int := (x.magnitude / grainsPerOne : Nat)
    some (if x.isNegative then -whole else whole)
  else none

def fitsInt32 (i : Int) : Bool := decide (-2147483648 ≤ i ∧ i < 2147483648)

def toInt32? (x : Binary64) : Option Int :=
  x.truncated?.filter fitsInt32

def maxSafe : Nat := 1 <<< 53 - 1

def safeInteger? (x : Binary64) : Option Int :=
  if x.isIntegral then x.truncated?.filter (fun i => i.natAbs ≤ maxSafe) else none

def inUnitInterval (x : Binary64) : Bool :=
  x.isFinite && decide (0 ≤ x.scaled ∧ x.scaled ≤ grainsPerOne)

end Binary64

end HostBridge
