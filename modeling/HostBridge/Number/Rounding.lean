import HostBridge.Number.Binary64

set_option autoImplicit false

namespace HostBridge.Binary64

def ofParts (negative : Bool) (significand unit : Nat) : Binary64 :=
  ⟨.ofNat ((if negative then 1 <<< 63 else 0) +
    if significand < 1 <<< 52 then significand
    else (unit + 1) <<< 52 + (significand - 1 <<< 52))⟩

def infinity (negative : Bool) : Binary64 :=
  ⟨.ofNat ((if negative then 1 <<< 63 else 0) + 2047 <<< 52)⟩

def nan : Binary64 := ⟨.ofNat (2047 <<< 52 + 1 <<< 51)⟩

def roundQuotient (a d : Nat) : Nat :=
  let whole := a / d
  let rest := 2 * (a % d)
  if rest < d then whole
  else if d < rest then whole + 1
  else if whole % 2 = 0 then whole else whole + 1

def unitOfQuotient (a d : Nat) : Nat :=
  let guess := a.log2 - (d.log2 + 52)
  if 0 < guess ∧ a < d <<< (guess + 52) then guess - 1 else guess

def ofGrains (negative : Bool) (a d : Nat) : Binary64 :=
  let unit := unitOfQuotient a d
  let significand := roundQuotient a (d <<< unit)
  let carried := significand == 1 <<< 53
  let unit := if carried then unit + 1 else unit
  if unit ≤ 2045 then ofParts negative (if carried then 1 <<< 52 else significand) unit
  else infinity negative

def ofInt (i : Int) : Binary64 := ofGrains (decide (i < 0)) (i.natAbs * grainsPerOne) 1

-- The number nearest to `digits * 10 ^ exponent`. Exponents that leave no doubt about the answer
-- are settled without computing the power.
def ofDecimal (negative : Bool) (digits : Nat) (exponent : Int) : Binary64 :=
  if digits = 0 then ofParts negative 0 0
  else if 400 < exponent then infinity negative
  else if exponent < -(digits.log2 + 400 : Int) then ofParts negative 0 0
  else if 0 ≤ exponent then ofGrains negative (digits * Nat.pow 10 exponent.toNat * grainsPerOne) 1
  else ofGrains negative (digits * grainsPerOne) (Nat.pow 10 (-exponent).toNat)

end HostBridge.Binary64
