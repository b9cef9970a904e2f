import HostBridge.Number.Binary64

/-!
A decimal reads back as `x` when it lies in the interval of reals that round to `x`, whose ends
belong to it when the significand is even. If any point of a decimal grid lies in the interval, so
does one of the two grid points next to `x`; hence it is enough to look at those two, on the grids
of one digit, two digits and so on.
-/

set_option autoImplicit false

namespace HostBridge

structure Decimal where
  digits : Nat
  exponent : Int
deriving DecidableEq, Inhabited, Repr

inductive TieRule
  | toEven
  | away
deriving DecidableEq

namespace Binary64

def tensToReach (d : Nat) : Nat → Nat → Nat
  | 0, _ => 0
  | fuel + 1, a => if d ≤ a then 0 else tensToReach d fuel (10 * a) + 1

def leadingExponent (x : Binary64) : Int :=
  if grainsPerOne ≤ x.magnitude then
    ((Nat.toDigits 10 (x.magnitude / grainsPerOne)).length : Int) - 1
  else -(tensToReach grainsPerOne 330 x.magnitude : Int)

def halfGaps (x : Binary64) : Nat × Nat :=
  (if x.significand = 1 <<< 52 ∧ 0 < x.unit then 1 <<< x.unit else 2 <<< x.unit, 2 <<< x.unit)

def onGrid? (tie : TieRule) (x : Binary64) (exponent : Int) : Option Decimal :=
  let step := 4 * grainsPerOne * Nat.pow 10 exponent.toNat
  let scale := Nat.pow 10 (-exponent).toNat
  let value := 4 * x.magnitude * scale
  let low := value - x.halfGaps.1 * scale
  let high := value + x.halfGaps.2 * scale
  let readsBack := fun point =>
    if x.significand % 2 = 0 then decide (low ≤ point ∧ point ≤ high)
    else decide (low < point ∧ point < high)
  let below := value / step
  let takeAbove :=
    readsBack ((below + 1) * step) &&
      (!readsBack (below * step) ||
        (let rest := 2 * (value % step)
         decide (step < rest) || (rest == step && (tie == .away || below % 2 == 1))))
  if takeAbove then some ⟨below + 1, exponent⟩
  else if readsBack (below * step) then some ⟨below, exponent⟩
  else none

-- The shortest decimal that reads back as a finite number, and the nearest of those. Seventeen
-- digits always read back.
def shortest (tie : TieRule) (x : Binary64) : Decimal :=
  if x.magnitude = 0 then ⟨0, 0⟩
  else
    ((List.range 17).findSome? fun (n : Nat) => x.onGrid? tie (x.leadingExponent - n)).getD ⟨0, 0⟩

end Binary64

end HostBridge
