import HostBridge.Pattern.Basic

set_option autoImplicit false

namespace HostBridge.Pattern

inductive Flag where
  | ignoreCase
  | multiLine
  | matchNewline
  | swapGreed
  | unicode
  | carriageReturn
  | ignoreBlanks
deriving DecidableEq, Repr

namespace Flag

def ofChar? : Char → Option Flag
  | 'i' => some ignoreCase
  | 'm' => some multiLine
  | 's' => some matchNewline
  | 'U' => some swapGreed
  | 'u' => some unicode
  | 'R' => some carriageReturn
  | 'x' => some ignoreBlanks
  | _ => none

end Flag

-- The mode after a flag has been switched on or off. Where lines end and how much a repetition
-- takes has no say in whether a pattern can be used.
def Mode.switch (on : Bool) (mode : Mode) : Flag → Mode
  | .ignoreCase => { mode with ignoreCase := on }
  | .unicode => { mode with unicode := on }
  | .ignoreBlanks => { mode with ignoreBlanks := on }
  | _ => mode

def Mode.switchAll? (mode : Mode) (flags : List Char) : Option Mode := do
  let (on, off) ← match flags.splitOn '-' with
    | [on] => some (on, [])
    | [on, off] => if off.isEmpty then none else some (on, off)
    | _ => none
  let on ← on.mapM Flag.ofChar?
  let off ← off.mapM Flag.ofChar?
  if (on ++ off).Nodup then some (off.foldl (Mode.switch false) (on.foldl (Mode.switch true) mode))
  else none

end HostBridge.Pattern
