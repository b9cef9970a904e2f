import HostBridge.Config.Basic
import HostBridge.Pattern.Check

set_option autoImplicit false

namespace HostBridge.Filter

inductive FilterError where
  | directive
  | level
  | field (e : PatternError)
deriving DecidableEq, Repr

namespace FilterError

def message : FilterError → String
  | directive => "invalid filter directive"
  | level => "error parsing level filter: expected one of \"off\", \"error\", \"warn\", " ++
      "\"info\", \"debug\", \"trace\", or a number 0-5"
  | field e => s!"invalid field filter: {e.message}"

end FilterError

inductive Part where
  | start
  | levelOrTarget
  | span
  | field (offset : Nat)
  | fields
  | target
  | level (offset : Nat)

def startsName (c : Char) : Bool :=
  c == '-' || c == ':' || c == '_' || Text.isAlphanumeric c

def fromByte : Nat → List Char → List Char
  | 0, cs => cs
  | _, [] => []
  | n + 1, c :: rest => fromByte (n + 1 - c.utf8Size) rest

def inBytes : Nat → List Char → List Char
  | 0, _ => []
  | _, [] => []
  | n + 1, c :: rest => c :: inBytes (n + 1 - c.utf8Size) rest

def readPlaces : List Char → List Char × List Char
  | '.' :: rest => Text.readDigits rest
  | rest => ([], rest)

def isExponent : List Char → Bool
  | [] => true
  | c :: rest =>
    let digits := match rest with
      | '+' :: rest => rest
      | '-' :: rest => rest
      | rest => rest
    (c == 'e' || c == 'E') && !digits.isEmpty && digits.all Char.isDigit

def isUnsignedNumber (cs : List Char) : Bool :=
  let (whole, rest) := Text.readDigits cs
  let (places, rest) := readPlaces rest
  ["inf", "infinity", "nan"].contains (String.ofList (cs.map Char.toLower)) ||
    (!(whole.isEmpty && places.isEmpty) && isExponent rest)

def isNumber : List Char → Bool
  | '+' :: rest => isUnsignedNumber rest
  | '-' :: rest => isUnsignedNumber rest
  | cs => isUnsignedNumber cs

def fieldFault? (field : List Char) : Option FilterError :=
  match field.splitOn '=' with
  | _ :: value :: _ => if isNumber value then none else (Pattern.fault? value).map .field
  | _ => if field.isEmpty then some .directive else none

def next (directive : List Char) (part : Part) (c : Char) (offset : Nat) :
    Except FilterError Part :=
  match part, c with
  | .start, '[' => .ok .span
  | .start, c => if startsName c then .ok .levelOrTarget else .error .directive
  | .levelOrTarget, '=' => .ok (.level (offset + 1))
  | .levelOrTarget, '[' => .ok .span
  | .levelOrTarget, _ => .ok .levelOrTarget
  | .span, ']' => .ok .target
  | .span, '\x7b' => .ok (.field (offset + 1))
  | .span, _ => .ok .span
  | .field first, '\x7d' =>
    match fieldFault? (inBytes (offset - first) (fromByte first directive)) with
    | some e => .error e
    | none => .ok .fields
  | .field first, _ => .ok (.field first)
  | .fields, ']' => .ok .target
  | .fields, _ => .error .directive
  | .target, '=' => .ok (.level (offset + 1))
  | .target, _ => .error .directive
  | .level first, _ => .ok (.level first)

def lastPart (directive : List Char) : Part → Nat → List Char → Except FilterError Part
  | part, _, [] => .ok part
  | part, offset, c :: rest => do
    let part ← next directive part c offset
    lastPart directive part (offset + c.utf8Size) rest

def levelNames : List String := ["off", "error", "warn", "info", "debug", "trace"]

def isLevel (text : List Char) : Bool :=
  let number := match text with
    | '+' :: rest => rest
    | text => text
  text.isEmpty || levelNames.contains (String.ofList (text.map Char.toLower)) ||
    (!number.isEmpty && number.all Char.isDigit &&
      decide (Text.digitsValue number ≤ 5))

-- What is wrong with a directive. The parts are found without the white space at its ends, but
-- fields and a level are taken from the whole of it, so white space in front shifts them.
def checkDirective (cs : List Char) : Option FilterError :=
  match lastPart cs .start 0 (Text.trim cs) with
  | .error e => some e
  | .ok (.level offset) => if isLevel (fromByte offset cs) then none else some .level
  | .ok .levelOrTarget => none
  | .ok .target => none
  | .ok _ => some .directive

def fault? (filter : String) : Option FilterError :=
  ((filter.toList.splitOn ',').filter (!·.isEmpty)).findSome? checkDirective

def check (filter : String) : Except ConfigError Unit :=
  match fault? filter with
  | some e => .error (.invalid s!"logging.filter: {e.message}")
  | none => .ok ()

end HostBridge.Filter
