import NetRack.Device.Basic
import NetRack.Grammar.Node

/-!
# Arguments

Each kind of argument accepts some words and gives each a value.  Addresses, masks, numbers,
stations and interface names have one written form each, whatever the user wrote.
-/

namespace NetRack

/-- The value of an argument. -/
inductive ArgValue where
  | text (s : String)
  | address (a : Address)
  | int (n : Int)
  | vlans (ids : List Int)
deriving DecidableEq

/-- The written form of a value. -/
def ArgValue.shown : ArgValue → String
  | text s => s
  | address a => a.text
  | int n => Text.intText n
  | vlans ids => "[" ++ Text.commaSeparated (ids.map Text.intText) ++ "]"

/-- Why a word is no argument: it is refused, or looking at it failed. -/
inductive ArgumentFault where
  | refused
  | fault (f : Fault)
deriving DecidableEq

namespace Argument

/-- A fault while looking at a word. -/
def lift : Except Fault α → Except ArgumentFault α
  | .ok x => .ok x
  | .error f => .error (.fault f)

/-- A value that must be there. -/
def accept : Option α → Except ArgumentFault α
  | some x => .ok x
  | none => .error .refused

/-- Whether a number is within bounds. -/
def withinBounds (low high : Option Int) (n : Int) : Bool :=
  low.all (· ≤ n) && high.all (n ≤ ·)

/-- A number in digits, within bounds. -/
def readInt (low high : Option Int) (cs : List Char) : Except ArgumentFault Int :=
  if Text.arePlainDigits cs then do
    let n : Int ← lift (needNumber ((Text.readDigits? cs).map fun n => (n : Int)))
    if withinBounds low high n then return n else .error .refused
  else .error .refused

/-- An address. -/
def readAddress (raw : String) : Except ArgumentFault Address := accept (Address.read? raw)

/-- A mask: ones, then zeros. -/
def readMask (raw : String) : Except ArgumentFault Address := do
  let a ← readAddress raw
  if a.isNetmask then return a else .error .refused

/-- Whether a character is a hexadecimal digit, letters in lower case. -/
def isHexDigit (c : Char) : Bool := Text.isPlainDigit c || ('a' ≤ c && c ≤ 'f')

/-- Whether characters are groups of `size` hexadecimal digits with a mark between two groups. -/
def areHexGroups (size : Nat) (isMark : Char → Bool) : Nat → List Char → Bool
  | 0, _ => false
  | 1, cs => cs.length = size && cs.all isHexDigit
  | count + 1, cs =>
    let digits := cs.take size
    digits.length = size && digits.all isHexDigit &&
      match cs.drop size with
      | c :: rest => isMark c && areHexGroups size isMark count rest
      | [] => false

/-- A station address, as three groups of four digits or six groups of two. -/
def readStation (raw : String) : Except ArgumentFault String :=
  let cs := Text.lowerChars raw.toList
  let body := if cs.getLast? = some '\n' then cs.dropLast else cs
  if areHexGroups 4 (· == '.') 3 body || areHexGroups 2 (fun c => c == ':' || c == '-') 6 body then
    let ds := cs.filter isHexDigit
    .ok (String.ofList (ds.take 4 ++ ['.'] ++ (ds.drop 4).take 4 ++ ['.'] ++ ds.drop 8))
  else .error .refused

/-- The number of a VLAN. -/
def readVlan (cs : List Char) : Except ArgumentFault Int := readInt (some 1) (some 4094) cs

/-- One part of a list of VLANs: a number, or two numbers with a hyphen between. -/
def readVlanPart (part : List Char) : Except ArgumentFault VlanSet :=
  if part.contains '-' then do
    let low ← readVlan (part.takeWhile (· ≠ '-'))
    let high ← readVlan ((part.dropWhile (· ≠ '-')).drop 1)
    if low ≤ high then return .interval low (high - low + 1).toNat else .error .refused
  else do return .single (← readVlan part)

/-- The VLANs that parts separated by commas list. -/
def readVlanSet (raw : String) : Except ArgumentFault VlanSet :=
  (Address.splitChars ',' [] raw.toList).foldlM
    (fun set part => do return (← readVlanPart part).union set) .empty

/-- Whether a device may have an interface of a name, which it may not have yet. -/
def isPossibleInterface (d : Device) (name : String) : Except Fault Bool := do
  if d.interfaces.contains name then return true
  if d.isA .pc then return false
  match ← InterfaceName.kind name with
  | .loopback => return true
  | .portChannel => return true
  | .svi => return d.isA .switch
  | .subinterface =>
    let (parent, _) ← InterfaceName.split name
    if d.interfaces.contains parent then return (← InterfaceName.kind parent) == .physical
    return false
  | .physical => return false

/-- The name of an interface that a device may have. -/
def readInterface (device : Option Device) (raw : String) : Except ArgumentFault String := do
  let name ← accept (InterfaceName.normalize? raw)
  match device with
  | none => return name
  | some d => if ← lift (isPossibleInterface d name) then return name else .error .refused

/-- A next hop: an address, or the name of an interface that the device has. -/
def readNextHop (device : Option Device) (raw : String) : Except ArgumentFault ArgValue :=
  match Address.read? raw with
  | some a => .ok (.address a)
  | none => do
    let name ← accept (InterfaceName.normalize? raw)
    if device.all fun d => d.interfaces.contains name then return .text name
    .error .refused

/-- The value of a word as an argument of a kind. -/
def read (kind : ArgKind) (low high : Option Int) (device : Option Device) (raw : String) :
    Except ArgumentFault ArgValue :=
  match kind with
  | .word => .ok (.text raw)
  | .line => .ok (.text raw)
  | .int => .int <$> readInt low high raw.toList
  | .ipv4 => .address <$> readAddress raw
  | .wildcard => .address <$> readAddress raw
  | .mask => .address <$> readMask raw
  | .mac => .text <$> readStation raw
  | .interface => .text <$> readInterface device raw
  | .nextHop => readNextHop device raw
  | .vlanList => (fun s => .vlans s.ids) <$> readVlanSet raw

end Argument

end NetRack
