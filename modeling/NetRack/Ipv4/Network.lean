import NetRack.Ipv4.Address

/-!
# IPv4 networks

A network is a base address and a length: the addresses that agree with the base in their first
`length` bits.  Its mask is written as a length, as a netmask or as a hostmask.
-/

namespace NetRack

namespace Address

/-- The netmask of a length: that many ones, then zeros. -/
def netmask (length : Nat) : Address := ⟨BitVec.allOnes 32 <<< (32 - length)⟩

/-- The address with the bits past a length cleared. -/
def masked (a : Address) (length : Nat) : Address := ⟨a.bits &&& (netmask length).bits⟩

theorem masked_masked (a : Address) (length : Nat) :
    (a.masked length).masked length = a.masked length := by
  simp only [masked, BitVec.and_assoc, BitVec.and_self]

/-- The length of which the address is the netmask. -/
def netmaskLength? (a : Address) : Option Nat := (List.range 33).find? fun n => netmask n = a

/-- Whether the address is the netmask of some length. -/
def isNetmask (a : Address) : Bool := a.netmaskLength?.isSome

theorem netmask_of_netmaskLength? {a : Address} {n : Nat} (h : a.netmaskLength? = some n) :
    netmask n = a := by
  simpa using List.find?_some h

end Address

/-- The addresses that share their first `length` bits with the base. -/
structure Network where
  base : Address
  length : Nat
  aligned : base.masked length = base
deriving DecidableEq

namespace Network

/-- The network of a length that an address lies in. -/
def around (a : Address) (length : Nat) : Network := ⟨a.masked length, length, a.masked_masked length⟩

/-- The mask of the network. -/
def mask (n : Network) : Address := Address.netmask n.length

/-- Whether an address lies in the network. -/
def contains (n : Network) (a : Address) : Bool := a.masked n.length = n.base

/-- The last address of the network. -/
def broadcast (n : Network) : Address := ⟨n.base.bits ||| ~~~n.mask.bits⟩

/-- How many addresses the network has. -/
def size (n : Network) : Nat := Nat.pow 2 (32 - n.length)

/-- Whether two networks share an address. -/
def overlaps (m n : Network) : Bool :=
  m.contains n.base || m.contains n.broadcast || n.contains m.base || n.contains m.broadcast

/-- The base and the length, separated by a slash. -/
def text (n : Network) : String := n.base.text ++ "/" ++ Text.natText n.length

/-- The length that a text gives as a plain number. -/
def readLength? (cs : List Char) : Option Nat :=
  if Text.arePlainDigits cs then (Text.readDigits? cs).filter (· ≤ 32) else none

/-- The length that a text gives as a number, a netmask or a hostmask. -/
def readMask (s : String) : Except Fault Nat :=
  let cs := s.toList
  match readLength? cs with
  | some n => .ok n
  | none =>
    match Address.readChars? cs with
    | none => .error .badMask
    | some a =>
      match a.netmaskLength? with
      | some n => .ok n
      | none =>
        match a.complement.netmaskLength? with
        | some n => .ok n
        | none => .error .badMask

/-- An address and the length of its mask, both given as text. -/
def readPair (address mask : String) : Except Fault (Address × Nat) :=
  if address.toList.contains '/' || mask.toList.contains '/' then .error .badAddress
  else do
    let a ← Address.read address
    let length ← readMask mask
    return (a, length)

/-- The network that an address with its mask lies in. -/
def readAround (address mask : String) : Except Fault Network := do
  let (a, length) ← readPair address mask
  return around a length

/-- The network whose base and mask are given; the base may have no bits past the mask. -/
def read (base mask : String) : Except Fault Network := do
  let (a, length) ← readPair base mask
  if h : a.masked length = a then return ⟨a, length, h⟩ else .error .hostBits

/-- The length of the networks in the class of a first octet. -/
def classLength (firstOctet : Int) : Nat :=
  if firstOctet < 128 then 8 else if firstOctet < 192 then 16 else 24

/-- The network that an address lies in by the class of its first octet. -/
def classful (address : Address) : Network :=
  around address (classLength (address.octets.headD 0))

/-- The network that an address given as text lies in by the class of its first octet, which has to
be a number. -/
def readClassful (address : String) : Except Fault Network := do
  let octet ← needNumber (Text.readInteger? (address.toList.takeWhile (· ≠ '.')))
  readAround address (Text.natText (classLength octet))

example : (read "10.0.0.0" "0.0.0.255").toOption.map text = some "10.0.0.0/24" := by decide
example : (read "10.0.0.1" "24").toOption = none := by decide

end Network

end NetRack
