import NetRack.Fault
import NetRack.Text.Numeral

/-!
# IPv4 addresses

An address is a word of 32 bits, written as four decimal octets.  Each octet has one to three
digits and no zeros in front.
-/

namespace NetRack

/-- An address, or a mask or wildcard, which have the same form. -/
structure Address where
  bits : BitVec 32
deriving DecidableEq, Repr, Inhabited

namespace Address

/-- The address as a number. -/
def toNat (a : Address) : Nat := a.bits.toNat

/-- The address of four octets. -/
def ofOctets (a b c d : Nat) : Address :=
  ⟨BitVec.ofNat 32 (((a * 256 + b) * 256 + c) * 256 + d)⟩

/-- The address of all zeros. -/
def zero : Address := ⟨0⟩

/-- The address of all ones. -/
def ones : Address := ⟨BitVec.allOnes 32⟩

/-- The four octets. -/
def octets (a : Address) : List Nat :=
  [a.toNat / 16777216, a.toNat / 65536 % 256, a.toNat / 256 % 256, a.toNat % 256]

/-- The octets in decimal, separated by points. -/
def text (a : Address) : String := String.intercalate "." (a.octets.map Text.natText)

/-- The value of an octet. -/
def readOctet? (cs : List Char) : Option Nat :=
  if !Text.arePlainDigits cs || cs.length > 3 then none
  else if cs.length > 1 && cs.head? = some '0' then none
  else
    let n := Text.digitsValue cs
    if n ≤ 255 then some n else none

/-- The pieces between the characters that equal `mark`. -/
def splitChars (mark : Char) (pending : List Char) : List Char → List (List Char)
  | [] => [pending.reverse]
  | c :: rest =>
    if c = mark then pending.reverse :: splitChars mark [] rest
    else splitChars mark (c :: pending) rest

/-- The address that characters spell. -/
def readChars? (cs : List Char) : Option Address :=
  match splitChars '.' [] cs with
  | [a, b, c, d] => do
    return ofOctets (← readOctet? a) (← readOctet? b) (← readOctet? c) (← readOctet? d)
  | _ => none

/-- The address that a text spells. -/
def read? (s : String) : Option Address := readChars? s.toList

/-- The address that a text must spell. -/
def read (s : String) : Except Fault Address :=
  match read? s with
  | some a => .ok a
  | none => .error .badAddress

/-- The address that a field must hold. -/
def readField : Option String → Except Fault Address
  | some s => read s
  | none => .error .badAddress

/-- The address with every bit flipped. -/
def complement (a : Address) : Address := ⟨~~~a.bits⟩

/-- Whether two addresses agree in every bit that the wildcard leaves at zero. -/
def agree (wildcard a b : Address) : Bool :=
  a.bits &&& ~~~wildcard.bits == b.bits &&& ~~~wildcard.bits

instance : Ord Address := ⟨fun a b => compare a.toNat b.toNat⟩

instance : LE Address := ⟨fun a b => a.toNat ≤ b.toNat⟩
instance (a b : Address) : Decidable (a ≤ b) := inferInstanceAs (Decidable (a.toNat ≤ b.toNat))

instance : LT Address := ⟨fun a b => a.toNat < b.toNat⟩
instance (a b : Address) : Decidable (a < b) := inferInstanceAs (Decidable (a.toNat < b.toNat))

example : (read? "10.0.0.255").map text = some "10.0.0.255" := by decide
example : read? "10.0.0.01" = none := by decide
example : read? "10.0.0" = none := by decide

end Address

end NetRack
