import NetRack.Fault
import NetRack.Order
import NetRack.Text.Case
import NetRack.Text.Numeral

/-!
# Interface names

An interface is named by a type and a number, such as `GigabitEthernet0/1`.  The number has parts
separated by slashes, and after a point the number of a subinterface.  A user may abbreviate the
type as long as one type only begins that way.

Names in the records of a device may be any text, so everything here answers for any text.
-/

namespace NetRack

/-- What an interface is, by its name. -/
inductive PortKind where
  | physical
  | subinterface
  | loopback
  | svi
  | portChannel
deriving DecidableEq, Repr

/-- How a kind is called. -/
def PortKind.text : PortKind → String
  | physical => "physical"
  | subinterface => "subinterface"
  | loopback => "loopback"
  | svi => "svi"
  | portChannel => "port-channel"

namespace InterfaceName

/-- The types of interfaces with their short forms. -/
def types : List (String × String) := [
  ("Ethernet", "Et"), ("FastEthernet", "Fa"), ("GigabitEthernet", "Gi"), ("Loopback", "Lo"),
  ("Port-channel", "Po"), ("Serial", "Se"), ("Vlan", "Vl")]

/-- Whether a character is a letter of the Latin alphabet without marks. -/
def isPlainLetter (c : Char) : Bool := ('A' ≤ c && c ≤ 'Z') || ('a' ≤ c && c ≤ 'z')

/-- Whether a character may occur in the type of an interface. -/
def isTypeChar (c : Char) : Bool := isPlainLetter c || c == '-'

/-- Whether a character may stand between the type and the number. -/
def isGap (c : Char) : Bool := c == ' ' || ('\t' ≤ c && c ≤ '\r')

/-- Whether a text begins with another. -/
def startsWith (start s : String) : Bool := start.toList.isPrefixOf s.toList

/-- Digits and the number of a subinterface after them. -/
def isSubNumber : List Char → Bool
  | [] => true
  | '.' :: rest => Text.arePlainDigits rest
  | _ => false

/-- Whether characters are digit groups with slashes between, and a subinterface after them.
`inGroup` tells whether the group at hand has a digit. -/
def isNumberFrom (inGroup : Bool) : List Char → Bool
  | [] => inGroup
  | c :: rest =>
    if Text.isPlainDigit c then isNumberFrom true rest
    else if c == '/' then inGroup && isNumberFrom false rest
    else inGroup && isSubNumber (c :: rest)

/-- The types that begin with an abbreviation, in lower case. -/
def matchingTypes (abbreviation : List Char) : List String :=
  (types.map Prod.fst).filter fun t => abbreviation.isPrefixOf (Text.lower t).toList

/-- The full name for what a user wrote, such as `g0/0` or `vlan 10`. -/
def normalize? (text : String) : Option String :=
  let cs := Text.trimChars text.toList
  let word := cs.takeWhile isTypeChar
  let number := (cs.dropWhile isTypeChar).dropWhile isGap
  if (word.head?.any isPlainLetter) && isNumberFrom false number then
    match matchingTypes (Text.lowerChars word) with
    | [t] => some (t ++ String.ofList number)
    | _ => none
  else none

/-- The parent of a subinterface and its digits; the name itself if it is none. -/
def splitDigits (name : String) : String × Option (List Char) :=
  let cs := name.toList
  match cs.dropWhile (· ≠ '.') with
  | _ :: digits =>
    if Text.arePlainDigits digits then (String.ofList (cs.takeWhile (· ≠ '.')), some digits)
    else (name, none)
  | [] => (name, none)

/-- The parent of a subinterface and its number; the name itself if it is none. -/
def split (name : String) : Except Fault (String × Option Nat) :=
  match splitDigits name with
  | (parent, some digits) => do return (parent, some (← needNumber (Text.readDigits? digits)))
  | (parent, none) => .ok (parent, none)

/-- What the name of an interface that is no subinterface denotes. -/
def plainKind (name : String) : PortKind :=
  if startsWith "Loopback" name then .loopback
  else if startsWith "Vlan" name then .svi
  else if startsWith "Port-channel" name then .portChannel
  else .physical

/-- What an interface is, by its name. -/
def kind (name : String) : Except Fault PortKind := do
  match (← split name).2 with
  | some _ => return .subinterface
  | none => return plainKind name

/-- The number after the first `length` characters of a name. -/
def numberAfter (length : Nat) (name : String) : Except Fault Int :=
  needNumber (Text.readInteger? (name.toList.drop length))

/-- The VLAN of a switched virtual interface. -/
def vlanOf (name : String) : Except Fault Int := numberAfter "Vlan".length name

/-- The group of a port channel. -/
def groupOf (name : String) : Except Fault Int := numberAfter "Port-channel".length name

/-- The interface of a VLAN. -/
def ofVlan (vlan : Int) : String := "Vlan" ++ Text.intText vlan

/-- The interface of a channel group. -/
def ofGroup (group : Int) : String := "Port-channel" ++ Text.intText group

/-- The line of a text, if it has one only; a line end after it does not count. -/
def singleLine? (cs : List Char) : Option (List Char) :=
  let body := if cs.getLast? = some '\n' then cs.dropLast else cs
  if body.contains '\n' then none else some body

/-- The leading letters of a name and what follows them. -/
def splitType? (name : String) : Option (List Char × List Char) :=
  let cs := name.toList
  let word := cs.takeWhile isTypeChar
  if word.isEmpty then none
  else (singleLine? (cs.dropWhile isTypeChar)).map fun rest => (word, rest)

/-- The runs of digits in a text, given the digits before it in reverse. -/
def digitRuns (pending : List Char) : List Char → List (List Char)
  | [] => if pending.isEmpty then [] else [pending.reverse]
  | c :: rest =>
    if Text.isDecimalDigit c then digitRuns (c :: pending) rest
    else if pending.isEmpty then digitRuns [] rest
    else pending.reverse :: digitRuns [] rest

/-- The numbers in a name, as written. -/
def numerals (name : String) : List (List Char) :=
  match splitType? name with
  | some (_, rest) => digitRuns [] rest
  | none => []

/-- What names are sorted by: the type as text, then the numbers as numbers. -/
structure SortKey where
  word : String
  numbers : List Nat
deriving DecidableEq, Repr

/-- Compares lists of numbers; a list comes before its continuations. -/
def compareNumbers : List Nat → List Nat → Ordering
  | [], [] => .eq
  | [], _ :: _ => .lt
  | _ :: _, [] => .gt
  | m :: ms, n :: ns => (compare m n).then (compareNumbers ms ns)

instance : Ord SortKey where
  compare a b := (compare a.word b.word).then (compareNumbers a.numbers b.numbers)

/-- What a name is sorted by. -/
def sortKey (name : String) : SortKey :=
  match splitType? name with
  | some (word, rest) => ⟨String.ofList word, (digitRuns [] rest).map Text.digitsValue⟩
  | none => ⟨name, []⟩

/-- Whether every number of a name can be read. -/
def isSortable (name : String) : Bool := (numerals name).all fun ds => (Text.readDigits? ds).isSome

/-- What a name is sorted by, if its numbers can be read. -/
def readSortKey (name : String) : Except Fault SortKey :=
  if isSortable name then .ok (sortKey name) else .error .badNumber

/-- The name with a short type. -/
def short (name : String) : String :=
  match splitType? name with
  | some (word, rest) =>
    let t := String.ofList word
    ((types.find? fun e => e.1 = t).map Prod.snd).getD t ++ String.ofList rest
  | none => name

/-- The locally administered station address that belongs to a text. -/
def stationAddress (text : String) : String :=
  let h := text.toUTF8.toList.foldl (fun h b => (h * 131 + b.toNat) % 4294967296) 0
  let hexByte (n : Nat) : List Char := [Nat.digitChar (n / 16 % 16), Nat.digitChar (n % 16)]
  let point := ['.']
  String.ofList
    (hexByte 2 ++ hexByte (h / 16777216) ++ point ++ hexByte (h / 65536) ++ hexByte (h / 256)
      ++ point ++ hexByte h ++ hexByte (h / 2))

example : normalize? " gi 0/1.20" = some "GigabitEthernet0/1.20" := by decide
example : normalize? "e-0/1" = none := by decide
example : short "Port-channel7" = "Po7" := by decide

end InterfaceName

end NetRack
