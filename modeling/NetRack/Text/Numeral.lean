import NetRack.Text.Blank
import NetRack.Text.Digit

/-!
# Numerals

Decimal numerals as the console and the records hold them.  A numeral of more than
`numeralLimit` digits has no value here; everything else about length is left to the caller.
-/

namespace NetRack.Text

/-- The most digits a numeral may have. -/
def numeralLimit : Nat := 4300

/-- Whether a character is one of the digits `0` to `9`. -/
def isPlainDigit (c : Char) : Bool := '0' ≤ c && c ≤ '9'

/-- Whether the characters are one or more of the digits `0` to `9`. -/
def arePlainDigits (cs : List Char) : Bool := !cs.isEmpty && cs.all isPlainDigit

/-- The number that a row of digit values spells. -/
def ofDigits (digits : List Nat) : Nat := digits.foldl (fun n d => 10 * n + d) 0

/-- The number that decimal digits of any script spell, whatever their count. -/
def digitsValue (cs : List Char) : Nat := ofDigits (cs.filterMap digitValue?)

/-- The number that a row of decimal digits spells, unless there are too many of them. -/
def readDigits? (cs : List Char) : Option Nat :=
  if cs.length ≤ numeralLimit then some (digitsValue cs) else none

/-- Digits in which single low lines may stand between two digits; the digits alone. -/
def stripSeparators? : List Char → Option (List Char)
  | [] => none
  | [c] => if isDecimalDigit c then some [c] else none
  | c :: '_' :: rest =>
    if isDecimalDigit c then (stripSeparators? rest).map (c :: ·) else none
  | c :: d :: rest =>
    if isDecimalDigit c then (stripSeparators? (d :: rest)).map (c :: ·) else none

/-- A whole number as a person may write it: margins around it, a sign, separated digits. -/
def readInteger? (cs : List Char) : Option Int :=
  let body := trimMargins cs
  let (negative, digits) :=
    match body with
    | '-' :: rest => (true, rest)
    | '+' :: rest => (false, rest)
    | other => (false, other)
  (stripSeparators? digits).bind fun plain =>
    (readDigits? plain).map fun n => if negative then -(n : Int) else n

/-- The digits of a natural number, least significant last. -/
def natText (n : Nat) : String := String.ofList (Nat.toDigits 10 n)

/-- The usual decimal form of a whole number. -/
def intText : Int → String
  | .ofNat n => natText n
  | .negSucc n => "-" ++ natText (n + 1)

/-- The least number with more digits than a numeral may have. -/
def numeralBound : Nat := Nat.pow 10 numeralLimit

/-- Whether a whole number has no more digits than a numeral may have. -/
def isBrief (n : Int) : Bool := n.natAbs < numeralBound

/-- A natural number with zeros in front, at least `width` characters long. -/
def zeroPadded (width : Nat) (n : Int) : String :=
  match n with
  | .ofNat m =>
    let digits := Nat.toDigits 10 m
    String.ofList (List.replicate (width - digits.length) '0' ++ digits)
  | .negSucc m =>
    let digits := Nat.toDigits 10 (m + 1)
    String.ofList ('-' :: List.replicate (width - 1 - digits.length) '0' ++ digits)

example : readInteger? " -1_000 ".toList = some (-1000) := by decide
example : readInteger? "1/2".toList = none := by decide

end NetRack.Text
