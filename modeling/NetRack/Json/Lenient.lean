import NetRack.Json.Value

/-!
# Lenient reading of scalars

Data that people write by hand spells numbers and truth values in many ways.  A whole number may be
a truth value, a double without a fraction or a text; a truth value may be a number or a word.
-/

namespace NetRack.Json

/-- Whether a numeral may go on with a character once its leading zeros are gone. -/
def startsNumeral (c : Char) : Bool := c == '-' || Text.isPlainDigit c

/-- A numeral after a zero or low line: without further ones in front of a sign or another digit,
but with the last of them in front of a point or the end. -/
def afterZero (last : Char) : List Char → Option (List Char)
  | [] => some [last]
  | '0' :: rest => afterZero '0' rest
  | '_' :: rest => afterZero '_' rest
  | '.' :: rest => some (last :: '.' :: rest)
  | c :: rest => if startsNumeral c then some (c :: rest) else none

/-- A numeral without the zeros in front; a minus may follow them. -/
def stripLeadingZeros : List Char → Option (List Char)
  | '0' :: rest => afterZero '0' rest
  | c :: rest => if startsNumeral c then some (c :: rest) else none
  | [] => none

/-- A numeral without a plus and zeros in front.  A minus stays, and the zeros after it go; a plus
may not stand before a minus. -/
def stripFront : List Char → Option (List Char)
  | '-' :: rest => ('-' :: ·) <$> stripLeadingZeros rest
  | '+' :: '-' :: _ => none
  | '+' :: rest => stripLeadingZeros rest
  | cs => stripLeadingZeros cs

/-- A numeral without a fraction of one or more zeros. -/
def stripZeroFraction (cs : List Char) : List Char :=
  match (cs.dropWhile (· ≠ '.')).drop 1 with
  | [] => cs
  | fraction => if fraction.all (· = '0') then cs.takeWhile (· ≠ '.') else cs

/-- Whether two low lines stand side by side. -/
def hasDoubleLine : List Char → Bool
  | '_' :: '_' :: _ => true
  | _ :: rest => hasDoubleLine rest
  | [] => false

/-- A numeral without its low lines, which stand one by one and not at the ends. -/
def stripLines (cs : List Char) : Option (List Char) :=
  if hasDoubleLine cs || cs.head? = some '_' || cs.getLast? = some '_' then none
  else some (cs.filter (· ≠ '_'))

/-- The number that plain digits spell, without zeros in front. -/
def readPlain? (cs : List Char) : Option Nat :=
  if Text.arePlainDigits cs && (cs.length = 1 || cs.head? ≠ some '0') then Text.readDigits? cs
  else none

/-- The number that plain digits spell, with a minus in front or not. -/
def readSigned? : List Char → Option Int
  | '-' :: digits => (readPlain? digits).map fun n => -(n : Int)
  | digits => (readPlain? digits).map fun n => (n : Int)

/-- The whole number that a text spells. -/
def integerOfText? (s : String) : Option Int := do
  let numeral ← stripFront (Text.trimMargins s.toList)
  readSigned? (← stripLines (stripZeroFraction numeral))

/-- The whole number that a value stands for. -/
def integer? : Json → Option Int
  | int n => some n
  | bool b => some (if b then 1 else 0)
  | double d => d.toInt?
  | text s => integerOfText? s
  | _ => none

/-- The words that stand for true. -/
def trueWords : List String := ["1", "on", "t", "true", "y", "yes"]

/-- The words that stand for false. -/
def falseWords : List String := ["0", "f", "false", "n", "no", "off"]

/-- The truth value that a number stands for. -/
def truthOfInteger? (n : Int) : Option Bool :=
  if n = 0 then some false else if n = 1 then some true else none

/-- The truth value that a word stands for, whatever the case of its letters. -/
def truthOfText? (s : String) : Option Bool :=
  let word := s.map Char.toLower
  if trueWords.contains word then some true
  else if falseWords.contains word then some false
  else none

/-- The truth value that a value stands for. -/
def truth? : Json → Option Bool
  | bool b => some b
  | int n => truthOfInteger? n
  | double d => d.toInt?.bind truthOfInteger?
  | text s => truthOfText? s
  | _ => none

example : integerOfText? " +01_0.00 " = some 10 := by decide
example : integerOfText? "1.5" = none := by decide
example : integerOfText? "-0" = some 0 := by decide
example : integerOfText? "00-5.0" = some (-5) := by decide
example : integerOfText? "1." = none := by decide
example : integerOfText? "-0_1" = some (-1) := by decide
example : integerOfText? "-_1" = none := by decide
example : integerOfText? "0-_4" = some (-4) := by decide
example : integerOfText? "0-04" = none := by decide

end NetRack.Json
