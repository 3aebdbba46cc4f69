import NetRack.Json.Value

/-!
# Reading JSON text

The reader takes one value, with white space around it, and nothing more.  The last of several
fields of one name counts and stands where the first one stood.  A numeral with too many digits and
too many brackets within each other are refused apart from malformed text.
-/

namespace NetRack.Json

/-- Why a text is no value. -/
inductive ReadFault where
  | malformed
  | longNumeral
  | deepNesting
deriving DecidableEq, Repr

/-- The most arrays and objects that may stand within each other. -/
def nestingLimit : Nat := 990

/-- Whether a character may stand between two symbols. -/
def isSpace (c : Char) : Bool := c == ' ' || c == '\t' || c == '\n' || c == '\r'

/-- The text without its leading white space. -/
def skipSpace (cs : List Char) : List Char := cs.dropWhile isSpace

/-- The value of a hexadecimal digit. -/
def hexValue? (c : Char) : Option Nat :=
  if '0' ≤ c && c ≤ '9' then some (c.toNat - 0x30)
  else if 'a' ≤ c && c ≤ 'f' then some (c.toNat - 0x61 + 10)
  else if 'A' ≤ c && c ≤ 'F' then some (c.toNat - 0x41 + 10)
  else none

/-- The number that four hexadecimal digits spell. -/
def hexUnit? (a b c d : Char) : Option Nat := do
  return 4096 * (← hexValue? a) + 256 * (← hexValue? b) + 16 * (← hexValue? c) + (← hexValue? d)

/-- The character that a letter after a backslash stands for. -/
def shortEscape? (c : Char) : Option Nat :=
  if c == '"' || c == '\\' || c == '/' then some c.toNat
  else if c == 'b' then some 8
  else if c == 'f' then some 12
  else if c == 'n' then some 10
  else if c == 'r' then some 13
  else if c == 't' then some 9
  else none

/-- The code points and 16-bit units of a text up to its closing quote. -/
def readUnits : List Char → Except ReadFault (List Nat × List Char)
  | [] => .error .malformed
  | '"' :: rest => .ok ([], rest)
  | '\\' :: 'u' :: a :: b :: c :: d :: rest =>
    match hexUnit? a b c d with
    | none => .error .malformed
    | some n => do
      let (units, rest) ← readUnits rest
      return (n :: units, rest)
  | '\\' :: e :: rest =>
    match shortEscape? e with
    | none => .error .malformed
    | some n => do
      let (units, rest) ← readUnits rest
      return (n :: units, rest)
  | c :: rest =>
    if c.toNat < 0x20 || c == '\\' then .error .malformed
    else do
      let (units, rest) ← readUnits rest
      return (c.toNat :: units, rest)

/-- The code points of a text after its opening quote. -/
def readText (cs : List Char) : Except ReadFault (List Nat × List Char) := do
  let (units, rest) ← readUnits cs
  return (Text.joinHalves units, rest)

/-- The digits after a point, if there are any. -/
def readFraction : List Char → List Char × List Char
  | '.' :: rest =>
    match rest.takeWhile Text.isPlainDigit with
    | [] => ([], '.' :: rest)
    | ds => (ds, rest.dropWhile Text.isPlainDigit)
  | cs => ([], cs)

/-- The sign in front of an exponent's digits. -/
def readSign : List Char → Bool × List Char
  | '-' :: rest => (true, rest)
  | '+' :: rest => (false, rest)
  | cs => (false, cs)

/-- The exponent of a number, if it has one. -/
def readExponent : List Char → Option Int × List Char
  | [] => (none, [])
  | e :: rest =>
    if e == 'e' || e == 'E' then
      let (negative, digits) := readSign rest
      match digits.takeWhile Text.isPlainDigit with
      | [] => (none, e :: rest)
      | ds =>
        let n : Int := Text.digitsValue ds
        (some (if negative then -n else n), digits.dropWhile Text.isPlainDigit)
    else (none, e :: rest)

/-- The digits in front of a point: a zero alone, or a row of digits. -/
def wholeDigits : List Char → List Char
  | '0' :: _ => ['0']
  | cs => cs.takeWhile Text.isPlainDigit

/-- A number after its sign. -/
def readNumber (negative : Bool) (cs : List Char) : Except ReadFault (Json × List Char) :=
  let whole := wholeDigits cs
  if whole.isEmpty then .error .malformed
  else
    let (fraction, rest) := readFraction (cs.drop whole.length)
    let (exponent, rest) := readExponent rest
    if fraction.isEmpty && exponent.isNone then
      match Text.readDigits? whole with
      | none => .error .longNumeral
      | some n => .ok (.int (if negative then -(n : Int) else n), rest)
    else
      let power := exponent.getD 0 - fraction.length
      .ok (.double (.ofDecimal negative (Text.digitsValue (whole ++ fraction)) power), rest)

/-- A number, a constant or a word. -/
def readAtom : List Char → Except ReadFault (Json × List Char)
  | 'n' :: 'u' :: 'l' :: 'l' :: rest => .ok (.null, rest)
  | 't' :: 'r' :: 'u' :: 'e' :: rest => .ok (.bool true, rest)
  | 'f' :: 'a' :: 'l' :: 's' :: 'e' :: rest => .ok (.bool false, rest)
  | 'N' :: 'a' :: 'N' :: rest => .ok (.double .undefined, rest)
  | 'I' :: 'n' :: 'f' :: 'i' :: 'n' :: 'i' :: 't' :: 'y' :: rest =>
    .ok (.double (.infinite false), rest)
  | '-' :: 'I' :: 'n' :: 'f' :: 'i' :: 'n' :: 'i' :: 't' :: 'y' :: rest =>
    .ok (.double (.infinite true), rest)
  | '-' :: rest => readNumber true rest
  | cs => readNumber false cs

mutual

/-- A value at the front of a text, within which `room` brackets may be open at once. -/
def readValue : Nat → Nat → List Char → Except ReadFault (Json × List Char)
  | 0, _, _ => .error .malformed
  | fuel + 1, room, cs =>
    match cs, room with
    | '"' :: rest, _ => do
      let (points, rest) ← readText rest
      return (.ofPoints points, rest)
    | '[' :: _, 0 => .error .deepNesting
    | '[' :: rest, room + 1 =>
      match skipSpace rest with
      | ']' :: rest => .ok (.array [], rest)
      | rest => do
        let (items, rest) ← readItems fuel room rest
        return (.array items, rest)
    | '{' :: _, 0 => .error .deepNesting
    | '{' :: rest, room + 1 =>
      match skipSpace rest with
      | '}' :: rest => .ok (.object [], rest)
      | rest => do
        let (fields, rest) ← readFields fuel room [] rest
        return (.ofFields fields, rest)
    | cs, _ => readAtom cs

/-- The elements of an array up to its closing bracket. -/
def readItems : Nat → Nat → List Char → Except ReadFault (List Json × List Char)
  | 0, _, _ => .error .malformed
  | fuel + 1, room, cs => do
    let (v, rest) ← readValue fuel room cs
    match skipSpace rest with
    | ']' :: rest => return ([v], rest)
    | ',' :: rest =>
      let (items, rest) ← readItems fuel room (skipSpace rest)
      return (v :: items, rest)
    | _ => .error .malformed

/-- The fields of an object up to its closing bracket, after the fields already read. -/
def readFields : Nat → Nat → List (List Nat × Json) → List Char →
    Except ReadFault (List (List Nat × Json) × List Char)
  | 0, _, _, _ => .error .malformed
  | fuel + 1, room, fields, cs =>
    match cs with
    | '"' :: rest => do
      let (k, rest) ← readText rest
      match skipSpace rest with
      | ':' :: rest =>
        let (v, rest) ← readValue fuel room (skipSpace rest)
        let fields := setField k v fields
        match skipSpace rest with
        | '}' :: rest => return (fields, rest)
        | ',' :: rest => readFields fuel room fields (skipSpace rest)
        | _ => .error .malformed
      | _ => .error .malformed
    | _ => .error .malformed

end

/-- The value that a text spells. -/
def parse (s : String) : Except ReadFault Json := do
  let cs := skipSpace s.toList
  let (v, rest) ← readValue (2 * cs.length + 1) nestingLimit cs
  if (skipSpace rest).isEmpty then return v else .error .malformed

end NetRack.Json
