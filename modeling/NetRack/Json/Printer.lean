import NetRack.Json.Value

/-!
# JSON text

A value is printed on one line, or with each element on a line of its own, indented by its depth.
Texts are printed as they are, quotes, backslashes and control characters apart, or with every
character beyond ASCII escaped.  What is printed for others to read has a bound on its indentation and
on the digits of its numerals; the layout itself has none.
-/

namespace NetRack.Json

/-- How values are laid out. -/
structure Style where
  /-- The width of one level of indentation; one line for all if absent. -/
  indent : Option Nat
  /-- Whether characters beyond ASCII are escaped. -/
  asciiOnly : Bool
  /-- Whether a blank follows each colon, and each comma within a line. -/
  spaced : Bool

/-- All on one line, in ASCII and without blanks between symbols. -/
def Style.compact : Style := ⟨none, true, false⟩

/-- The escape of a 16-bit unit. -/
def unitEscape (n : Nat) : List Char := '\\' :: 'u' :: Text.hex 4 n

/-- The escape of a character by its 16-bit units. -/
def unitEscapes (n : Nat) : List Char :=
  if n < 0x10000 then unitEscape n
  else unitEscape (0xD800 + (n - 0x10000) / 0x400) ++ unitEscape (0xDC00 + (n - 0x10000) % 0x400)

/-- A character within a printed text. -/
def printChar (asciiOnly : Bool) (c : Char) : List Char :=
  if c == '"' then ['\\', '"']
  else if c == '\\' then ['\\', '\\']
  else if c == '\n' then ['\\', 'n']
  else if c == '\r' then ['\\', 'r']
  else if c == '\t' then ['\\', 't']
  else if c.toNat == 8 then ['\\', 'b']
  else if c.toNat == 12 then ['\\', 'f']
  else if c.toNat < 0x20 then unitEscape c.toNat
  else if asciiOnly && c.toNat > 0x7E then unitEscapes c.toNat
  else [c]

/-- A text in quotes. -/
def printText (style : Style) (s : String) : List Char :=
  '"' :: s.toList.flatMap (printChar style.asciiOnly) ++ ['"']

/-- A code point within a printed text. -/
def printPoint (asciiOnly : Bool) (n : Nat) : List Char :=
  match Text.pointChar? n with
  | some c => printChar asciiOnly c
  | none => unitEscape n

/-- Code points in quotes, each half of a pair escaped. -/
def printPoints (style : Style) (points : List Nat) : List Char :=
  '"' :: points.flatMap (printPoint style.asciiOnly) ++ ['"']

/-- The break before an element or a closing bracket at the given depth. -/
def lineBreak (style : Style) (depth : Nat) : List Char :=
  match style.indent with
  | none => []
  | some width => '\n' :: List.replicate (width * depth) ' '

/-- What stands between two elements at the given depth. -/
def separator (style : Style) (depth : Nat) : List Char :=
  match style.indent with
  | none => if style.spaced then [',', ' '] else [',']
  | some _ => ',' :: lineBreak style depth

/-- What stands between a name and its value. -/
def colon (style : Style) : List Char := if style.spaced then [':', ' '] else [':']

/-- The text of a double. -/
def doubleText : Double → String
  | .infinite negative => if negative then "-Infinity" else "Infinity"
  | .undefined => "NaN"
  | d => d.text

mutual

/-- The text of a value at a depth. -/
def print (style : Style) (depth : Nat) : Json → List Char
  | null => "null".toList
  | bool b => (if b then "true" else "false").toList
  | int n => (Text.intText n).toList
  | double d => (doubleText d).toList
  | text s => printText style s
  | brokenText points => printPoints style points
  | array [] => ['[', ']']
  | array (v :: rest) =>
    '[' :: lineBreak style (depth + 1) ++ print style (depth + 1) v
      ++ printItems style (depth + 1) rest ++ lineBreak style depth ++ [']']
  | object [] => ['{', '}']
  | object ((k, v) :: rest) =>
    '{' :: lineBreak style (depth + 1) ++ printText style k ++ colon style
      ++ print style (depth + 1) v ++ printFields style (depth + 1) rest
      ++ lineBreak style depth ++ ['}']
  | brokenObject [] => ['{', '}']
  | brokenObject ((k, v) :: rest) =>
    '{' :: lineBreak style (depth + 1) ++ printPoints style k ++ colon style
      ++ print style (depth + 1) v ++ printBrokenFields style (depth + 1) rest
      ++ lineBreak style depth ++ ['}']

/-- The elements after the first. -/
def printItems (style : Style) (depth : Nat) : List Json → List Char
  | [] => []
  | v :: rest => separator style depth ++ print style depth v ++ printItems style depth rest

/-- The fields after the first. -/
def printFields (style : Style) (depth : Nat) : List (String × Json) → List Char
  | [] => []
  | (k, v) :: rest =>
    separator style depth ++ printText style k ++ colon style ++ print style depth v
      ++ printFields style depth rest

/-- The fields with broken names after the first. -/
def printBrokenFields (style : Style) (depth : Nat) : List (List Nat × Json) → List Char
  | [] => []
  | (k, v) :: rest =>
    separator style depth ++ printPoints style k ++ colon style ++ print style depth v
      ++ printBrokenFields style depth rest

end

/-- The text of a value. -/
def render (style : Style) (v : Json) : String := String.ofList (print style 0 v)

/-! ## What can be printed -/

/-- Why a value is not printed. -/
inductive PrintFault where
  | wideIndent
  | longNumeral
deriving DecidableEq, Repr

/-- What the width of one level of indentation stays below: no row of blanks is longer. -/
def indentLimit : Nat := 0x8000000000000000

/-- Whether there are rows of blanks as wide as one level of indentation. -/
def Style.fits (style : Style) : Bool := style.indent.all (· < indentLimit)

mutual

/-- Whether no whole number has too many digits. -/
def isBrief : Json → Bool
  | int n => Text.isBrief n
  | array items => areBrief items
  | object fields => areBriefFields fields
  | brokenObject fields => areBriefBrokenFields fields
  | _ => true

/-- Whether no whole number in the elements of an array has too many digits. -/
def areBrief : List Json → Bool
  | [] => true
  | v :: rest => v.isBrief && areBrief rest

/-- Whether no whole number in the fields of an object has too many digits. -/
def areBriefFields : List (String × Json) → Bool
  | [] => true
  | (_, v) :: rest => v.isBrief && areBriefFields rest

/-- Whether no whole number in the fields of an object with broken names has too many digits. -/
def areBriefBrokenFields : List (List Nat × Json) → Bool
  | [] => true
  | (_, v) :: rest => v.isBrief && areBriefBrokenFields rest

end

/-- The text of a value, unless it cannot be printed. -/
def dump (style : Style) (v : Json) : Except PrintFault String :=
  if !style.fits then .error .wideIndent
  else if v.isBrief then .ok (render style v)
  else .error .longNumeral

end NetRack.Json
