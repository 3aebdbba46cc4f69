import NetRack.Text.Quoted

/-!
# Code points

Text that is exchanged in 16-bit units may hold half of a surrogate pair without the other half.
Such text is a list of code points and no string: a half is a code point, but no character.
-/

namespace NetRack.Text

/-- The code points of a text. -/
def pointsOf (s : String) : List Nat := s.toList.map Char.toNat

/-- The character of a code point that is no half of a pair. -/
def pointChar? (n : Nat) : Option Char := if n.isValidChar then some (Char.ofNat n) else none

/-- The text of code points, unless one of them is half of a pair. -/
def ofPoints? (points : List Nat) : Option String := String.ofList <$> points.mapM pointChar?

/-- Whether a unit is the first half of a pair. -/
def isHighHalf (n : Nat) : Bool := 0xD800 ≤ n && n < 0xDC00

/-- Whether a unit is the second half of a pair. -/
def isLowHalf (n : Nat) : Bool := 0xDC00 ≤ n && n < 0xE000

/-- The code points of units, where the two halves of a pair form one. -/
def joinHalves : List Nat → List Nat
  | h :: l :: rest =>
    if isHighHalf h && isLowHalf l then
      (0x10000 + (h - 0xD800) * 0x400 + (l - 0xDC00)) :: joinHalves rest
    else h :: joinHalves (l :: rest)
  | units => units

/-- The text of code points in which each half stands as three replacement characters, one for each
of the bytes that it takes. -/
def repaired (points : List Nat) : String :=
  String.ofList <| points.flatMap fun n =>
    match pointChar? n with
    | some c => [c]
    | none => List.replicate 3 '\uFFFD'

/-- A code point in quoted text, given the quote in use. -/
def escapePoint (quote : Char) (n : Nat) : List Char :=
  match pointChar? n with
  | some c => escapeChar quote c
  | none => '\\' :: 'u' :: hex 4 n

/-- The code points in quotes. -/
def quotedPoints (points : List Nat) : String :=
  let quote := quoteFor (points.filterMap pointChar?)
  String.ofList (quote :: points.flatMap (escapePoint quote) ++ [quote])

theorem pointChar?_toNat (c : Char) : pointChar? c.toNat = some c := by
  have h : c.toNat.isValidChar := c.valid
  simp [pointChar?, h]

/-- The code points of a text give it back. -/
theorem ofPoints?_pointsOf (s : String) : ofPoints? (pointsOf s) = some s := by
  have h (cs : List Char) : (cs.map Char.toNat).mapM pointChar? = some cs := by
    induction cs with
    | nil => rfl
    | cons c rest ih => simp [List.mapM_cons, pointChar?_toNat, ih]
  simp [ofPoints?, pointsOf, h]

example : joinHalves [0xD83D, 0xDE00, 0xD83D] = [0x1F600, 0xD83D] := by decide
example : quotedPoints [0x61, 0xDFFF] = "'a\\udfff'" := by decide +kernel

end NetRack.Text
