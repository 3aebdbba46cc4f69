import NetRack.Text.Span

/-!
# Blanks and words

A line is read as words, the maximal runs of characters that are not blank, each with the column
where it starts.  Columns count characters from the start of the line.
-/

namespace NetRack.Text

/-- Spans of the characters that separate words. -/
def blankSpans : List (Nat × Nat) := [
  (0x9, 0xD), (0x1C, 0x20), (0x85, 0x85), (0xA0, 0xA0), (0x1680, 0x1680), (0x2000, 0x200A),
  (0x2028, 0x2029), (0x202F, 0x202F), (0x205F, 0x205F), (0x3000, 0x3000)]

/-- Whether a character separates words. -/
def isBlank (c : Char) : Bool := inSpans blankSpans c

/-- The characters without the blanks at their end. -/
def trimEndChars (cs : List Char) : List Char := (cs.reverse.dropWhile isBlank).reverse

/-- The characters without the blanks at both ends. -/
def trimChars (cs : List Char) : List Char := trimEndChars (cs.dropWhile isBlank)

/-- The text without the blanks at its end. -/
def trimEnd (s : String) : String := String.ofList (trimEndChars s.toList)

/-- The text without the blanks at both ends. -/
def trim (s : String) : String := String.ofList (trimChars s.toList)

/-- Whether a character may stand around a numeral: any blank but the four information separators. -/
def isMargin (c : Char) : Bool := isBlank c && !(0x1C ≤ c.toNat && c.toNat ≤ 0x1F)

/-- The characters without the margins at both ends. -/
def trimMargins (cs : List Char) : List Char :=
  ((cs.dropWhile isMargin).reverse.dropWhile isMargin).reverse

/-- A word of a line and the column of its first character. -/
structure Word where
  text : String
  column : Nat
deriving DecidableEq, Repr

/-- The word that ends before `column` and whose characters are `pending`, last one first. -/
def finishWord (column : Nat) (pending : List Char) : List Word :=
  if pending.isEmpty then []
  else [⟨String.ofList pending.reverse, column - pending.length⟩]

/-- The words of the rest of a line, which starts at `column` within the word `pending`. -/
def wordsFrom (column : Nat) (pending : List Char) : List Char → List Word
  | [] => finishWord column pending
  | c :: rest =>
    if isBlank c then finishWord column pending ++ wordsFrom (column + 1) [] rest
    else wordsFrom (column + 1) (c :: pending) rest

/-- The words of a line, each with its column. -/
def words (line : String) : List Word := wordsFrom 0 [] line.toList

/-- Every character that core counts as white space separates words. -/
theorem isBlank_of_isWhitespace {c : Char} (h : c.isWhitespace = true) : isBlank c = true := by
  simp only [Char.isWhitespace, Bool.or_eq_true, decide_eq_true_eq] at h
  rcases h with ((rfl | rfl) | rfl) | rfl <;> decide

/-- A line without characters has no words. -/
theorem words_empty : words "" = [] := rfl

end NetRack.Text
