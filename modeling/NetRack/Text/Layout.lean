/-!
# Columns and lines

Text in columns is padded with spaces up to a width in characters; a longer text is left whole.
-/

namespace NetRack.Text

/-- A run of spaces. -/
def spaces (n : Nat) : String := String.ofList (List.replicate n ' ')

/-- The text followed by spaces up to a width. -/
def padRight (width : Nat) (s : String) : String := s ++ spaces (width - s.length)

/-- The text after spaces up to a width. -/
def padLeft (width : Nat) (s : String) : String := spaces (width - s.length) ++ s

/-- The lines of a text, joined without a line end after the last. -/
def unlines (lines : List String) : String := String.intercalate "\n" lines

/-- Elements separated by a comma and a space. -/
def commaSeparated (items : List String) : String := String.intercalate ", " items

/-- Lines that are there only under a condition. -/
def linesIf (condition : Bool) (lines : List String) : List String :=
  if condition then lines else []

/-- Consecutive groups of `size + 1` elements; the last group may be shorter. -/
def groupsFrom (size : Nat) (pending : List α) : List α → List (List α)
  | [] => if pending.isEmpty then [] else [pending]
  | x :: rest =>
    if pending.length < size then groupsFrom size (pending ++ [x]) rest
    else (pending ++ [x]) :: groupsFrom size [] rest

/-- Consecutive groups of four elements; the last group may be shorter. -/
def groupsOfFour (xs : List α) : List (List α) := groupsFrom 3 [] xs

/-- A text that is there and not empty. -/
def present? : Option String → Option String
  | some s => if s.isEmpty then none else some s
  | none => none

example : groupsOfFour [1, 2, 3, 4, 5] = [[1, 2, 3, 4], [5]] := by decide

end NetRack.Text
