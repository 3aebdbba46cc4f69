/-!
# Vocabularies

Many fields of a record hold a word of a small vocabulary, such as the mode of a port.  The console
writes only words that it knows.  A record that was read from a snapshot may hold any other text,
which is kept as it is.
-/

namespace NetRack

/-- A finite set of words with a spelling each. -/
class Vocabulary (α : Type) where
  /-- The words of the vocabulary. -/
  words : List α
  /-- How a word is spelled. -/
  spelling : α → String

namespace Vocabulary

/-- The word with the given spelling. -/
def read? (α : Type) [Vocabulary α] (text : String) : Option α :=
  words.find? fun w => spelling w = text

/-- A word that is read is spelled as the text it was read from. -/
theorem spelling_of_read? {α : Type} [Vocabulary α] {text : String} {w : α}
    (h : read? α text = some w) : spelling w = text := by
  simpa using List.find?_some h

/-- Every word is read back from its spelling. -/
class Lawful (α : Type) [Vocabulary α] : Prop where
  read?_spelling : ∀ w : α, read? α (spelling w) = some w

end Vocabulary

open Vocabulary

/-- A field's content: a word of the vocabulary, or a text that spells none of its words. -/
inductive Stored (α : Type) [Vocabulary α] where
  | known (word : α)
  | foreign (text : String) (unread : read? α text = none)
deriving DecidableEq

namespace Stored

variable {α : Type} [Vocabulary α]

instance [Inhabited α] : Inhabited (Stored α) := ⟨.known default⟩
instance : Coe α (Stored α) := ⟨.known⟩

/-- The text that the field holds. -/
def text : Stored α → String
  | known w => spelling w
  | foreign t _ => t

/-- The field that holds a text. -/
def ofText (t : String) : Stored α :=
  match h : read? α t with
  | some w => known w
  | none => foreign t h

/-- Whether the field holds the word. -/
def holds [DecidableEq α] (s : Stored α) (w : α) : Bool := s = known w

/-- Whether the field holds an empty text. -/
def isEmpty (s : Stored α) : Bool := s.text.isEmpty

/-- A field keeps the text that it was made from. -/
theorem text_ofText (t : String) : (ofText t : Stored α).text = t := by
  unfold ofText
  split
  · exact spelling_of_read? ‹_›
  · rfl

/-- A field is determined by its text. -/
theorem ofText_text [Lawful α] (s : Stored α) : ofText s.text = s := by
  cases s with
  | known w =>
    unfold ofText text
    split
    · rename_i w' h
      rw [Lawful.read?_spelling] at h
      rw [Option.some.inj h]
    · rename_i h
      rw [Lawful.read?_spelling] at h
      cases h
  | foreign t h =>
    unfold ofText text
    split
    · rename_i w' h'
      rw [h] at h'
      cases h'
    · rfl

end Stored

end NetRack
