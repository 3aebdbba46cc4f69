import NetRack.Text.Blank

/-!
# Explanations

An explainer captions an error that a console has decided on.  Whatever it replies, the console
goes on: a reply that is missing, blank or no text becomes a standing phrase.
-/

namespace NetRack

/-- What an explainer replies. -/
inductive Reply where
  | text (s : String)
  /-- Something that is no text. -/
  | other
  /-- The explainer failed. -/
  | failed
deriving DecidableEq, Repr

/-- An explainer replies to a command and the error that it caused. -/
abbrev Explainer := String → String → Reply

/-- The standing phrase. -/
def noExplanation : String := "No explanation available."

/-- The explainer that has nothing to say. -/
def Explainer.silent : Explainer := fun _ _ => .text noExplanation

/-- The caption that a reply gives. -/
def Reply.caption : Reply → String
  | text s =>
    let t := Text.trim s
    if t.isEmpty then noExplanation else t
  | other => noExplanation
  | failed => noExplanation

/-- The caption for an error, if there is an explainer. -/
def explainSafely (explainer : Option Explainer) (command error : String) : Option String :=
  explainer.map fun e => (e command error).caption

/-- A caption is never blank. -/
theorem Reply.caption_ne_empty (r : Reply) : r.caption ≠ "" := by
  unfold caption
  split
  · dsimp only
    split
    · decide
    · rename_i h
      intro he
      exact h (by simp [he])
  · decide
  · decide

end NetRack
