import NetRack.Explanation
import NetRack.Json.Codec
import NetRack.Text.Layout

/-!
# The tutor

The tutor is an explainer that asks a language model.  It sends the model a command with the error
that the command caused, and makes a caption of the model's structured reply.
-/

namespace NetRack.Tutor

/-- A message to the model: who speaks, and the texts said. -/
structure Message where
  role : String
  texts : List String
deriving DecidableEq, Repr

/-- What the model is told about its task. -/
def instructions : String := Text.unlines [
  "You are a Cisco IOS lab tutor embedded in a network simulator.",
  "",
  "You will receive a command a student typed and the exact error the simulated",
  "device printed. The error is final; do not contradict it.",
  "",
  "Explain in at most two short sentences why the device rejected the command",
  "(wrong mode, misspelled keyword, missing argument, invalid address or mask,",
  "business rule of the device). If a corrected command is obvious, return it in",
  "'suggestion', otherwise leave it null.",
  "",
  "Always return JSON matching the ErrorExplanation schema (no extra keys)."]

/-- The messages that ask about an error. -/
def messages (command error : String) : List Message :=
  [⟨"system", [instructions]⟩,
    ⟨"user", ["COMMAND:\n" ++ command, "DEVICE_ERROR:\n" ++ error]⟩]

/-- The model that is asked unless another one is named. -/
def defaultModel : String := "gpt-4o-2024-08-06"

/-- The model that is asked, given the name of one. -/
def model (name : Option String) : String := (Text.present? name).getD defaultModel

/-- The structured reply of a model. -/
structure ModelReply where
  explanation : String
  suggestion : Option String := none
deriving DecidableEq, Repr

instance : Codec ModelReply := Record.codec <|
  Record.of { explanation := "" } ModelReply.mk
    |>.required "explanation" (·.explanation)
    |>.optional "suggestion" (·.suggestion)

/-- The fields of a reply. -/
def replyFields : List String := ["explanation", "suggestion"]

/-- The places of fields that a reply does not have. -/
def surplusFields : Json → List Place
  | .object fields => (fields.map Prod.fst).filterMap fun k =>
      if replyFields.contains k then none else some [k]
  | _ => []

/-- A reply that has its fields and no others. -/
def readReply (v : Json) : Checked ModelReply :=
  match surplusFields v with
  | [] => Codec.read v
  | surplus => Prod.fst <$> Checked.both (Codec.read v) (.error surplus : Checked Unit)

/-- The caption that a reply gives: the explanation, and the suggestion on a line of its own. -/
def caption : Option ModelReply → String
  | none => ""
  | some r =>
    match Text.present? r.suggestion with
    | some s => r.explanation ++ "\nTry: " ++ s
    | none => r.explanation

/-- What is said when there is no way to reach a model. -/
def noKey : String := "OPENAI_API_KEY is not set"

end NetRack.Tutor
