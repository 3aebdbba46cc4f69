import NetRack.Fault
import NetRack.Json.Value
import NetRack.Text.Layout

/-!
# Logs

A log holds the latest events of a session.  An event is of a kind and carries plain data.  The
events that are commands can be read again as they stood on the console.
-/

namespace NetRack

/-- Something that happened in a session. -/
structure Event where
  kind : String
  data : List (String × Json)
deriving Inhabited

/-- Events in order of time, with a bound on their number. -/
structure Log where
  bound : Int := 5000
  events : List Event := []

namespace Log

/-- The name of the schema of written logs. -/
def schema : String := "labsim-session-log/v1"

/-- How many of so many events are dropped, oldest first.  A bound of zero drops none; below zero
it drops as many events as it is below. -/
def excess (bound : Int) (count : Nat) : Nat :=
  if (count : Int) ≤ bound then 0 else if 0 < bound then count - bound.toNat else bound.natAbs

/-- The log with one more event. -/
def add (l : Log) (kind : String) (data : List (String × Json)) : Log :=
  let events := l.events ++ [⟨kind, data⟩]
  { l with events := events.drop (excess l.bound events.length) }

/-- The log without events. -/
def clear (l : Log) : Log := { l with events := [] }

/-- The events of a kind. -/
def ofKind (l : Log) (kind : String) : List Event := l.events.filter fun e => e.kind = kind

end Log

namespace Event

/-- A field of an event's data. -/
def field? (e : Event) (key : String) : Option Json := (Json.object e.data).field? key

/-- A field as text, empty if it is missing. -/
def fieldText (e : Event) (key : String) : String := ((e.field? key).map Json.plain).getD ""

/-- Whether an event is about a device. -/
def concerns (e : Event) (device : String) : Bool := (e.field? "device").any (Json.isText device)

/-- The output of a command, unless it is blank; otherwise it must be a text. -/
def outputLines (e : Event) : Except Fault (List String) :=
  match e.field? "output" with
  | none => .ok []
  | some (.text s) => .ok (Text.linesIf (!s.isEmpty) [s])
  | some v => if v.isBlank then .ok [] else .error .notText

/-- A command as it stood on the console: the prompt with the line, then the output if any. -/
def consoleLines (e : Event) : Except Fault (List String) := do
  return (e.fieldText "prompt" ++ e.fieldText "line") :: (← e.outputLines)

/-- An event as plain data. -/
def toJson (e : Event) : Json := .object [("kind", .text e.kind), ("data", .object e.data)]

end Event

namespace Log

/-- The commands of the log as they stood on the console, of one device if one is given. -/
def transcript (l : Log) (device : Option String) : Except Fault String := do
  let commands := (l.ofKind "command").filter fun e => device.all e.concerns
  return Text.unlines (← commands.mapM Event.consoleLines).flatten

/-- The log as plain data. -/
def toJson (l : Log) : Json :=
  .object [("schema", .text schema), ("eventCount", .int l.events.length),
    ("events", .array (l.events.map Event.toJson))]

end Log

end NetRack
