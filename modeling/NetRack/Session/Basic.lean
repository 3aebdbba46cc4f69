import NetRack.Console
import NetRack.Session.Log
import NetRack.Topology.Edit

/-!
# Sessions

A session owns a topology and logs what is done to it.  A step that has a fault leaves the session
as it was, its log included.
-/

namespace NetRack

/-- A topology, the log of what was done to it, and who explains errors. -/
structure Session where
  topology : Topology := {}
  log : Log := {}
  explainer : Option Explainer := none

namespace Session

/-! ## Devices and cables -/

/-- The session with another topology and one more event. -/
def record (s : Session) (t : Topology) (kind : String) (data : List (String × Json)) : Session :=
  { s with topology := t, log := s.log.add kind data }

/-- Adds a device; its host name is its id unless one is given. -/
def addDevice (s : Session) (id type : String) (hostname : Option String) :
    Except Fault (Session × Device) := do
  let t ← s.topology.addDevice id type hostname
  let name := (Text.present? hostname).getD id
  let s := s.record t "device_added"
    [("device", .text id), ("type", .text type), ("hostname", .text name)]
  return (s, ← t.device id)

/-- Removes a device and the links at it. -/
def removeDevice (s : Session) (id : String) : Except Fault Session := do
  return s.record (← s.topology.removeDevice id) "device_removed" [("device", .text id)]

/-- An end of a link in the words of the log. -/
def endText (e : LinkEnd) : String := s!"{e.device}:{e.port}"

/-- What the log says about a new link. -/
def linkData (l : Link) : List (String × Json) :=
  [("link", .text l.id), ("a", .text (endText l.a)), ("b", .text (endText l.b))]

/-- Connects two ports. -/
def connect (s : Session) (deviceA portA deviceB portB : String) : Except Fault Session := do
  let t ← s.topology.connect deviceA portA deviceB portB
  return s.record t "link_added" ((t.links.getLast?.map linkData).getD [])

/-- Removes the link at a port. -/
def disconnect (s : Session) (device port : String) : Except Fault Session := do
  let t ← s.topology.disconnect device port
  return s.record t "link_removed" [("device", .text device), ("port", .text port)]

/-! ## Commands -/

/-- A text that may be absent. -/
def textOrNull (text : Option String) : Json := (text.map Json.text).getD .null

/-- What the log says about a command. -/
def commandData (device prompt : String) (line : Option String) (r : CommandResult) :
    List (String × Json) :=
  [("device", .text device), ("prompt", .text prompt), ("line", textOrNull line),
    ("valid", .bool r.valid), ("output", .text r.output),
    ("error", textOrNull (r.error.map (·.kind.text))),
    ("mode", textOrNull (r.modeChange.map Mode.text))]

/-- Gives a line to a device; no line at all counts as a blank one. -/
def execute (s : Session) (device : String) (line : Option String) :
    Except Fault (Session × CommandResult) := do
  let prompt := (← s.topology.device device).prompt
  let r ← Console.execute s.explainer s.topology device (line.getD "")
  return (s.record r.topology "command" (commandData device prompt line r), r)

/-- What comes of several lines: the session after the last line that had no fault, and the results
unless a line had one. -/
structure Run where
  session : Session
  results : Except Fault (List CommandResult)

/-- Gives lines to a device one after the other, until a fault, or until the first line that fails
if `stop` says so. -/
def run (s : Session) (device : String) (stop : Bool) : List (Option String) → Run
  | [] => ⟨s, .ok []⟩
  | line :: rest =>
    match s.execute device line with
    | .error f => ⟨s, .error f⟩
    | .ok (next, r) =>
      if stop && !r.valid then ⟨next, .ok [r]⟩
      else
        let later := next.run device stop rest
        ⟨later.session, (r :: ·) <$> later.results⟩

end Session

end NetRack
