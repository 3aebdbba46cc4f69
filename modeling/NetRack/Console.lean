import NetRack.Command.Decode
import NetRack.Command.Exec
import NetRack.Command.Host
import NetRack.Command.Submode
import NetRack.Explanation

/-!
# Consoles

A console reads a line, resolves it in the grammar of its mode, and lets its device do what the line
asks for.  The change is carried on to the rest of the topology.  A line that fails changes nothing.
-/

namespace NetRack

/-- What a command does to a device of a topology. -/
def Command.apply (t : Topology) (d : Device) : Command → Except Failure Outcome
  | exec c => c.apply t d
  | global c => c.apply d
  | interface c => c.apply d
  | router c => c.apply d
  | line c => c.apply d
  | vlanName name => nameVlan d name
  | aclRule rule => addRule d rule
  | pool c => c.apply d
  | host c => c.apply d

/-- An error as it is reported. -/
structure ErrorReport where
  kind : ErrorKind
  message : String
  token : Option String := none
  position : Option Nat := none
deriving DecidableEq

/-- What comes of a line. -/
structure CommandResult where
  valid : Bool
  output : String := ""
  topology : Topology
  prompt : String
  modeChange : Option Mode := none
  hostnameChange : Option String := none
  close : Bool := false
  error : Option ErrorReport := none
  explanation : Option String := none
  report : Option TraceReport := none

namespace Console

/-- What is said when something went wrong inside. -/
def internalError : String := "% Internal error, command not applied."

/-- The kind of console that a device has. -/
def platform (d : Device) : Grammar.Platform := if d.isA .pc then .host else .ios

/-- What a line asks for in a mode, unless it is blank.  Its columns are counted from an offset. -/
def request? (d : Device) (line : String) (mode : Mode) (offset : Int) :
    Except Failure (Option Request) := do
  match ← resolve line (Grammar.root mode (platform d)) (some d) offset with
  | none => return none
  | some (.error e) => .error (.unresolved e)
  | some (.ok r) => return some (← r.request)

/-- What a line does in privileged mode.  No line of that mode runs another line. -/
def runPrivileged (t : Topology) (d : Device) (line : String) (offset : Int) :
    Except Failure Outcome := do
  match ← request? d line .privileged offset with
  | none => return .ofDevice d
  | some (.command c) => c.apply t d
  | some (.runExec _ _) => .error (.fault (.noEntry Verb.runExec.text))

/-- What a line does in privileged mode from within another mode, which the console stays in. -/
def runFromConfig (t : Topology) (d : Device) (line : String) (offset : Int) :
    Except Failure Outcome := do
  let o ← runPrivileged t { d with mode := .privileged } line offset
  let kept :=
    { o.device with
      mode := d.mode
      modeStack := { o.device.modeStack with items := d.modeStack.items }
      context := d.context }
  return { o with device := kept, close := false }

/-- What a line does, unless it is blank. -/
def run (t : Topology) (d : Device) (line : String) : Except Failure (Option Outcome) := do
  match ← request? d line d.mode 0 with
  | none => return none
  | some (.command c) => some <$> c.apply t d
  | some (.runExec payload column) => some <$> runFromConfig t d payload column

/-- The topology after an outcome, and the device that it concerns. -/
def settle (t : Topology) (key : String) (o : Outcome) : Except Fault (Topology × Device) := do
  let changed := t.modifyDevice key fun _ => o.device
  let r ← changed.propagate o.device.id o.touched o.routing
  return (r.topology, ← r.topology.entry key)

/-- The outcome of a line and what became of the topology, unless the line is blank. -/
def attempt (t : Topology) (key : String) (d : Device) (line : String) :
    Except Failure (Option (Outcome × Topology × Device)) := do
  match ← run t d line with
  | none => return none
  | some o => return some (o, ← settle t key o)

/-- An error that does not resolve, with a mark below the word in question if it is one that is not
understood. -/
def resolutionOutput (prompt : String) (e : ResolutionError) : String :=
  if e.problem = .unrecognized || e.problem = .invalidArgument then
    Text.spaces (prompt.length + e.column).toNat ++ "^\n" ++ e.message
  else e.message

/-- The error and the output that a failure is reported as; a fault that is not internal is none of
the console's business. -/
def reportFailure (prompt : String) : Failure → Except Fault (ErrorReport × String)
  | .unresolved e =>
    .ok (⟨e.problem.kind, e.message, some e.token, some e.position⟩, resolutionOutput prompt e)
  | .refused r => .ok ({ kind := r.kind, message := r.message }, r.message)
  | .fault f =>
    if f.isInternal then .ok ({ kind := .propagation, message := internalError }, internalError)
    else .error f

/-- The result of a line that failed. -/
def failedResult (explainer : Option Explainer) (t : Topology) (prompt line : String)
    (error : ErrorReport) (output : String) : CommandResult where
  valid := false
  output := output
  topology := t
  prompt := prompt
  error := some error
  explanation := explainSafely explainer line error.message

/-- The result of a line that did something. -/
def doneResult (before : Device) (o : Outcome) (t : Topology) (after : Device) :
    Except Fault CommandResult := do
  let notices ← Show.linkNotices before after
  return {
    valid := true
    output := Text.unlines ((o.output :: notices).filter fun s => !s.isEmpty)
    topology := t
    prompt := after.prompt
    modeChange := if after.mode = before.mode then none else some after.mode
    hostnameChange := if after.hostname = before.hostname then none else some after.hostname
    close := o.close
    report := o.report }

/-- What comes of a line that is given to a device. -/
def execute (explainer : Option Explainer) (t : Topology) (deviceId line : String) :
    Except Fault CommandResult := do
  let d ← t.device deviceId
  match attempt t (Topology.deviceKey deviceId) d line with
  | .ok none => return { valid := true, topology := t, prompt := d.prompt }
  | .ok (some (o, after, d')) => doneResult d o after d'
  | .error f => do
    let (error, output) ← reportFailure d.prompt f
    return failedResult explainer t d.prompt line error output

end Console

end NetRack
