import NetRack.Session.Basic
import NetRack.Snapshot.Basic

/-!
# Tools

A client without a session of its own works on snapshots: every tool takes plain data, and gives
plain data back.  Nothing is kept between two calls.
-/

namespace NetRack.Toolbox

/-- Why a tool gives no result. -/
inductive ToolFault where
  | snapshot (fault : Snapshot.SnapshotFault)
  | lab (fault : Fault)

/-- The words of a request, by name. -/
abbrev Request := Table String String

/-- A word that a request must have. -/
def word (r : Request) (name : String) : Except Fault String := need name (r.get? name)

/-- The session with the device of a request. -/
def addDevice (s : Session) (r : Request) : Except Fault Session := do
  return (← s.addDevice (← word r "id") (← word r "type") (r.get? "hostname")).1

/-- The session with the link of a request. -/
def addLink (s : Session) (r : Request) : Except Fault Session := do
  s.connect (← word r "a") (← word r "a_port") (← word r "b") (← word r "b_port")

/-- The snapshot of a session. -/
def snapshot (s : Session) : Json := Snapshot.ofTopology s.topology

/-- The snapshot of a new lab with the devices and links asked for. -/
def newLab (devices links : List Request) : Except Fault Json := do
  return snapshot (← links.foldlM addLink (← devices.foldlM addDevice {}))

/-- What is wrong with a snapshot, if anything, with stand-ins for halves of pairs in its texts. -/
def problem? (v : Json) : Option Snapshot.SnapshotFault :=
  match Snapshot.toCoveredTopology (StandIns.forData v) v with
  | .ok _ => none
  | .error f => some f

/-! ## Running commands -/

/-- A field that is only there if it has a value. -/
def fieldIf (name : String) (v : Option Json) : List (String × Json) :=
  (v.map fun v => (name, v)).toList

/-- An error as a tool reports it. -/
def errorData (e : ErrorReport) : Json :=
  .object [("kind", .text e.kind.text), ("message", .text e.message)]

/-- The result of a command as a tool reports it. -/
def resultData (line : Option String) (r : CommandResult) : Json :=
  .object <|
    [("valid", .bool r.valid), ("prompt", .text r.prompt), ("output", .text r.output)] ++
      fieldIf "modeChange" (r.modeChange.map fun m => .text m.text) ++
      fieldIf "hostnameChange" (r.hostnameChange.map .text) ++
      fieldIf "closeSession" (if r.close then some (.bool true) else none) ++
      fieldIf "error" (r.error.map errorData) ++
      [("command", Session.textOrNull line)]

/-- The results of commands and the snapshot after them. -/
structure RunReport where
  results : List Json
  snapshot : Json

/-- A report with halves of pairs for stand-ins. -/
def RunReport.uncovered (s : StandIns) (r : RunReport) : RunReport :=
  ⟨r.results.map s.uncoverData, s.uncoverData r.snapshot⟩

/-- Gives lines to a device of a lab. -/
def runLab (t : Topology) (device : String) (lines : List (Option String)) :
    Except Fault RunReport := do
  let r := Session.run { topology := t } device false lines
  let results ← r.results
  return ⟨(lines.zip results).map fun p => resultData p.1 p.2, snapshot r.session⟩

/-- Stand-ins that neither a snapshot nor the lines for a device use. -/
def standIns (v : Json) (device : String) (lines : List (Option String)) : StandIns :=
  .avoiding (v.points ++ Text.pointsOf device ++ lines.flatMap fun line => Text.pointsOf (line.getD ""))

/-- Gives lines to a device of the lab that a snapshot holds. -/
def run (v : Json) (device : String) (lines : List (Option String)) :
    Except ToolFault RunReport := do
  let s := standIns v device lines
  let t ← (Snapshot.toCoveredTopology s v).mapError .snapshot
  let report ← (runLab t device lines).mapError .lab
  return if v.isWhole then report else report.uncovered s

/-! ## A lab to start with -/

/-- The devices of the lab. -/
def startingDevices : List (String × String) :=
  [("PC1", "pc"), ("R1", "router"), ("R2", "router"), ("PC2", "pc")]

/-- The lines that configure a router: the port and address toward the end host, then those toward
the other router. -/
def routerLines (lan lanAddress transit transitAddress : String) : List String :=
  ["enable", "configure terminal", s!"interface {lan}", s!"ip address {lanAddress} 255.255.255.0",
    "no shutdown", s!"interface {transit}", s!"ip address {transitAddress} 255.255.255.0",
    "no shutdown", "router ospf 1", "network 10.0.0.0 0.0.255.255 area 0", "end"]

/-- The lines that configure the lab, by device. -/
def startingLines : List (String × List String) :=
  [("PC1", ["ip 10.0.1.10 255.255.255.0 10.0.1.1"]),
    ("PC2", ["ip 10.0.2.10 255.255.255.0 10.0.2.1"]),
    ("R1", routerLines "Gi0/0" "10.0.1.1" "Gi0/1" "10.0.12.1"),
    ("R2", routerLines "Gi0/1" "10.0.2.1" "Gi0/0" "10.0.12.2")]

/-- The session after the lines for one device. -/
def configure (s : Session) (lines : String × List String) : Except Fault Session := do
  let r := s.run lines.1 false (lines.2.map some)
  let _ ← r.results
  return r.session

/-- The snapshot of a configured lab: two end hosts, each at a router, and OSPF between the
routers. -/
def startingLab : Except Fault Json := do
  let s ← startingDevices.foldlM (fun (s : Session) d => Prod.fst <$> s.addDevice d.1 d.2 none) {}
  let s ← s.connect "PC1" "Fa0" "R1" "Gi0/0"
  let s ← s.connect "R1" "Gi0/1" "R2" "Gi0/0"
  let s ← s.connect "R2" "Gi0/1" "PC2" "Fa0"
  return snapshot (← startingLines.foldlM configure s)

end NetRack.Toolbox
