import NetRack.Json.Parser
import NetRack.Json.Printer
import NetRack.Json.StandIns
import NetRack.Snapshot.Records

/-!
# Snapshots

A snapshot is a topology as plain data under the name of its schema.  Reading one checks the schema,
the shape of the data and the consistency of the topology, in this order.
-/

namespace NetRack.Snapshot

/-- The name of the schema. -/
def schema : String := "labsim-topology/v1"

/-- The snapshot of a topology. -/
def ofTopology (t : Topology) : Json :=
  .object [("schema", .text schema), ("topology", Codec.write t)]

/-- Why plain data is no snapshot. -/
inductive SnapshotFault where
  | notObject
  /-- The schema is another one. -/
  | foreignSchema (found : Json)
  /-- The data has the wrong shape at some places. -/
  | misshapen (places : List Place)
  /-- Devices and links contradict each other. -/
  | inconsistent (cause : Inconsistency)
  /-- The topology cannot be checked. -/
  | unchecked (fault : Fault)
  /-- The text is no plain data. -/
  | unreadable (fault : Json.ReadFault)
  /-- The plain data has no text. -/
  | unprintable (fault : Json.PrintFault)

/-- The fault in words, where it has any. -/
def SnapshotFault.message? : SnapshotFault → Option String
  | notObject => some "Snapshot must be an object."
  | foreignSchema found => some ("Unsupported snapshot schema: " ++ found.shown)
  | inconsistent cause => some ("Inconsistent snapshot: " ++ cause.message)
  | unchecked fault => fault.message?
  | misshapen _ => none
  | unreadable _ => none
  | unprintable _ => none

/-- The order of places. -/
def sortPlaces (places : List Place) : List Place := sortBy (keyLe id) places

/-- A topology as read from a field that is missing or blank, or else has to fit. -/
def readTopology (v : Option Json) : Checked Topology :=
  match v with
  | none => .ok {}
  | some v => if v.isBlank then .ok {} else Codec.read v

/-- A topology that is consistent. -/
def verified (t : Topology) : Except SnapshotFault Topology :=
  match t.verify with
  | .ok () => .ok t
  | .error (.inconsistent cause) => .error (.inconsistent cause)
  | .error fault => .error (.unchecked fault)

/-- The topology that a snapshot holds, whether it is consistent or not. -/
def shaped (v : Json) : Except SnapshotFault Topology :=
  if !v.isObject then .error .notObject
  else
    let found := (v.field? "schema").getD .null
    if found.isText schema then
      (readTopology (v.field? "topology")).mapError fun places => .misshapen (sortPlaces places)
    else .error (.foreignSchema found)

/-- The topology that a snapshot holds. -/
def toTopology (v : Json) : Except SnapshotFault Topology := shaped v >>= verified

/-- The topology that a snapshot holds, with stand-ins for halves of pairs in its texts. -/
def toCoveredTopology (s : StandIns) (v : Json) : Except SnapshotFault Topology := do
  let t ← shaped v
  if v.isWhole then verified t else shaped (s.coverData v) >>= verified

/-- The snapshot of a topology as text, one field a line if an indentation is given. -/
def print (indent : Option Nat) (t : Topology) : Except SnapshotFault String :=
  (Json.dump ⟨indent, false, true⟩ (ofTopology t)).mapError .unprintable

/-- The data that a text spells. -/
def readData (text : String) : Except SnapshotFault Json := (Json.parse text).mapError .unreadable

/-- The topology whose snapshot a text is. -/
def parse (text : String) : Except SnapshotFault Topology := readData text >>= toTopology

end NetRack.Snapshot
