import NetRack.Topology.Propagation

/-!
# Devices and cables

Devices are added and removed, ports are connected and disconnected.  Each change is carried on to
what depends on it.
-/

namespace NetRack.Topology

/-- The topology with a new device.  The host name is the id unless another is given. -/
def addDevice (t : Topology) (id type : String) (hostname : Option String) :
    Except Fault Topology := do
  let key := Text.trim id
  if key.isEmpty then .error (.edit .emptyId)
  if t.devices.contains key then .error (.edit (.duplicateId key))
  let d ← Device.create type ((Text.present? hostname).getD key) (some key)
  let result := { t with devices := t.devices.insert key d }
  result.verify
  return result

/-- The topology without a device and the links at it. -/
def removeDevice (t : Topology) (id : String) : Except Fault Topology := do
  let _ ← t.device id
  let (gone, kept) := t.links.partition (·.touchesDevice id)
  let peers := (gone.flatMap (·.ends)).filter (·.device ≠ id)
  if !t.devices.contains id then .error (.noEntry id)
  let result := { t with devices := t.devices.erase id, links := kept }
  return (← result.propagatePorts peers true []).topology

/-- Refuses a port that is connected already. -/
def checkFree (t : Topology) (e : LinkEnd) : Except Fault Unit :=
  if (t.linkAt e).isSome then .error (.edit (.alreadyConnected e.device e.port)) else .ok ()

/-- The topology with a link between two ports. -/
def connect (t : Topology) (deviceA portA deviceB portB : String) : Except Fault Topology := do
  let a : LinkEnd := ⟨deviceA, ← t.physicalPort deviceA portA⟩
  let b : LinkEnd := ⟨deviceB, ← t.physicalPort deviceB portB⟩
  if a = b then .error (.edit .selfLink)
  t.checkFree a
  t.checkFree b
  let link : Link := { id := "L" ++ Text.intText t.nextLinkId, a, b }
  let result := { t with links := t.links ++ [link], nextLinkId := t.nextLinkId + 1 }
  return (← result.propagatePorts [a, b] false []).topology

/-- The topology without the link at a port. -/
def disconnect (t : Topology) (device port : String) : Except Fault Topology := do
  let name ← t.physicalPort device port
  match t.linkAt ⟨device, name⟩ with
  | none => .error (.edit (.notConnected device name))
  | some link =>
    let result := { t with links := t.links.erase link }
    return (← result.propagatePorts link.ends false []).topology

end NetRack.Topology
