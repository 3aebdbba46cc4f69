import NetRack.Device.Basic

/-!
# Topologies

A topology holds the devices of a lab and the links between their ports.  A link is up if both of
its ends are switched on.
-/

namespace NetRack

/-- One end of a link. -/
structure LinkEnd where
  device : String
  port : String
deriving DecidableEq, Repr

/-- A cable between two ports. -/
structure Link where
  id : String
  a : LinkEnd
  b : LinkEnd
  up : Bool := false
deriving DecidableEq

namespace Link

/-- Both ends. -/
def ends (l : Link) : List LinkEnd := [l.a, l.b]

/-- Whether an end of the link is at the port. -/
def touches (l : Link) (e : LinkEnd) : Bool := l.a = e || l.b = e

/-- Whether an end of the link is at the device. -/
def touchesDevice (l : Link) (device : String) : Bool :=
  l.a.device = device || l.b.device = device

/-- The end across from the one at the port. -/
def other? (l : Link) (e : LinkEnd) : Option LinkEnd :=
  if l.a = e then some l.b else if l.b = e then some l.a else none

end Link

/-- Devices and links. -/
structure Topology where
  devices : Table String Device := ∅
  links : List Link := []
  nextLinkId : Int := 1
deriving DecidableEq

namespace Topology

/-! ## Looking up -/

/-- The key under which a name is looked up. -/
def deviceKey (name : String) : String := Text.trim name

/-- The device of a name, blanks around which do not count. -/
def device (t : Topology) (name : String) : Except Fault Device :=
  match t.devices.get? (deviceKey name) with
  | some d => .ok d
  | none => .error (.unknownDevice name)

/-- The device under a key. -/
def entry (t : Topology) (key : String) : Except Fault Device := need key (t.devices.get? key)

/-- The interface under a key of a device under a key. -/
def interface (t : Topology) (e : LinkEnd) : Except Fault Interface := do
  need e.port ((← t.entry e.device).interfaces.get? e.port)

/-- The device with an id, or else the first by id whose host name is the same up to case. -/
def findDevice (t : Topology) (name : String) : Option Device :=
  match t.devices.get? name with
  | some d => some d
  | none =>
    let byId := (sortTexts t.devices.keys).filterMap t.devices.get?
    byId.find? fun d => Text.lower d.hostname = Text.lower name

/-- The first link that ends at a port. -/
def linkAt (t : Topology) (e : LinkEnd) : Option Link := t.links.find? (·.touches e)

/-- The port across the link at a port. -/
def peerOf (t : Topology) (e : LinkEnd) : Option LinkEnd := (t.linkAt e).bind (·.other? e)

/-- The full name of a physical port of a device. -/
def physicalPort (t : Topology) (device port : String) : Except Fault String := do
  let d ← t.device device
  let name := (InterfaceName.normalize? port).getD port
  if d.interfaces.contains name then
    if (← InterfaceName.kind name) = .physical then return name
  .error (.edit (.noPhysicalPort device port))

/-! ## Changing -/

/-- The topology with the device under a key changed. -/
def modifyDevice (t : Topology) (key : String) (f : Device → Device) : Topology :=
  { t with devices := t.devices.modify key f }

/-- The topology with an interface of a device changed. -/
def modifyInterface (t : Topology) (e : LinkEnd) (f : Interface → Interface) : Topology :=
  t.modifyDevice e.device fun d => d.modifyInterface e.port f

/-! ## Consistency -/

/-- Whether both ends of a link are switched on. -/
def bothEndsOn (t : Topology) (l : Link) : Except Fault Bool := do
  if (← t.interface l.a).adminUp then return (← t.interface l.b).adminUp
  return false

/-- Checks one end of a link, given the ports that other ends are at. -/
def checkEnd (t : Topology) (link : String) (seen : List LinkEnd) (e : LinkEnd) :
    Except Fault (List LinkEnd) :=
  let known := (t.devices.get? e.device).any fun d => d.interfaces.contains e.port
  if !known then .error (.inconsistent (.unknownEnd link e.device e.port))
  else if e ∈ seen then .error (.inconsistent (.sharedPort e.device e.port))
  else .ok (e :: seen)

/-- Checks a link, given the ports that ends of earlier links are at. -/
def checkLink (t : Topology) (seen : List LinkEnd) (l : Link) : Except Fault (List LinkEnd) := do
  let seen ← l.ends.foldlM (t.checkEnd l.id) seen
  if (← t.bothEndsOn l) = l.up then return seen
  .error (.inconsistent (.linkState l.id l.up))

/-- Checks that an interface does not work while it is switched off. -/
def checkInterface (deviceId : String) (i : Interface) : Except Fault Unit :=
  if i.operUp && !i.adminUp then .error (.inconsistent (.portState deviceId i.name)) else .ok ()

/-- Checks that links end at distinct ports that exist, that they are up as their ends dictate, and
that no interface works while it is switched off. -/
def verify (t : Topology) : Except Fault Unit := do
  let _ ← t.links.foldlM t.checkLink []
  t.devices.values.forM fun d => d.interfaces.values.forM (checkInterface d.id)

/-! ## Neighbors -/

/-- A device across a link, seen from a local port. -/
structure Neighbor where
  localPort : String
  device : Device
  port : String

/-- The neighbor that one end of a link sees, if that end is at the device and the neighbor is no
end host. -/
def neighborAt (t : Topology) (id : String) (l : Link) (e : LinkEnd) :
    Except Fault (Option Neighbor) :=
  if e.device ≠ id then .ok none
  else
    match l.other? e with
    | none => .ok none
    | some peer => do
      let d ← t.entry peer.device
      return if d.isA .pc then none else some ⟨e.port, d, peer.port⟩

/-- The neighbors of a device across links that are up. -/
def neighbors (t : Topology) (id : String) : Except Fault (List Neighbor) := do
  let found ← (t.links.filter (·.up)).mapM fun l => l.ends.mapM (t.neighborAt id l)
  return found.flatten.filterMap fun n => n

end Topology

end NetRack
