import NetRack.Topology.Ospf

/-!
# Propagation

A change of some ports is carried on to everything that depends on them: links and the ports at
their other ends, subinterfaces, loopbacks, virtual interfaces and port channels, connected routes,
and what OSPF computes.  The ports whose state was looked at anew are called dirty.
-/

namespace NetRack

/-- A topology under propagation, with the ports that are dirty so far. -/
structure Refresh where
  topology : Topology
  dirty : List LinkEnd

namespace Refresh

/-- One more dirty port. -/
def mark (r : Refresh) (e : LinkEnd) : Refresh :=
  if e ∈ r.dirty then r else { r with dirty := r.dirty ++ [e] }

/-- A port that works or not from now on, and is dirty. -/
def setOper (r : Refresh) (e : LinkEnd) (up : Bool) : Refresh :=
  mark { r with topology := r.topology.modifyInterface e fun i => { i with operUp := up } } e

end Refresh

/-- Ports in the order of devices and names. -/
def sortEnds (ends : List LinkEnd) : List LinkEnd :=
  sortBy (fun a b => ((compare a.device b.device).then (compare a.port b.port)).isLE) ends

namespace Topology

/-- The topology with the first link at a port up or down. -/
def setLinkAt (t : Topology) (e : LinkEnd) (up : Bool) : Topology :=
  let rec setFirst : List Link → List Link
    | [] => []
    | l :: rest => if l.touches e then { l with up } :: rest else l :: setFirst rest
  { t with links := setFirst t.links }

/-- The state of a physical port and of the link at it. -/
def refreshPhysical (r : Refresh) (e : LinkEnd) : Except Fault Refresh :=
  match r.topology.linkAt e with
  | none => .ok (r.setOper e false)
  | some l => do
    let up ← r.topology.bothEndsOn l
    let _ ← r.topology.interface l.b
    let linked := { r with topology := r.topology.setLinkAt e up }
    return l.ends.foldl (fun r e => r.setOper e up) linked

/-- The state of a port that was touched: of itself if it is physical, of its parent if it is a
subinterface. -/
def refreshPort (r : Refresh) (e : LinkEnd) : Except Fault Refresh :=
  match r.topology.devices.get? e.device with
  | none => .ok r
  | some d => do
    let (parent, _) ← InterfaceName.split e.port
    if d.interfaces.contains parent then
      if (← InterfaceName.kind parent) = .physical then
        return ← refreshPhysical (r.mark e) ⟨e.device, parent⟩
    return r.mark e

/-- Whether some element passes a check. -/
def anyOf (check : α → Except Fault Bool) (xs : List α) : Except Fault Bool := do
  return (← findFirst check xs).isSome

/-- Whether a port of a switch brings up the interface of a VLAN. -/
def bringsUpVlan (vlan : Int) (p : Interface) : Except Fault Bool := do
  if (← p.kind) = .physical then return p.operUp && p.carries vlan
  return false

/-- Whether an interface that is not physical works, as the rest of its device dictates. -/
def logicalState (d : Device) (i : Interface) : PortKind → Except Fault Bool
  | .physical => .ok i.operUp
  | .loopback => .ok i.adminUp
  | .subinterface => do
    let (parent, _) ← InterfaceName.split i.name
    return i.adminUp && (d.interfaces.get? parent).any (·.operUp)
  | .svi => do
    let vlan ← InterfaceName.vlanOf i.name
    if i.adminUp && d.vlans.contains vlan then anyOf (bringsUpVlan vlan) d.interfaces.values
    else return false
  | .portChannel => do
    let group ← InterfaceName.groupOf i.name
    return i.adminUp && d.interfaces.values.any fun p => p.operUp && p.channelGroup = some group

/-- The state of one interface that is not physical. -/
def refreshLogicalOne (device : String) (r : Refresh) (e : String × Interface) :
    Except Fault Refresh := do
  let (key, i) := e
  let kind ← i.kind
  if kind = .physical then return r
  let up ← logicalState (← r.topology.entry device) i kind
  if i.operUp = up then return r
  return { r with
    topology := r.topology.modifyInterface ⟨device, key⟩ fun i => { i with operUp := up } }.mark
      ⟨device, i.name⟩

/-- The state of the interfaces of a device that are not physical, in the order of their names. -/
def refreshLogical (r : Refresh) (device : String) : Except Fault Refresh :=
  match r.topology.devices.get? device with
  | none => .ok r
  | some d => do (← d.sortedEntries).foldlM (refreshLogicalOne device) r

/-- The route of a device to the network of one of its interfaces. -/
def connectedRoute (n : Network) (name : String) : Route where
  network := n.base.text
  mask := n.mask.text
  source := .known .connected
  distance := 0
  interface := some name

/-- A device with the connected routes of an interface as its state dictates. -/
def withConnected (d : Device) (name : String) : Except Fault Device := do
  let others := d.routes.filter fun r => !(r.isFrom .connected && r.interface = some name)
  let network ← match d.interfaces.get? name with
    | some i => if i.operUp then i.network? else pure none
    | none => pure none
  match network with
  | none => return { d with routes := others }
  | some n => return { d with routes := ← insertRoute others (connectedRoute n name) }

/-- The connected routes of a port. -/
def refreshConnected (t : Topology) (e : LinkEnd) : Except Fault Topology := do
  let d ← withConnected (← t.entry e.device) e.port
  return t.modifyDevice e.device fun _ => d

/-- Carries a change of ports on.  `devices` are looked at even without a changed port, and OSPF
computes anew if a port is dirty or `routing` says so. -/
def propagatePorts (t : Topology) (ports : List LinkEnd) (routing : Bool) (devices : List String) :
    Except Fault Refresh := do
  let r ← (sortEnds (distinct ports)).foldlM refreshPort ⟨t, []⟩
  let touched := sortTexts (distinct (r.dirty.map (·.device) ++ devices))
  let r ← touched.foldlM refreshLogical r
  let connected ← (sortEnds r.dirty).foldlM refreshConnected r.topology
  let result ← if !r.dirty.isEmpty || routing then connected.recomputeOspf else pure connected
  result.verify
  return ⟨result, r.dirty⟩

/-- Carries a change of a device's interfaces on. -/
def propagate (t : Topology) (device : String) (interfaces : List String) (routing : Bool) :
    Except Fault Refresh :=
  t.propagatePorts (interfaces.map fun n => ⟨device, n⟩) routing [device]

end Topology

end NetRack
