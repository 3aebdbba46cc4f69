import NetRack.Command.Outcome
import NetRack.Topology.Propagation

/-!
# Interface commands

Commands that configure the interface that the console's context names.
-/

namespace NetRack

open Outcome

/-- The entry of the interface table that is under configuration. -/
def currentInterface (d : Device) : Except Failure (String × Interface) :=
  let found := d.context.interface.bind fun key => (d.interfaces.get? key).map fun i => (key, i)
  match found with
  | some e => .ok e
  | none => .error (.fault (.inconsistent (.lostObject .interfaceConfig)))

/-- The device with an interface changed that nothing else depends on. -/
def setInterface (d : Device) (key : String) (i : Interface) : Outcome :=
  ofDevice (d.modifyInterface key fun _ => i)

/-- The device with an interface changed that others may depend on. -/
def touchInterface (d : Device) (key : String) (i : Interface) : Outcome :=
  touching (d.modifyInterface key fun _ => i) [i.name]

/-- The switch port under configuration. -/
def currentSwitchport (d : Device) : Except Failure (String × Interface) := do
  requireSwitch d
  let (key, i) ← currentInterface d
  let kind ← i.kind
  refuseIf (kind ≠ .physical && kind ≠ .portChannel) (.notSwitchPort i.name)
  return (key, i)

/-! ## Addresses -/

/-- Refuses an address to an interface that cannot have one. -/
def checkAddressable (d : Device) (i : Interface) : Except Failure Unit := do
  let kind ← i.kind
  refuseIf (d.isA .switch && (kind = .physical || kind = .portChannel)) .switchPortAddress
  refuseIf (kind = .subinterface && i.dot1qVlan.isNone) .untaggedSubinterface

/-- Whether an address is the first or the last of a network that has room for more than two. -/
def isReserved (n : Network) (a : Address) : Bool := n.length < 31 && (a = n.base || a = n.broadcast)

/-- Whether another interface has a network that overlaps with the given one. -/
def overlapsWith (n : Network) (name : String) (other : Interface) : Except Fault Bool :=
  if other.name = name then .ok false else do return (← other.network?).any (·.overlaps n)

/-- The network that an address is in by its mask. -/
def networkAround (ip mask : Address) : Except Fault Network :=
  match mask.netmaskLength? with
  | some length => .ok (.around ip length)
  | none => .error .badMask

/-- The interface with an address. -/
def setAddress (d : Device) (ip mask : Address) : Except Failure Outcome := do
  let (key, i) ← currentInterface d
  checkAddressable d i
  let n ← networkAround ip mask
  refuseIf (isReserved n ip) (.badMask n.length ip)
  match ← Topology.findFirst (overlapsWith n i.name) (← d.sortedInterfaces) with
  | some other => refuse (.overlap n.base other.name)
  | none => pure ()
  let i := { i with ip := some ip.text, mask := some n.mask.text }
  return { touchInterface d key i with routing := true }

/-- The interface without its address, which must be the given one if one is given. -/
def clearAddress (d : Device) (address : Option (Address × Address)) : Except Failure Outcome := do
  let (key, i) ← currentInterface d
  let differs := address.any fun (ip, mask) => i.ip ≠ some ip.text || i.mask ≠ some mask.text
  refuseIf differs .otherAddress
  return { touchInterface d key { i with ip := none, mask := none } with routing := true }

/-! ## Filters and translation -/

/-- The interface with an access list that filters one direction. -/
def setFilter (d : Device) (acl : String) (side : FilterSide) : Except Failure Outcome := do
  let (key, i) ← currentInterface d
  refuseIf (!d.acls.contains acl) .noSuchList
  return setInterface d key <| match side with
    | .inbound => { i with aclIn := some acl }
    | .outbound => { i with aclOut := some acl }

/-- The interface without an access list in one direction. -/
def clearFilter (d : Device) (acl : String) (side : FilterSide) : Except Failure Outcome := do
  let (key, i) ← currentInterface d
  return setInterface d key <| match side with
    | .inbound => { i with aclIn := if i.aclIn = some acl then none else i.aclIn }
    | .outbound => { i with aclOut := if i.aclOut = some acl then none else i.aclOut }

/-! ## Switching -/

/-- The switch port in an access VLAN, which is created if need be. -/
def setAccessVlan (d : Device) (vlan : Int) : Except Failure Outcome := do
  let (key, i) ← currentSwitchport d
  let (d, new) := d.ensureVlan vlan
  return { touchInterface d key { i with accessVlan := vlan } with
    output :=
      if new then "% Access VLAN does not exist. Creating vlan " ++ Text.intText vlan else "" }

/-- The VLANs that a trunk carries after a change. -/
def TrunkChange.apply (current : VlanSet) : TrunkChange → VlanSet
  | all => .all
  | none => .empty
  | set vlans => .ofList vlans
  | add vlans => current.union (.ofList vlans)
  | remove vlans => current.diff (.ofList vlans)
  | except vlans => VlanSet.all.diff (.ofList vlans)

/-- The switch port as a trunk with other VLANs; all of them need not be listed. -/
def setTrunkVlans (d : Device) (change : TrunkChange) : Except Failure Outcome := do
  let (key, i) ← currentSwitchport d
  let allowed := change.apply (i.trunkVlans.getD .all)
  return touchInterface d key
    { i with trunkVlans := if allowed = .all then none else some allowed }

/-- The security of a port after a change. -/
def SecurityChange.apply (name : String) (ps : PortSecurity) :
    SecurityChange → Except Failure PortSecurity
  | enable => .ok { ps with enabled := true }
  | maximum count => do
    refuseIf (count < ps.stations.length) .maximumTooSmall
    return { ps with maximum := count }
  | violation reaction => .ok { ps with violation := .known reaction }
  | sticky => .ok { ps with sticky := true }
  | station address => do
    if address ∈ ps.stations then return ps
    refuseIf (ps.maximum ≤ ps.stations.length) (.maximumReached name)
    return { ps with stations := ps.stations ++ [address] }

/-- The switch port with other security. -/
def setPortSecurity (d : Device) (change : SecurityChange) : Except Failure Outcome := do
  let (key, i) ← currentSwitchport d
  refuseIf (i.mode.holds .trunk) (.securedTrunk i.name)
  return setInterface d key { i with portSecurity := ← change.apply i.name i.portSecurity }

/-- What is printed when a port skips the spanning tree's delay. -/
def portfastWarning (i : Interface) : String :=
  if i.mode.holds .trunk then
    "%Warning: portfast should only be enabled on ports connected to a single host.\n" ++
      "%Portfast has been configured on " ++ i.name ++
      " but will only have effect when the interface is in a non-trunking mode."
  else
    "%Warning: portfast should only be enabled on ports connected to a single\n" ++
      " host. Connecting hubs, concentrators, switches, bridges, etc... to this\n" ++
      " interface  when portfast is enabled, can cause temporary bridging loops.\n" ++
      " Use with CAUTION"

/-- Whether another interface is a subinterface of the same parent with the same tag. -/
def hasTag (parent name : String) (vlan : Int) (other : Interface) : Except Fault Bool :=
  if other.name = name then .ok false
  else do
    return (← InterfaceName.split other.name).1 = parent && other.dot1qVlan = some vlan

/-- The subinterface with a tag of its own. -/
def setEncapsulation (d : Device) (vlan : Int) : Except Failure Outcome := do
  let (key, i) ← currentInterface d
  refuseIf ((← i.kind) ≠ .subinterface) .subinterfacesOnly
  let (parent, _) ← InterfaceName.split i.name
  refuseIf (← Topology.anyOf (hasTag parent i.name vlan) d.interfaces.values) (.vlanTagTaken vlan)
  return touchInterface d key { i with dot1qVlan := some vlan }

/-! ## Channel groups -/

/-- The protocol of a member of a channel group, whose mode must be known. -/
def memberProtocol (i : Interface) : Except Fault ChannelProtocol :=
  match i.channelMode with
  | some (.known m) => .ok m.protocol
  | some (.foreign text _) => .error (.noEntry text)
  | none => .error (.noEntry "None")

/-- Whether another member of a channel group speaks another protocol. -/
def speaksOther (name : String) (group : Int) (protocol : ChannelProtocol) (other : Interface) :
    Except Fault Bool :=
  if other.name ≠ name && other.channelGroup = some group then do
    return (← memberProtocol other) ≠ protocol
  else .ok false

/-- The port as a member of a channel group, whose port channel is created if need be. -/
def joinGroup (d : Device) (group : Int) (mode : ChannelMode) : Except Failure Outcome := do
  let (key, i) ← currentInterface d
  refuseIf ((← i.kind) ≠ .physical) (.cannotJoinGroup i.name)
  let mismatch ← Topology.anyOf (speaksOther i.name group mode.protocol) (← d.sortedInterfaces)
  refuseIf mismatch (.protocolMismatch i.name group)
  let channel := InterfaceName.ofGroup group
  let new : Interface :=
    { Interface.factory d.id channel .routed with
      adminUp := true, mode := i.mode, accessVlan := i.accessVlan }
  let known := d.interfaces.contains channel
  let d := { d with interfaces := d.interfaces.insertIfNew channel new }
  let join (i : Interface) : Interface :=
    { i with channelGroup := some group, channelMode := some (.known mode) }
  return { device := d.modifyInterface key join
           output :=
             if known then ""
             else "Creating a port-channel interface Port-channel " ++ Text.intText group
           touched := [i.name, channel] }

/-- The port without its channel group. -/
def leaveGroup (d : Device) : Except Failure Outcome := do
  let (key, i) ← currentInterface d
  let channel := "Port-channel" ++ ((i.channelGroup.map Text.intText).getD "None")
  let d := d.modifyInterface key fun i => { i with channelGroup := none, channelMode := none }
  return touching d (i.name :: if d.interfaces.contains channel then [channel] else [])

/-! ## All commands -/

/-- What an interface command does to a device. -/
def InterfaceCommand.apply (d : Device) : InterfaceCommand → Except Failure Outcome
  | description text => do
    let (key, i) ← currentInterface d
    return setInterface d key { i with description := some text }
  | noDescription => do
    let (key, i) ← currentInterface d
    return setInterface d key { i with description := none }
  | shutdown => do
    let (key, i) ← currentInterface d
    return touchInterface d key { i with adminUp := false }
  | noShutdown => do
    let (key, i) ← currentInterface d
    return touchInterface d key { i with adminUp := true }
  | ipAddress ip mask => setAddress d ip mask
  | noIpAddress address => clearAddress d address
  | accessGroup acl side => setFilter d acl side
  | noAccessGroup acl side => clearFilter d acl side
  | natDirection side => do
    let (key, i) ← currentInterface d
    return setInterface d key { i with nat := some (.known side) }
  | noNatDirection side => do
    let (key, i) ← currentInterface d
    return setInterface d key { i with nat := if i.nat = some (.known side) then none else i.nat }
  | switchportMode mode => do
    let (key, i) ← currentSwitchport d
    return touchInterface d key { i with mode := .known mode }
  | switchportAccessVlan vlan => setAccessVlan d vlan
  | trunkAllowed change => setTrunkVlans d change
  | trunkNative vlan => do
    let (key, i) ← currentSwitchport d
    return touchInterface d key { i with nativeVlan := vlan }
  | portSecurity change => setPortSecurity d change
  | noPortSecurity => do
    let (key, i) ← currentSwitchport d
    return setInterface d key { i with portSecurity := {} }
  | encapsulation vlan => setEncapsulation d vlan
  | channelGroup group mode => joinGroup d group mode
  | noChannelGroup => leaveGroup d
  | portfast => do
    let (key, i) ← currentSwitchport d
    return { setInterface d key { i with portfast := true } with output := portfastWarning i }
  | noPortfast => do
    let (key, i) ← currentSwitchport d
    return setInterface d key { i with portfast := false }

end NetRack
