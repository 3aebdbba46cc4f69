import NetRack.Command.Basic
import NetRack.Resolver.Basic
import NetRack.Topology.Trace

/-!
# Outcomes of commands

A command changes the device that it is given to and says what else depends on the change, or the
device refuses it.
-/

namespace NetRack

/-- Why a device refuses a command that it understands. -/
inductive Refusal where
  | incomplete
  | switchesOnly
  | routersOnly
  | unknownTarget
  | invalidSource
  | noSuchInterface (name : String)
  | badHostname
  | inconsistentMask
  | ownNextHop
  | noSuchRoute
  | otherOspfProcess (process : Int)
  | noOspfProcess (process : Int)
  | badLineRange
  | defaultVlan
  | noSuchVlan (vlan : Int)
  | vlanInUse (vlan : Int) (users : List String)
  | otherListKind (kind : Stored AclKind)
  | standardProtocol
  | extendedProtocol
  | badAddressRange
  | addressMapped (localAddress globalAddress : String)
  | noSuchPool (name : String)
  | badPoolRange
  | badPriority
  | switchPortAddress
  | untaggedSubinterface
  | badMask (length : Nat) (address : Address)
  | overlap (base : Address) (interface : String)
  | otherAddress
  | noSuchList
  | notSwitchPort (name : String)
  | securedTrunk (name : String)
  | maximumTooSmall
  | maximumReached (name : String)
  | subinterfacesOnly
  | vlanTagTaken (vlan : Int)
  | cannotJoinGroup (name : String)
  | protocolMismatch (name : String) (group : Int)
  | notForRip
  | notForOspf
  | otherArea (network wildcard : String) (area : Int)
  | noSuchNetwork
  | vtyOnly
  | longVlanName
  | badHostAddress
  | badGateway
deriving DecidableEq

namespace Refusal

/-- The kind of error that a refusal is reported as. -/
def kind : Refusal → ErrorKind
  | incomplete => .incomplete
  | _ => .semanticRejection

/-- What the device says. -/
def message : Refusal → String
  | incomplete => incompleteCommand
  | switchesOnly => "% Command only valid on switches"
  | routersOnly => "% Command only valid on routers"
  | unknownTarget => "% Unrecognized host or address, or protocol not running."
  | invalidSource => "% Invalid source interface - IP not enabled or interface is down"
  | noSuchInterface name => s!"% Interface {name} does not exist"
  | badHostname => "% Hostname contains one or more illegal characters."
  | inconsistentMask => "%Inconsistent address and mask"
  | ownNextHop => "%Invalid next hop address (it's this router)"
  | noSuchRoute => "%No matching route to delete"
  | otherOspfProcess process =>
    "% OSPF process " ++ Text.intText process ++ " is already configured"
  | noOspfProcess process => "%OSPF: Process " ++ Text.intText process ++ " is not configured"
  | badLineRange => "% Invalid line range"
  | defaultVlan => "%Default VLAN 1 may not be deleted."
  | noSuchVlan vlan => "% VLAN " ++ Text.intText vlan ++ " does not exist"
  | vlanInUse vlan users =>
    "% VLAN " ++ Text.intText vlan ++ " is in use by " ++ Text.commaSeparated users
  | otherListKind kind =>
    "% A named " ++ kind.text ++ " IP access list with this name already exists"
  | standardProtocol => "% Standard access lists match on source address only"
  | extendedProtocol => "% Extended access lists require a protocol"
  | badAddressRange => "% Invalid address range"
  | addressMapped localAddress globalAddress =>
    s!"% {localAddress} already mapped ({localAddress} -> {globalAddress})"
  | noSuchPool name => s!"%Pool {name} not found"
  | badPoolRange => "%End address less than start address"
  | badPriority => "% Bridge Priority must be in increments of 4096."
  | switchPortAddress => "% IP addresses may not be configured on L2 links."
  | untaggedSubinterface =>
    "% Configuring IP routing on a LAN subinterface is only allowed if that " ++
      "subinterface is already configured as part of an IEEE 802.10, IEEE 802.1Q, or ISL vLAN."
  | badMask length address =>
    "Bad mask /" ++ Text.natText length ++ " for address " ++ address.text
  | overlap base interface => "% " ++ base.text ++ " overlaps with " ++ interface
  | otherAddress => "% Address not found on this interface"
  | noSuchList => "% Access list not found"
  | notSwitchPort name => s!"% {name} is not a switch port"
  | securedTrunk name => s!"Command rejected: {name} is a trunk port."
  | maximumTooSmall => "% Maximum is less than number of currently secured mac-addresses"
  | maximumReached name =>
    s!"% Total secure mac-addresses on interface {name} has reached maximum limit."
  | subinterfacesOnly => "% Encapsulation dot1Q is only supported on subinterfaces"
  | vlanTagTaken vlan =>
    "Configuration of multiple subinterfaces of the same main interface with the same VID (" ++
      Text.intText vlan ++ ") is not permitted."
  | cannotJoinGroup name => s!"% {name} cannot join a channel group"
  | protocolMismatch name group =>
    s!"Command rejected (Channel protocol mismatch for interface {name} in group " ++
      Text.intText group ++ "): the interface can not be added to the channel group"
  | notForRip => "% Command not applicable to router rip"
  | notForOspf => "% Command not applicable to router ospf"
  | otherArea network wildcard area =>
    s!"% Network {network} {wildcard} is already configured for area " ++ Text.intText area
  | noSuchNetwork => "% Network not configured"
  | vtyOnly => "% Transport input is only configurable on vty lines"
  | longVlanName => "% VLAN name must be 32 characters or fewer"
  | badHostAddress => "Invalid IP address for this subnet."
  | badGateway => "Default gateway is not in the same subnet."

end Refusal

/-- Why a line gives no outcome. -/
inductive Failure where
  /-- The line does not resolve. -/
  | unresolved (e : ResolutionError)
  /-- The device refuses the command. -/
  | refused (r : Refusal)
  /-- Something went wrong. -/
  | fault (f : Fault)
deriving DecidableEq

instance : MonadLift (Except Fault) (Except Failure) where
  monadLift
    | .ok x => .ok x
    | .error f => .error (.fault f)

/-- What a command does. -/
structure Outcome where
  /-- The device that the command was given to, changed. -/
  device : Device
  /-- What the console prints. -/
  output : String := ""
  /-- The interfaces on which more than the device may depend. -/
  touched : List String := []
  /-- Whether routes may depend on the change. -/
  routing : Bool := false
  /-- Whether the console closes. -/
  close : Bool := false
  /-- The report on a packet that was sent. -/
  report : Option TraceReport := none

namespace Outcome

/-- The refusal of a command. -/
def refuse (r : Refusal) : Except Failure α := .error (.refused r)

/-- Refuses a command under a condition. -/
def refuseIf (condition : Bool) (r : Refusal) : Except Failure Unit :=
  if condition then refuse r else .ok ()

/-- The outcome that changes the device only. -/
def ofDevice (d : Device) : Outcome := { device := d }

/-- The outcome that changes the device and may change routes. -/
def rerouting (d : Device) : Outcome := { device := d, routing := true }

/-- The outcome that changes the device and some of its interfaces. -/
def touching (d : Device) (names : List String) : Outcome := { device := d, touched := names }

/-- Refuses a command on a device that is no switch. -/
def requireSwitch (d : Device) : Except Failure Unit := refuseIf (!d.isA .switch) .switchesOnly

/-- Refuses a command on a device that is no router. -/
def requireRouter (d : Device) : Except Failure Unit := refuseIf (!d.isA .router) .routersOnly

end Outcome

end NetRack
