import NetRack.Device.VlanSet
import NetRack.InterfaceName
import NetRack.Ipv4.Network
import NetRack.Text.Layout

/-!
# Interfaces

An interface carries its state, its addressing and the way it takes part in switching.  A routed
port takes addresses; an access port belongs to one VLAN; a trunk carries many, each but the native
one with a tag.
-/

namespace NetRack

/-- How a port takes part in switching. -/
inductive PortMode where
  | routed
  | access
  | trunk
deriving DecidableEq, Repr, Inhabited

instance : Vocabulary PortMode where
  words := [.routed, .access, .trunk]
  spelling
    | .routed => "routed"
    | .access => "access"
    | .trunk => "trunk"

instance : Vocabulary.Lawful PortMode := ⟨fun w => by cases w <;> decide⟩

/-- How a member of a channel group negotiates. -/
inductive ChannelMode where
  | active
  | passive
  | on
  | desirable
  | auto
deriving DecidableEq, Repr, Inhabited

instance : Vocabulary ChannelMode where
  words := [.active, .passive, .on, .desirable, .auto]
  spelling
    | .active => "active"
    | .passive => "passive"
    | .on => "on"
    | .desirable => "desirable"
    | .auto => "auto"

instance : Vocabulary.Lawful ChannelMode := ⟨fun w => by cases w <;> decide⟩

/-- The protocols that channel modes belong to. -/
inductive ChannelProtocol where
  | lacp
  | pagp
  | static
deriving DecidableEq, Repr

/-- The protocol of a channel mode. -/
def ChannelMode.protocol : ChannelMode → ChannelProtocol
  | active => .lacp
  | passive => .lacp
  | desirable => .pagp
  | auto => .pagp
  | on => .static

/-- The side of address translation that an interface is on. -/
inductive NatSide where
  | inside
  | outside
deriving DecidableEq, Repr, Inhabited

instance : Vocabulary NatSide where
  words := [.inside, .outside]
  spelling
    | .inside => "inside"
    | .outside => "outside"

instance : Vocabulary.Lawful NatSide := ⟨fun w => by cases w <;> decide⟩

/-- What a secure port does about a stranger. -/
inductive Violation where
  | protect
  | restrict
  | shutdown
deriving DecidableEq, Repr, Inhabited

instance : Vocabulary Violation where
  words := [.protect, .restrict, .shutdown]
  spelling
    | .protect => "protect"
    | .restrict => "restrict"
    | .shutdown => "shutdown"

instance : Vocabulary.Lawful Violation := ⟨fun w => by cases w <;> decide⟩

/-- The stations that a port admits. -/
structure PortSecurity where
  enabled : Bool := false
  maximum : Int := 1
  violation : Stored Violation := .known .shutdown
  sticky : Bool := false
  stations : List String := []
deriving DecidableEq

/-- An interface of a device. -/
structure Interface where
  name : String
  adminUp : Bool := false
  operUp : Bool := false
  station : String := ""
  description : Option String := none
  ip : Option String := none
  mask : Option String := none
  dot1qVlan : Option Int := none
  mode : Stored PortMode := .known .routed
  accessVlan : Int := 1
  /-- The VLANs that a trunk carries; all if absent. -/
  trunkVlans : Option VlanSet := none
  nativeVlan : Int := 1
  portSecurity : PortSecurity := {}
  portfast : Bool := false
  channelGroup : Option Int := none
  channelMode : Option (Stored ChannelMode) := none
  aclIn : Option String := none
  aclOut : Option String := none
  nat : Option (Stored NatSide) := none
deriving DecidableEq

namespace Interface

/-- The address and the mask of an interface that has both. -/
def addressing? (i : Interface) : Option (String × String) := do
  return (← Text.present? i.ip, ← Text.present? i.mask)

/-- Whether the interface has an address and a mask. -/
def hasIp (i : Interface) : Bool := i.addressing?.isSome

/-- Whether the interface works and has an address and a mask. -/
def isActive (i : Interface) : Bool := i.operUp && i.hasIp

/-- The network that an interface with the given addressing is in. -/
def networkOf (addressing : String × String) : Except Fault Network :=
  Network.readAround addressing.1 addressing.2

/-- The network that the interface is in, if it has an address and a mask. -/
def network? (i : Interface) : Except Fault (Option Network) :=
  match i.addressing? with
  | some pair => do return some (← networkOf pair)
  | none => .ok none

/-- Whether the interface takes part in switching. -/
def isSwitchport (i : Interface) : Bool := i.mode.holds .access || i.mode.holds .trunk

/-- Whether frames of a VLAN pass the port. -/
def carries (i : Interface) (vlan : Int) : Bool :=
  match i.mode with
  | .known .access => i.accessVlan = vlan
  | .known .trunk =>
    match i.trunkVlans with
    | none => true
    | some set => set.contains vlan
  | _ => false

/-- What the interface is, by its name. -/
def kind (i : Interface) : Except Fault PortKind := InterfaceName.kind i.name

/-- An interface of a device as it leaves the factory. -/
def factory (deviceId name : String) (mode : PortMode) : Interface :=
  { name, mode := .known mode, station := InterfaceName.stationAddress s!"{deviceId}:{name}" }

end Interface

end NetRack
