import NetRack.Device.Interface
import NetRack.Device.Route
import NetRack.Device.Routing
import NetRack.Device.Services

/-!
# Devices

A device is a router, a switch or an end host with a console.  Its console is in a mode; above
that stands a stack of the modes that `exit` returns to, and a context that names the object under
configuration.
-/

namespace NetRack

/-- The types of devices. -/
inductive DeviceType where
  | router
  | switch
  | pc
deriving DecidableEq, Repr, Inhabited

instance : Vocabulary DeviceType where
  words := [.router, .switch, .pc]
  spelling
    | .router => "router"
    | .switch => "switch"
    | .pc => "pc"

instance : Vocabulary.Lawful DeviceType := ⟨fun w => by cases w <;> decide +kernel⟩

/-! ## The stack of modes -/

/-- The modes to return to, the last one next, with a bound on their number. -/
structure ModeStack where
  items : List Mode := []
  capacity : Int := 4
deriving DecidableEq

namespace ModeStack

/-- The stack with one more mode. -/
def push (s : ModeStack) (m : Mode) : Except Fault ModeStack :=
  if s.capacity ≤ s.items.length then .error (.stackOverflow m)
  else .ok { s with items := s.items ++ [m] }

/-- The last mode, and the stack without it. -/
def pop (s : ModeStack) : Except Fault (Mode × ModeStack) :=
  match s.items.getLast? with
  | none => .error .stackUnderflow
  | some m => .ok (m, { s with items := s.items.dropLast })

/-- The stack without modes. -/
def clear (s : ModeStack) : ModeStack := { s with items := [] }

end ModeStack

/-- The object under configuration, by name. -/
structure EditContext where
  interface : Option String := none
  router : Option (Stored RouterProtocol) := none
  line : Option String := none
  vlan : Option Int := none
  acl : Option String := none
  dhcpPool : Option String := none
deriving DecidableEq

/-! ## The device -/

/-- A device with all its configuration and state. -/
structure Device where
  id : String
  type : Stored DeviceType
  hostname : String
  mode : Mode := .user
  modeStack : ModeStack := {}
  context : EditContext := {}
  interfaces : Table String Interface := ∅
  vlans : Table Int String := ∅
  routes : List Route := []
  acls : Table String AccessList := ∅
  ospf : Option OspfConfig := none
  ospfNeighbors : List OspfNeighbor := []
  rip : Option RipConfig := none
  lines : Table String LineConfig := ∅
  dhcpPools : Table String DhcpPool := ∅
  dhcpExcluded : List (String × String) := []
  nat : NatConfig := {}
  stp : StpConfig := {}
  enableSecret : Option String := none
  bannerMotd : Option String := none
  domainName : Option String := none
  domainLookup : Bool := true
  ipRouting : Bool := true
  defaultGateway : Option String := none
  startupConfig : Option String := none
deriving DecidableEq

namespace Device

/-- Whether the device is of a type. -/
def isA (d : Device) (t : DeviceType) : Bool := d.type.holds t

/-- What the console shows before a command. -/
def prompt (d : Device) : String := d.hostname ++ d.mode.promptMark

/-! ### Modes -/

/-- The device one mode further out, and whether its console closes. -/
def exitMode (d : Device) : Except Fault (Device × Bool) :=
  if d.mode.isConfig then do
    let (mode, modeStack) ← d.modeStack.pop
    return ({ d with mode, modeStack, context := {} }, false)
  else
    .ok ({ d with mode := .user, modeStack := d.modeStack.clear, context := {} }, true)

/-- The device in a mode, its context changed; a submode is left first. -/
def enterMode (d : Device) (mode : Mode) (select : EditContext → EditContext) :
    Except Fault Device := do
  let outer ← if d.mode.isSubmode then Prod.fst <$> d.exitMode else pure d
  let modeStack ← outer.modeStack.push outer.mode
  return { outer with mode, modeStack, context := select outer.context }

/-- The device out of every configuration mode. -/
def endConfig (d : Device) : Device :=
  { d with mode := .privileged, modeStack := d.modeStack.clear, context := {} }

/-- The device with a VLAN, and whether the VLAN is new. -/
def ensureVlan (d : Device) (vlan : Int) : Device × Bool :=
  if d.vlans.contains vlan then (d, false)
  else ({ d with vlans := d.vlans.insert vlan (defaultVlanName vlan) }, true)

/-! ### Interfaces -/

/-- The device with one of its interfaces changed. -/
def modifyInterface (d : Device) (name : String) (f : Interface → Interface) : Device :=
  { d with interfaces := d.interfaces.modify name f }

/-- The entries of the interface table in the order of their names. -/
def sortedEntries (d : Device) : Except Fault (List (String × Interface)) := do
  let keyed ← d.interfaces.entries.mapM fun e => do return (← InterfaceName.readSortKey e.1, e)
  return (sortBy (keyLe Prod.fst) keyed).map Prod.snd

/-- The interfaces in the order of their names. -/
def sortedInterfaces (d : Device) : Except Fault (List Interface) := do
  return (← d.sortedEntries).map Prod.snd

/-- The interface that has an address, and works unless that is waived. -/
def ownsIp (d : Device) (ip : String) (operational : Bool := true) : Except Fault (Option String) := do
  let found := (← d.sortedInterfaces).find? fun i =>
    i.ip = some ip && i.hasIp && (i.operUp || !operational)
  return found.map (·.name)

/-- Whether an address belongs to the device.  The interface that has it must be known by a name. -/
def isAddressed (d : Device) (ip : String) (operational : Bool := true) : Except Fault Bool := do
  return (Text.present? (← d.ownsIp ip operational)).isSome

/-! ### Factory settings -/

/-- The ports of a type of device with their modes. -/
def factoryPorts : DeviceType → List (String × PortMode)
  | .router =>
    ["GigabitEthernet0/0", "GigabitEthernet0/1", "GigabitEthernet0/2", "Serial0/0/0",
      "Serial0/0/1"].map fun n => (n, .routed)
  | .switch =>
    ((List.range 24).map fun n => ("FastEthernet0/" ++ Text.natText (n + 1), PortMode.access)) ++
      [("GigabitEthernet0/1", .access), ("GigabitEthernet0/2", .access)]
  | .pc => [("FastEthernet0", .routed)]

/-- A device as it leaves the factory: every port shut down, the console in user mode. -/
def factory (type : DeviceType) (hostname id : String) : Device where
  id := id
  type := .known type
  hostname := hostname
  interfaces := .ofList <| (factoryPorts type).map fun p => (p.1, .factory id p.1 p.2)
  vlans := if type = .switch then Table.empty.insert 1 "default" else ∅
  ipRouting := type ≠ .pc

/-- A new device of the type that a text names.  An id that is absent or empty is the host name. -/
def create (type hostname : String) (id : Option String) : Except Fault Device :=
  match Vocabulary.read? DeviceType type with
  | none => .error (.edit (.unknownType type))
  | some t => .ok (factory t hostname (Text.trim ((Text.present? id).getD hostname)))

end Device

end NetRack
