import NetRack.Show.RunningConfig
import NetRack.Text.Letters

/-!
# Interfaces at a glance

Tables of interfaces, ports, trunks, VLANs and channel groups, and the software that runs on a
device.
-/

namespace NetRack.Show

open Text

/-! ## Interfaces -/

/-- The state of an interface and of its protocol. -/
def interfaceState (i : Interface) : String × String :=
  if !i.adminUp then ("administratively down", "down")
  else if !i.operUp then ("down", "down")
  else ("up", "up")

/-- A row of the list of addresses. -/
def addressRow (i : Interface) : String :=
  let (state, protocol) := interfaceState i
  let (ip, method) := match i.addressing? with
    | some (ip, _) => (ip, "manual")
    | none => ("unassigned", "unset")
  padRight 27 i.name ++ padRight 16 ip ++ "YES " ++ padRight 6 method ++ " " ++
    padRight 21 state ++ " " ++ protocol

/-- The addresses of all interfaces. -/
def interfaceBrief (d : Device) : Except Fault String := do
  let head := padRight 27 "Interface" ++ padRight 16 "IP-Address" ++
    "OK? Method Status                Protocol"
  return unlines (head :: (← d.sortedInterfaces).map addressRow)

/-- The state of a port. -/
def portState (i : Interface) : String :=
  if !i.adminUp then "disabled" else if i.operUp then "connected" else "notconnect"

/-- A row of the list of ports. -/
def portRow (i : Interface) : String :=
  let vlan := if i.mode.holds .trunk then "trunk" else intText i.accessVlan
  let medium := if InterfaceName.startsWith "Fast" i.name then "10/100BaseTX" else "10/100/1000BaseTX"
  padRight 10 (InterfaceName.short i.name)
    ++ padRight 19 (String.ofList ((i.description.getD "").toList.take 18))
    ++ padRight 13 (portState i) ++ padRight 11 vlan ++ padRight 7 "auto" ++ padRight 7 "auto"
    ++ medium

/-- The interfaces of a device that are physical ports, in order. -/
def physicalPorts (d : Device) : Except Fault (List Interface) := do
  let kinds ← (← d.sortedInterfaces).mapM fun i => do return (← i.kind, i)
  return (kinds.filter fun e => e.1 == .physical).map Prod.snd

/-- The state of all ports. -/
def interfacesStatus (d : Device) : Except Fault String := do
  let head := padRight 10 "Port" ++ padRight 19 "Name" ++ padRight 13 "Status" ++
    padRight 11 "Vlan" ++ padRight 7 "Duplex" ++ padRight 7 "Speed" ++ "Type"
  return unlines (head :: (← physicalPorts d).map portRow)

/-! ## Switching -/

/-- A row that starts with the short name of an interface. -/
def trunkRow (i : Interface) (text : String) : String :=
  padRight 12 (InterfaceName.short i.name) ++ text

/-- A list of VLANs, or what stands for an empty one. -/
def vlansOrNone (vs : List Int) : String := if vs.isEmpty then "none" else vlanListText vs

/-- The trunks with the VLANs that they carry. -/
def interfacesTrunk (d : Device) : Except Fault String := do
  let trunks := (← d.sortedInterfaces).filter fun i => i.mode.holds .trunk
  let head := padRight 12 "Port" ++ padRight 13 "Mode" ++ padRight 15 "Encapsulation" ++
    padRight 14 "Status" ++ "Native vlan"
  let states := trunks.map fun i => trunkRow i <|
    padRight 13 "on" ++ padRight 15 "802.1q"
      ++ padRight 14 (if i.operUp then "trunking" else "not-trunking") ++ intText i.nativeVlan
  let allowed := trunks.map fun i => trunkRow i <|
    match i.trunkVlans with
    | none => "1-4094"
    | some s => allowedVlans s
  let active := trunks.map fun i => trunkRow i <|
    vlansOrNone (((sortedByNumber d.vlans).map Prod.fst).filter i.carries)
  return unlines ([head] ++ states ++ ["", padRight 12 "Port" ++ "Vlans allowed on trunk"] ++ allowed
    ++ ["", padRight 12 "Port" ++ "Vlans allowed and active in management domain"] ++ active)

/-- The rows of a VLAN with its access ports, four in a row. -/
def vlanRows (ports : List Interface) (vlan : Int) (name : String) : List String :=
  let members := ports.filter fun i => i.mode.holds .access && i.accessVlan = vlan
  let rows := (groupsOfFour (members.map fun i => InterfaceName.short i.name)).map commaSeparated
  let first := padRight 5 (intText vlan) ++ padRight 33 name ++ padRight 10 "active"
  trimEnd (first ++ rows.headD "") :: (rows.drop 1).map fun row => spaces 48 ++ row

/-- The VLANs with their access ports. -/
def vlanBrief (d : Device) : Except Fault String := do
  let dashes (n : Nat) : String := String.ofList (List.replicate n '-')
  let head := padRight 5 "VLAN" ++ padRight 33 "Name" ++ padRight 10 "Status" ++ "Ports"
  let rule := String.intercalate " " [dashes 4, dashes 32, dashes 9, dashes 31]
  let vlans := sortedByNumber d.vlans
  let ports ← if vlans.isEmpty then pure [] else physicalPorts d
  return unlines (head :: rule :: vlans.flatMap fun e => vlanRows ports e.1 e.2)

/-- The name of the protocol that a member of a channel group speaks. -/
def channelProtocolText (mode : Option (Stored ChannelMode)) : String :=
  match mode with
  | some (.known m) =>
    match m.protocol with
    | .lacp => "LACP"
    | .pagp => "PAgP"
    | .static => "-"
  | _ => "-"

/-- A row of the list of channel groups. -/
def channelRow (d : Device) (group : Int) (members : List Interface) : String :=
  let up := (d.interfaces.get? (InterfaceName.ofGroup group)).any (·.operUp)
  let flags := (if d.isA .switch then "S" else "R") ++ (if up then "U" else "D")
  let port (i : Interface) : String :=
    InterfaceName.short i.name ++ (if i.operUp then "(P)" else "(D)")
  let mode := members.head?.bind (·.channelMode)
  padRight 7 (intText group) ++ padRight 14 ("Po" ++ intText group ++ "(" ++ flags ++ ")")
    ++ padRight 12 (channelProtocolText mode) ++ String.intercalate " " (members.map port)

/-- The channel groups with their members. -/
def etherchannelSummary (d : Device) : Except Fault String := do
  let interfaces ← d.sortedInterfaces
  let groups := distinct (interfaces.filterMap (·.channelGroup))
  let rows := (sortBy (keyLe id) groups).map fun g =>
    channelRow d g (interfaces.filter fun i => i.channelGroup = some g)
  return unlines ([
    "Flags:  D - down        P - bundled in port-channel",
    "        S - Layer2      R - Layer3      U - in use",
    "",
    "Number of channel-groups in use: " ++ natText groups.length,
    "",
    "Group  Port-channel  Protocol    Ports",
    "------+-------------+-----------+----------------------------------------------"] ++ rows)

/-! ## Port security -/

/-- A row of the list of secure ports. -/
def securePortRow (i : Interface) : String :=
  let ps := i.portSecurity
  padLeft 11 (InterfaceName.short i.name) ++ padLeft 15 (intText ps.maximum)
    ++ padLeft 13 (natText ps.stations.length) ++ padLeft 19 "0" ++ "  "
    ++ capitalize ps.violation.text

/-- The secure ports. -/
def securePorts (d : Device) : Except Fault String := do
  let ports := (← d.sortedInterfaces).filter (·.portSecurity.enabled)
  return unlines
    ("Secure Port  MaxSecureAddr  CurrentAddr  SecurityViolation  Security Action"
      :: ports.map securePortRow)

/-- The security of one port. -/
def securePort (i : Interface) : String :=
  let ps := i.portSecurity
  let rows := [
    ("Port Security", if ps.enabled then "Enabled" else "Disabled"),
    ("Port Status", if ps.enabled && i.operUp then "Secure-up" else "Secure-down"),
    ("Violation Mode", capitalize ps.violation.text),
    ("Maximum MAC Addresses", intText ps.maximum),
    ("Total MAC Addresses", natText ps.stations.length),
    ("Configured MAC Addresses", natText ps.stations.length),
    ("Sticky MAC Addresses", "0"),
    ("Security Violation Count", "0")]
  unlines (rows.map fun r => padRight 27 r.1 ++ ": " ++ r.2)

/-! ## The device -/

/-- The model of a device and the software that it runs. -/
def platform : DeviceType → String × String
  | .router =>
    ("CISCO2911/K9",
      "C2900 Software (C2900-UNIVERSALK9-M), Version 15.1(4)M4, RELEASE SOFTWARE (fc2)")
  | .switch =>
    ("WS-C2960-24TT-L",
      "C2960 Software (C2960-LANBASEK9-M), Version 15.0(2)SE4, RELEASE SOFTWARE (fc1)")
  | .pc => ("PC-PT", "PC Firmware")

/-- The letters of the names of the physical ports, in the order of the table. -/
def portTypes (d : Device) : Except Fault (List String) := do
  let kinds ← d.interfaces.values.mapM fun i => do return (← i.kind, i)
  return (kinds.filter fun e => e.1 == .physical).map fun e =>
    String.ofList (e.2.name.toList.filter isLetter)

/-- The hardware and software of a device. -/
def version (d : Device) : Except Fault String :=
  match d.type with
  | .foreign text _ => .error (.noEntry text)
  | .known type => do
    let (model, image) := platform type
    let types ← portTypes d
    let counts := (sortTexts (distinct types)).map fun t =>
      natText (types.filter (· = t)).length ++ " " ++ t ++ " interfaces"
    return unlines ([
      "Cisco IOS Software, " ++ image,
      "Technical Support: http://www.cisco.com/techsupport",
      "",
      d.hostname ++ " uptime is 0 minutes",
      "System image file is \"flash0:\"",
      "",
      "cisco " ++ model ++ " processor with 491520K/32768K bytes of memory."] ++ counts
      ++ ["", "Configuration register is 0x2102"])

end NetRack.Show
