import NetRack.Device.Basic
import NetRack.Text.Digest

/-!
# Running configuration

The configuration of a device as commands that would set it up, preceded by the number of its
characters.
-/

namespace NetRack.Show

open Text

/-! ## Access lists -/

/-- One side of a rule: any address, one host, or a base with a wildcard. -/
def addressPattern (base wildcard : String) : String :=
  if wildcard = "255.255.255.255" then "any"
  else if wildcard = "0.0.0.0" then "host " ++ base
  else base ++ " " ++ wildcard

/-- A rule as the command that enters it. -/
def aclRule (r : AclRule) (kind : Stored AclKind) : String :=
  let source := addressPattern r.source r.sourceWildcard
  if kind.holds .standard then r.action.text ++ " " ++ source
  else
    r.action.text ++ " " ++ r.protocol.text ++ " " ++ source ++ " " ++
      addressPattern r.destination r.destinationWildcard

/-- Whether the name of an access list is a number. -/
def isNumbered (name : String) : Bool := arePlainDigits name.toList

/-- What access lists are ordered by: numbers come first, as numbers. -/
structure AclOrder where
  named : Bool
  number : Nat
  name : String

instance : Ord AclOrder where
  compare a b :=
    (compare a.named b.named).then <| (compare a.number b.number).then (compare a.name b.name)

/-- What an access list is ordered by. -/
def aclOrder (name : String) : Except Fault AclOrder :=
  if isNumbered name then do return ⟨false, ← needNumber (readDigits? name.toList), name⟩
  else .ok ⟨true, 0, name⟩

/-- The access lists in order, each with its name. -/
def sortedAcls (d : Device) : Except Fault (List (String × AccessList)) := do
  let keyed ← d.acls.entries.mapM fun e => do return (← aclOrder e.1, e)
  return (sortBy (keyLe Prod.fst) keyed).map Prod.snd

/-- The commands that set an access list up. -/
def aclCommands (name : String) (l : AccessList) : List String :=
  if isNumbered name then l.rules.map fun r => "access-list " ++ name ++ " " ++ aclRule r l.kind
  else
    ("ip access-list " ++ l.kind.text ++ " " ++ name) :: l.rules.map fun r => " " ++ aclRule r l.kind

/-- The commands that set the access lists of a device up. -/
def aclSection (d : Device) : Except Fault (List String) := do
  let lines := (← sortedAcls d).flatMap fun e => aclCommands e.1 e.2
  return if lines.isEmpty then [] else lines ++ ["!"]

/-! ## Interfaces -/

/-- A line with a text if the text is there and not empty. -/
def lineWith (before : String) (value : Option String) (after : String) : List String :=
  match present? value with
  | some s => [before ++ s ++ after]
  | none => []

/-- The commands that set the security of a port up. -/
def portSecurityCommands (ps : PortSecurity) : List String :=
  linesIf ps.enabled [" switchport port-security"]
    ++ linesIf (ps.maximum ≠ 1) [" switchport port-security maximum " ++ intText ps.maximum]
    ++ linesIf (!ps.violation.holds .shutdown)
      [" switchport port-security violation " ++ ps.violation.text]
    ++ linesIf ps.sticky [" switchport port-security mac-address sticky"]
    ++ ps.stations.map fun m => " switchport port-security mac-address " ++ m

/-- The VLANs that a trunk carries, if not all. -/
def allowedVlans (s : VlanSet) : String := if s.ids.isEmpty then "none" else s.text

/-- The commands that set a switch port up. -/
def switchportCommands (i : Interface) : List String :=
  (if i.mode.holds .trunk then
    linesIf (i.nativeVlan ≠ 1) [" switchport trunk native vlan " ++ intText i.nativeVlan]
      ++ (match i.trunkVlans with
        | some s => [" switchport trunk allowed vlan " ++ allowedVlans s]
        | none => [])
      ++ [" switchport mode trunk"]
  else
    linesIf (i.accessVlan ≠ 1) [" switchport access vlan " ++ intText i.accessVlan]
      ++ [" switchport mode access"])
    ++ portSecurityCommands i.portSecurity
    ++ linesIf i.portfast [" spanning-tree portfast"]

/-- The command that gives an interface its address. -/
def addressCommand (i : Interface) (kind : PortKind) : List String :=
  match i.addressing? with
  | some (ip, mask) => [" ip address " ++ ip ++ " " ++ mask]
  | none =>
    linesIf (!i.isSwitchport && (kind = .physical || kind = .subinterface || kind = .svi))
      [" no ip address"]

/-- The commands that set an interface up. -/
def interfaceCommands (d : Device) (i : Interface) : Except Fault (List String) := do
  let kind ← i.kind
  return ["interface " ++ i.name]
    ++ lineWith " description " i.description ""
    ++ (match i.dot1qVlan with
      | some v => [" encapsulation dot1Q " ++ intText v]
      | none => [])
    ++ (if d.isA .switch && i.isSwitchport then switchportCommands i else [])
    ++ (match i.channelGroup with
      | some g =>
        [" channel-group " ++ intText g ++ " mode " ++
          ((i.channelMode.map (·.text)).getD "None")]
      | none => [])
    ++ addressCommand i kind
    ++ lineWith " ip access-group " i.aclIn " in"
    ++ lineWith " ip access-group " i.aclOut " out"
    ++ lineWith " ip nat " (i.nat.map (·.text)) ""
    ++ linesIf (kind = .physical && !InterfaceName.startsWith "Serial" i.name)
      [" duplex auto", " speed auto"]
    ++ linesIf (!i.adminUp) [" shutdown"]
    ++ ["!"]

/-! ## Services -/

/-- A password as it is shown. -/
def secretHash (secret : String) : String :=
  "$1$mERr$" ++ String.ofList ((digest secret).toList.take 22)

/-- The commands that exclude addresses from being leased. -/
def dhcpExclusion (range : String × String) : String :=
  "ip dhcp excluded-address " ++ range.1 ++ (if range.2 = range.1 then "" else " " ++ range.2)

/-- A text, or what stands for one that is absent. -/
def orNone (s : Option String) : String := s.getD "None"

/-- The commands that set a pool of addresses up. -/
def dhcpPoolCommands (name : String) (p : DhcpPool) : List String :=
  ["ip dhcp pool " ++ name]
    ++ lineWith " network " p.network (" " ++ orNone p.mask)
    ++ lineWith " default-router " p.defaultRouter ""
    ++ linesIf (!p.dnsServers.isEmpty) [" dns-server " ++ String.intercalate " " p.dnsServers]
    ++ lineWith " domain-name " p.domainName ""
    ++ (match p.leaseDays with
      | some n => [" lease " ++ intText n]
      | none => [])
    ++ ["!"]

/-- The entries of a table of names in order. -/
def sortedByName (t : Table String α) : List (String × α) := sortBy (keyLe Prod.fst) t.entries

/-- The entries of a table of numbers in order. -/
def sortedByNumber (t : Table Int α) : List (Int × α) := sortBy (keyLe Prod.fst) t.entries

/-- The commands that set the spanning tree and the VLANs of a switch up. -/
def switchSection (d : Device) : List String :=
  ["spanning-tree mode " ++ d.stp.mode.text]
    ++ (sortedByNumber d.stp.vlanPriority).map (fun e =>
      "spanning-tree vlan " ++ intText e.1 ++ " priority " ++ intText e.2)
    ++ ["!"]
    ++ (sortedByNumber d.vlans).flatMap fun e =>
      linesIf (e.1 ≠ 1) ["vlan " ++ intText e.1, " name " ++ e.2, "!"]

/-- The commands that set OSPF up. -/
def ospfSection (c : OspfConfig) : List String :=
  ["router ospf " ++ intText c.processId]
    ++ lineWith " router-id " c.routerId ""
    ++ c.passiveInterfaces.map (" passive-interface " ++ ·)
    ++ c.networks.map (fun n =>
      " network " ++ n.network ++ " " ++ n.wildcard ++ " area " ++ intText n.area)
    ++ ["!"]

/-- The commands that set RIP up. -/
def ripSection (c : RipConfig) : List String :=
  ["router rip"]
    ++ linesIf (c.version ≠ 1) [" version " ++ intText c.version]
    ++ c.passiveInterfaces.map (" passive-interface " ++ ·)
    ++ c.networks.map (" network " ++ ·)
    ++ linesIf (!c.autoSummary) [" no auto-summary"]
    ++ ["!"]

/-- The command for a translation of the addresses of an access list. -/
def natDynamicCommand (n : NatDynamic) : String :=
  let target := match present? n.interface with
    | some name => "interface " ++ name
    | none => "pool " ++ orNone n.pool
  "ip nat inside source list " ++ n.acl ++ " " ++ target ++ (if n.overload then " overload" else "")

/-- The commands that set address translation up. -/
def natSection (n : NatConfig) : List String :=
  (sortBy (keyLe NatPool.name) n.pools.values).map (fun p =>
    "ip nat pool " ++ p.name ++ " " ++ p.first ++ " " ++ p.last ++ " netmask " ++ p.netmask)
    ++ n.dynamics.map natDynamicCommand
    ++ n.statics.map fun s =>
      "ip nat inside source static " ++ s.localAddress ++ " " ++ s.globalAddress

/-- The command for a static route. -/
def routeCommand (r : Route) : String :=
  let target := (present? r.nextHop).getD (orNone r.interface)
  "ip route " ++ r.network ++ " " ++ r.mask ++ " " ++ target ++
    (if r.distance = 1 then "" else " " ++ intText r.distance)

/-- The commands that set a terminal line up. -/
def lineCommands (name : String) (c : Option LineConfig) : List String :=
  ["line " ++ name]
    ++ (match c with
      | none => []
      | some c =>
        (match c.execTimeout with
        | some (m, s) => [" exec-timeout " ++ intText m ++ " " ++ intText s]
        | none => [])
          ++ lineWith " password " c.password ""
          ++ linesIf c.loggingSynchronous [" logging synchronous"]
          ++ (match c.login with
            | some l =>
              if l.isEmpty then [] else [if l.holds .account then " login local" else " login"]
            | none => [])
          ++ lineWith " transport input " (c.transport.map (·.text)) "")
    ++ ["!"]

/-- The terminal lines of a device: those that it configures and those that every device has. -/
def terminalLines (d : Device) : List (String × Option LineConfig) :=
  let configured := d.lines.mapValues fun _ c => some c
  ((configured.insertIfNew "con 0" none).insertIfNew "vty 0 4" none).entries

/-- Whether a line comes before another: consoles first, then by name. -/
def lineBefore (a b : String × Option LineConfig) : Bool :=
  let remote (name : String) : Bool := !InterfaceName.startsWith "con" name
  ((compare (remote a.1) (remote b.1)).then (compare a.1 b.1)).isLE

/-- The section of a value that may be absent. -/
def sectionOf (f : α → List String) : Option α → List String
  | some x => f x
  | none => []

/-! ## All of it -/

/-- What identifies the device, and its services. -/
def headSection (d : Device) : List String :=
  ["!", "version 15.1", "no service timestamps log datetime msec", "!", "hostname " ++ d.hostname,
    "!"]
    ++ (match present? d.enableSecret with
      | some s => ["enable secret 5 " ++ secretHash s, "!"]
      | none => [])
    ++ linesIf (!d.domainLookup) ["no ip domain-lookup"]
    ++ lineWith "ip domain-name " d.domainName ""
    ++ d.dhcpExcluded.map dhcpExclusion
    ++ (sortedByName d.dhcpPools).flatMap (fun e => dhcpPoolCommands e.1 e.2)
    ++ (if d.isA .switch then switchSection d else [])

/-- Routing and address translation. -/
def routingSection (d : Device) : List String :=
  sectionOf ospfSection d.ospf
    ++ sectionOf ripSection d.rip
    ++ natSection d.nat
    ++ linesIf (!d.ipRouting && d.isA .router) ["no ip routing"]
    ++ ["ip classless"]
    ++ (d.routes.filter (·.isFrom .static)).map routeCommand
    ++ ["!"]

/-- The banner and the terminal lines. -/
def tailSection (d : Device) : List String :=
  (match present? d.bannerMotd with
    | some s => ["banner motd ^C" ++ s ++ "^C", "!"]
    | none => [])
    ++ (sortBy lineBefore (terminalLines d)).flatMap (fun e => lineCommands e.1 e.2)
    ++ ["end"]

/-- The commands that set a device up. -/
def configCommands (d : Device) : Except Fault (List String) := do
  let interfaces ← (← d.sortedInterfaces).mapM (interfaceCommands d)
  let acls ← aclSection d
  return headSection d ++ interfaces.flatten ++ routingSection d ++ acls ++ tailSection d

/-- The running configuration of a device. -/
def runningConfig (d : Device) : Except Fault String := do
  let body ← configCommands d
  let size := (unlines body).length
  return unlines (["Building configuration...", "",
    "Current configuration : " ++ natText size ++ " bytes"] ++ body)

/-- The configuration that was saved last. -/
def startupConfig (d : Device) : String := d.startupConfig.getD "startup-config is not present"

end NetRack.Show
