import NetRack.Show.RunningConfig
import NetRack.Topology.Ospf

/-!
# Routing at a glance

Routes, routing processes and their neighbors, access lists, address translation and pools of
addresses, the neighbors across cables, and the addresses of an end host.
-/

namespace NetRack.Show

open Text

/-! ## Routes -/

/-- A route, its network read. -/
def routeRow (n : Network) (r : Route) : String :=
  let code := padRight 5 (r.code ++ (if n.length = 0 then "*" else "")) ++ n.text
  let cost := " [" ++ intText r.distance ++ "/" ++ intText r.metric ++ "] via "
  let direct := code ++ " is directly connected, " ++ orNone r.interface
  if r.isFrom .connected then direct
  else
    match present? r.nextHop, present? r.interface with
    | some hop, some i => code ++ cost ++ hop ++ ", 00:00:00, " ++ i
    | some hop, none => code ++ cost ++ hop
    | none, _ => direct

/-- The gateway that a default route leads to. -/
def gateway (r : Route) : String := (present? r.nextHop).getD (orNone r.interface)

/-- The routes of a device. -/
def routes (d : Device) : Except Fault String := do
  let keyed ← d.routes.mapM fun r => do return (← r.destination, r)
  let last := match keyed.find? fun e => e.1.length = 0 with
    | some e => "Gateway of last resort is " ++ gateway e.2 ++ " to network 0.0.0.0"
    | none => "Gateway of last resort is not set"
  return unlines ([
    "Codes: L - local, C - connected, S - static, R - RIP, O - OSPF",
    "       * - candidate default",
    "", last, ""] ++ keyed.map fun e => routeRow e.1 e.2)

/-! ## Routing processes -/

/-- The OSPF process of a router. -/
def ospfProtocol (c : OspfConfig) (id : Option String) : List String :=
  ["Routing Protocol is \"ospf " ++ intText c.processId ++ "\"",
    match id with
    | some id => "  Router ID " ++ id
    | none => "  Router ID not set"]
    ++ linesIf (!c.networks.isEmpty) ("  Routing for Networks:" :: c.networks.map fun n =>
      "    " ++ n.network ++ " " ++ n.wildcard ++ " area " ++ intText n.area)
    ++ linesIf (!c.passiveInterfaces.isEmpty)
      ("  Passive Interface(s):" :: c.passiveInterfaces.map ("    " ++ ·))
    ++ ["  Distance: (default is 110)", ""]

/-- The RIP process of a router. -/
def ripProtocol (c : RipConfig) : List String :=
  let version := intText c.version
  ["Routing Protocol is \"rip\"",
    "  Default version control: send version " ++ version ++ ", receive version " ++ version,
    "  Automatic network summarization is " ++
      (if c.autoSummary then "in effect" else "not in effect"),
    "  Routing for Networks:"]
    ++ c.networks.map ("    " ++ ·)
    ++ ["  Distance: (default is 120)", ""]

/-- The routing processes of a device. -/
def protocols (d : Device) : Except Fault String := do
  let id ← d.effectiveRouterId
  return trimEnd (unlines (sectionOf (ospfProtocol · id) d.ospf ++ sectionOf ripProtocol d.rip))

/-- The neighbors that OSPF has found. -/
def ospfNeighbors (d : Device) : String :=
  let head := padRight 17 "Neighbor ID" ++ padRight 5 "Pri" ++ padRight 17 "State" ++
    padRight 12 "Dead Time" ++ padRight 17 "Address" ++ "Interface"
  unlines (head :: d.ospfNeighbors.map fun n =>
    padRight 17 n.neighborId ++ padRight 5 "1" ++ padRight 17 (n.state ++ "/  -")
      ++ padRight 12 "00:00:39" ++ padRight 17 n.address ++ n.interface)

/-! ## Filters and services -/

/-- The rules of an access list, numbered in tens. -/
def ruleRows (l : AccessList) : List String :=
  l.rules.mapIdx fun i r => "    " ++ natText ((i + 1) * 10) ++ " " ++ aclRule r l.kind

/-- The access lists of a device. -/
def accessLists (d : Device) : Except Fault String := do
  return unlines ((← sortedAcls d).flatMap fun e =>
    ((if e.2.kind.holds .standard then "Standard" else "Extended") ++ " IP access list " ++ e.1)
      :: ruleRows e.2)

/-- The fixed address translations of a device. -/
def natTranslations (d : Device) : String :=
  let row (a b c e f : String) : String :=
    padRight 5 a ++ padRight 20 b ++ padRight 20 c ++ padRight 20 e ++ f
  unlines (row "Pro" "Inside global" "Inside local" "Outside local" "Outside global" ::
    d.nat.statics.map fun s => row "---" s.globalAddress s.localAddress "---" "---")

/-- How many addresses a pool can lease. -/
def poolSize (p : DhcpPool) : Except Fault Nat :=
  match present? p.network with
  | none => .ok 0
  | some network => do return (← Network.read network (orNone p.mask)).size - 2

/-- A pool of addresses. -/
def dhcpPoolRows (name : String) (p : DhcpPool) : Except Fault (List String) := do
  let orDash (s : Option String) : String := (present? s).getD "none"
  return ["Pool " ++ name ++ " :",
    " Total addresses                : " ++ natText (← poolSize p),
    " Leased addresses               : 0",
    " Default router                 : " ++ orDash p.defaultRouter,
    " DNS server                     : " ++ orDash (some (commaSeparated p.dnsServers)),
    " Domain name                    : " ++ orDash p.domainName,
    " Lease (days)                   : " ++ intText (p.leaseDays.getD 1)]
    ++ lineWith " Network                        : " p.network (" " ++ orNone p.mask)
    ++ [""]

/-- The pools of addresses of a device. -/
def dhcpPools (d : Device) : Except Fault String := do
  let rows ← (sortedByName d.dhcpPools).mapM fun e => dhcpPoolRows e.1 e.2
  return trimEnd (unlines rows.flatten)

/-! ## Neighbors and end hosts -/

/-- The devices across the cables of a device. -/
def cdpNeighbors (t : Topology) (d : Device) : Except Fault String := do
  let rows := (sortBy (keyLe Topology.Neighbor.localPort) (← t.neighbors d.id)).map fun n =>
    let router := n.device.isA .router
    padRight 17 n.device.hostname ++ padRight 16 (InterfaceName.short n.localPort)
      ++ padRight 11 "160" ++ padRight 13 (if router then "R" else "S")
      ++ padRight 12 (if router then "C2900" else "2960") ++ InterfaceName.short n.port
  return unlines ([
    "Capability Codes: R - Router, T - Trans Bridge, B - Source Route Bridge",
    "                  S - Switch, H - Host, I - IGMP, r - Repeater, P - Phone",
    padRight 17 "Device ID" ++ padRight 16 "Local Intrfce" ++ padRight 11 "Holdtme"
      ++ padRight 13 "Capability" ++ padRight 12 "Platform" ++ "Port ID"] ++ rows)

/-- The addresses of an end host. -/
def hostAddresses (d : Device) : Except Fault String := do
  let orZero (s : Option String) : String := (present? s).getD "0.0.0.0"
  let rows := (← d.sortedInterfaces).flatMap fun i => [
    i.name ++ " Connection:(default port)",
    "",
    "   IPv4 Address....................: " ++ orZero i.ip,
    "   Subnet Mask.....................: " ++ orZero i.mask,
    "   Default Gateway.................: " ++ orZero d.defaultGateway,
    ""]
  return trimEnd (unlines rows)

end NetRack.Show
