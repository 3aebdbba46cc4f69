import NetRack.Command.Outcome
import NetRack.Text.Letters

/-!
# Global commands

Commands that configure a device as a whole, and commands that enter a submode.
-/

namespace NetRack

open Outcome

/-! ## Texts -/

/-- Whether a character may stand within a host name. -/
def isHostnameChar (c : Char) : Bool := InterfaceName.isPlainLetter c || Text.isPlainDigit c || c == '-'

/-- Whether a text is a host name: a letter first, letters, digits and hyphens after it, no hyphen
last, and at most 63 characters. -/
def isHostname (s : String) : Bool :=
  match s.toList with
  | [] => false
  | c :: rest =>
    InterfaceName.isPlainLetter c && rest.length ≤ 62 && rest.all isHostnameChar &&
      rest.getLast? ≠ some '-'

/-- A banner without the mark that it is enclosed in, if it is. -/
def bannerText (text : String) : String :=
  let cs := text.toList
  match cs.head?, cs.getLast? with
  | some a, some z =>
    if 2 ≤ cs.length && a = z && !Text.isAlphanumeric a then String.ofList (cs.drop 1).dropLast
    else text
  | _, _ => text

/-! ## Routes -/

/-- The network of an address and its mask, if the address has no bits past the mask. -/
def Network.exact? (base mask : Address) : Option Network :=
  mask.netmaskLength?.bind fun length =>
    if h : base.masked length = base then some ⟨base, length, h⟩ else none

/-- The network of an address and its mask, which must agree. -/
def requireNetwork (base mask : Address) : Except Failure Network :=
  match Network.exact? base mask with
  | some n => .ok n
  | none => refuse .inconsistentMask

/-- The address of a next hop. -/
def RouteTarget.nextHop? : RouteTarget → Option String
  | hop a => some a.text
  | exit _ => none

/-- The interface that a route leaves by. -/
def RouteTarget.interface? : RouteTarget → Option String
  | hop _ => none
  | exit name => some name

/-- A static route. -/
def staticRoute (n : Network) (target : RouteTarget) (distance : Int) : Route where
  network := n.base.text
  mask := n.mask.text
  source := .known .static
  distance := distance
  nextHop := target.nextHop?
  interface := target.interface?

/-- Whether a route leads to an address of the device itself. -/
def leadsHome (d : Device) (target : RouteTarget) : Except Fault Bool :=
  match target with
  | .hop a => d.isAddressed a.text false
  | .exit _ => .ok false

/-- The device with a static route in place of any that goes the same way. -/
def addStaticRoute (d : Device) (network mask : Address) (target : RouteTarget) (distance : Int) :
    Except Failure Outcome := do
  let route := staticRoute (← requireNetwork network mask) target distance
  refuseIf (← leadsHome d target) .ownNextHop
  let routes ← insertRoute (d.routes.filter fun r => !r.sameWay route) route
  return ofDevice { d with routes }

/-- The device without the static route that goes a way. -/
def removeStaticRoute (d : Device) (network mask : Address) (target : RouteTarget) :
    Except Failure Outcome := do
  let route := staticRoute (← requireNetwork network mask) target 1
  let routes := d.routes.filter fun r => !r.sameWay route
  refuseIf (routes.length = d.routes.length) .noSuchRoute
  return ofDevice { d with routes }

/-! ## Objects to configure -/

/-- The mode of a port that a switch or another device is given. -/
def newPortMode (d : Device) (name : String) : Except Fault PortMode :=
  if d.isA .switch then do
    return if (← InterfaceName.kind name) = .portChannel then .access else .routed
  else .ok .routed

/-- An interface that is switched on from the start. -/
def newInterface (d : Device) (name : String) (mode : PortMode) : Interface :=
  { Interface.factory d.id name mode with adminUp := true }

/-- The device with an interface under configuration, a new one if need be. -/
def configureInterface (d : Device) (name : String) : Except Failure Outcome := do
  let select (c : EditContext) : EditContext := { c with interface := some name }
  if d.interfaces.contains name then
    return ofDevice (← d.enterMode .interfaceConfig select)
  let i := newInterface d name (← newPortMode d name)
  let d := { d with interfaces := d.interfaces.insert name i }
  return touching (← d.enterMode .interfaceConfig select) [name]

/-- The device with its OSPF process under configuration. -/
def configureOspf (d : Device) (process : Int) : Except Failure Outcome := do
  requireRouter d
  let config ← match d.ospf with
    | some c => if c.processId = process then pure c else refuse (.otherOspfProcess c.processId)
    | none => pure { processId := process }
  let d := { d with ospf := some config }
  return rerouting (← d.enterMode .routerConfig fun c => { c with router := some (.known .ospf) })

/-- The device with its RIP process under configuration. -/
def configureRip (d : Device) : Except Failure Outcome := do
  requireRouter d
  let d := { d with rip := some (d.rip.getD {}) }
  return ofDevice (← d.enterMode .routerConfig fun c => { c with router := some (.known .rip) })

/-- The name of terminal lines. -/
def lineName : LineRange → Except Failure String
  | .console first => .ok ("con " ++ Text.intText first)
  | .vty first none => .ok ("vty " ++ Text.intText first)
  | .vty first (some last) =>
    if last < first then refuse .badLineRange
    else .ok ("vty " ++ Text.intText first ++ " " ++ Text.intText last)

/-- The device with terminal lines under configuration. -/
def configureLine (d : Device) (range : LineRange) : Except Failure Outcome := do
  let name ← lineName range
  let d := { d with lines := d.lines.insertIfNew name { name } }
  return ofDevice (← d.enterMode .lineConfig fun c => { c with line := some name })

/-- The device with a VLAN under configuration. -/
def configureVlan (d : Device) (vlan : Int) : Except Failure Outcome := do
  requireSwitch d
  let d := (d.ensureVlan vlan).1
  return ofDevice (← d.enterMode .vlanConfig fun c => { c with vlan := some vlan })

/-- The device without a VLAN that no port is in. -/
def removeVlan (d : Device) (vlan : Int) : Except Failure Outcome := do
  requireSwitch d
  refuseIf (vlan = 1) .defaultVlan
  refuseIf (!d.vlans.contains vlan) (.noSuchVlan vlan)
  let users := (← d.sortedInterfaces).filter fun i => i.mode.holds .access && i.accessVlan = vlan
  refuseIf (!users.isEmpty) (.vlanInUse vlan (users.map (·.name)))
  return ofDevice { d with vlans := d.vlans.erase vlan }

/-! ## Access lists -/

/-- A rule as a list holds it. -/
def RuleEntry.rule (e : RuleEntry) : AclRule where
  action := .known e.action
  source := e.source.base.text
  sourceWildcard := e.source.wildcard.text
  protocol := .known (e.protocol.getD .ip)
  destination := e.destination.base.text
  destinationWildcard := e.destination.wildcard.text

/-- The list with a rule at its end, unless it has the rule already. -/
def AccessList.append (l : AccessList) (e : RuleEntry) : Except Failure AccessList := do
  refuseIf (l.kind.holds .standard && e.protocol.isSome) .standardProtocol
  refuseIf (l.kind.holds .extended && e.protocol.isNone) .extendedProtocol
  return if e.rule ∈ l.rules then l else { l with rules := l.rules ++ [e.rule] }

/-- The device with a named list under configuration. -/
def configureList (d : Device) (kind : AclKind) (name : String) : Except Failure Outcome := do
  match d.acls.get? name with
  | some l => refuseIf (!l.kind.holds kind) (.otherListKind l.kind)
  | none => pure ()
  let d := { d with acls := d.acls.insertIfNew name { name, kind := .known kind } }
  return ofDevice (← d.enterMode .aclConfig fun c => { c with acl := some name })

/-- The device with a rule in a numbered list; numbers below 100 are of standard lists. -/
def addNumberedRule (d : Device) (number : Int) (e : RuleEntry) : Except Failure Outcome := do
  let name := Text.intText number
  let kind : AclKind := if number < 100 then .standard else .extended
  let l := (d.acls.get? name).getD { name, kind := .known kind }
  return ofDevice { d with acls := d.acls.insert name (← l.append e) }

/-! ## Services -/

/-- The device with addresses that are not leased. -/
def excludeAddresses (d : Device) (low high : Address) : Except Failure Outcome := do
  refuseIf (high < low) .badAddressRange
  let range := (low.text, high.text)
  if range ∈ d.dhcpExcluded then return ofDevice d
  return ofDevice { d with dhcpExcluded := d.dhcpExcluded ++ [range] }

/-- The device with a fixed translation; an address has one translation only. -/
def addStaticNat (d : Device) (localAddress globalAddress : Address) : Except Failure Outcome := do
  let entry : NatStatic := ⟨localAddress.text, globalAddress.text⟩
  match d.nat.statics.find? fun s => s.localAddress = entry.localAddress && s ≠ entry with
  | some s => refuse (.addressMapped s.localAddress s.globalAddress)
  | none =>
    if entry ∈ d.nat.statics then return ofDevice d
    return ofDevice { d with nat := { d.nat with statics := d.nat.statics ++ [entry] } }

/-- The device with a translation of the addresses of an access list, in place of any other. -/
def addDynamicNat (d : Device) (entry : NatDynamic) : Except Failure Outcome := do
  match entry.pool with
  | some name => refuseIf (!d.nat.pools.contains name) (.noSuchPool name)
  | none => pure ()
  let others := d.nat.dynamics.filter (·.acl ≠ entry.acl)
  return ofDevice { d with nat := { d.nat with dynamics := others ++ [entry] } }

/-- The device with a range of addresses to translate to. -/
def addNatPool (d : Device) (name : String) (first last netmask : Address) :
    Except Failure Outcome := do
  refuseIf (last < first) .badPoolRange
  let pool : NatPool := ⟨name, first.text, last.text, netmask.text⟩
  return ofDevice { d with nat := { d.nat with pools := d.nat.pools.insert name pool } }

/-- The device with a priority in the spanning tree of a VLAN. -/
def setPriority (d : Device) (vlan priority : Int) : Except Failure Outcome := do
  requireSwitch d
  refuseIf (Int.fmod priority 4096 ≠ 0) .badPriority
  return ofDevice
    { d with stp := { d.stp with vlanPriority := d.stp.vlanPriority.insert vlan priority } }

/-! ## All commands -/

/-- What a global command does to a device. -/
def GlobalCommand.apply (d : Device) : GlobalCommand → Except Failure Outcome
  | hostname name => do
    refuseIf (!isHostname name) .badHostname
    return ofDevice { d with hostname := name }
  | enableSecret secret => .ok (ofDevice { d with enableSecret := some secret })
  | bannerMotd text => .ok (ofDevice { d with bannerMotd := some (bannerText text) })
  | domainName domain => .ok (ofDevice { d with domainName := some domain })
  | noDomainLookup => .ok (ofDevice { d with domainLookup := false })
  | ipRouting => .ok (rerouting { d with ipRouting := true })
  | ipRoute network mask target distance => addStaticRoute d network mask target distance
  | noIpRoute network mask target => removeStaticRoute d network mask target
  | interface name => configureInterface d name
  | routerOspf process => configureOspf d process
  | routerRip => configureRip d
  | noRouterOspf process => do
    refuseIf (!d.ospf.any (·.processId = process)) (.noOspfProcess process)
    return rerouting { d with ospf := none }
  | noRouterRip => .ok (ofDevice { d with rip := none })
  | line range => configureLine d range
  | vlan id => configureVlan d id
  | noVlan id => removeVlan d id
  | accessListNamed kind name => configureList d kind name
  | accessListNumbered number rule => addNumberedRule d number rule
  | noAccessList name => .ok (ofDevice { d with acls := d.acls.erase name })
  | dhcpPool name => do
    let d := { d with dhcpPools := d.dhcpPools.insertIfNew name { name } }
    return ofDevice (← d.enterMode .dhcpConfig fun c => { c with dhcpPool := some name })
  | dhcpExcluded low high => excludeAddresses d low high
  | natStatic localAddress globalAddress => addStaticNat d localAddress globalAddress
  | natDynamic acl egress pool overload => addDynamicNat d ⟨acl, egress, pool, overload⟩
  | natPool name first last netmask => addNatPool d name first last netmask
  | stpMode mode => do
    requireSwitch d
    return ofDevice { d with stp := { d.stp with mode := .known mode } }
  | stpVlanPriority id priority => setPriority d id priority

end NetRack
