import NetRack.Command.Global

/-!
# Commands of the other submodes

Commands that configure the routing process, terminal line, VLAN, access list or address pool that
the console's context names.
-/

namespace NetRack

open Outcome

/-- The fault of a mode whose object is not there. -/
def lostObject (mode : Mode) : Except Failure α := .error (.fault (.inconsistent (.lostObject mode)))

/-! ## Routing processes -/

/-- Whether the console configures a routing protocol. -/
def configures (d : Device) (p : RouterProtocol) : Bool := d.context.router = some (.known p)

/-- The OSPF process under configuration, if it is OSPF that is configured. -/
def currentOspf? (d : Device) : Except Failure (Option OspfConfig) :=
  if !configures d .ospf then .ok none
  else
    match d.ospf with
    | some c => .ok (some c)
    | none => lostObject .routerConfig

/-- The RIP process under configuration, if it is RIP that is configured. -/
def currentRip? (d : Device) : Except Failure (Option RipConfig) :=
  if !configures d .rip then .ok none
  else
    match d.rip with
    | some c => .ok (some c)
    | none => lostObject .routerConfig

/-- The OSPF process under configuration. -/
def currentOspf (d : Device) : Except Failure OspfConfig := do
  match ← currentOspf? d with
  | some c => return c
  | none => refuse .notForRip

/-- The RIP process under configuration, or a refusal. -/
def currentRip (d : Device) (r : Refusal) : Except Failure RipConfig := do
  match ← currentRip? d with
  | some c => return c
  | none => refuse r

/-- The list with an element at its end, unless it has the element already. -/
def addOnce [DecidableEq α] (x : α) (xs : List α) : List α := if x ∈ xs then xs else xs ++ [x]

/-- The OSPF process with a statement; a network is in one area only. -/
def addOspfNetwork (d : Device) (entry : OspfNetwork) : Except Failure Outcome := do
  let c ← currentOspf d
  let other := c.networks.find? fun n =>
    n.network = entry.network && n.wildcard = entry.wildcard && n.area ≠ entry.area
  match other with
  | some n => refuse (.otherArea entry.network entry.wildcard n.area)
  | none => return rerouting { d with ospf := some { c with networks := addOnce entry c.networks } }

/-- The network of an address by the class of its first octet, as text. -/
def classfulText (a : Address) : String := (Network.classful a).base.text

/-- The OSPF process without a statement. -/
def removeOspfNetwork (d : Device) (c : OspfConfig) (network : Address) :
    Option (Address × Int) → Except Failure Outcome
  | none => refuse .incomplete
  | some (wildcard, area) => do
    let entry : OspfNetwork := ⟨network.text, wildcard.text, area⟩
    refuseIf (entry ∉ c.networks) .noSuchNetwork
    return rerouting { d with ospf := some { c with networks := c.networks.erase entry } }

/-- The routing process without a network. -/
def removeNetwork (d : Device) (network : Address) (tail : Option (Address × Int)) :
    Except Failure Outcome := do
  match ← currentOspf? d with
  | some c => removeOspfNetwork d c network tail
  | none =>
    match ← currentRip? d with
    | none => .error (.fault .noProcess)
    | some c =>
      let networks := c.networks.erase (classfulText network)
      return ofDevice { d with rip := some { c with networks } }

/-- The routing process with an interface on which it keeps silent. -/
def addPassiveInterface (d : Device) (name : String) : Except Failure Outcome := do
  refuseIf (!d.interfaces.contains name) (.noSuchInterface name)
  if configures d .ospf then
    match d.ospf with
    | none => lostObject .routerConfig
    | some c =>
      return rerouting
        { d with ospf := some { c with passiveInterfaces := addOnce name c.passiveInterfaces } }
  else
    match d.rip with
    | none => lostObject .routerConfig
    | some c =>
      return rerouting
        { d with rip := some { c with passiveInterfaces := addOnce name c.passiveInterfaces } }

/-- What a router command does to a device. -/
def RouterCommand.apply (d : Device) : RouterCommand → Except Failure Outcome
  | ospfNetwork network wildcard area => addOspfNetwork d ⟨network.text, wildcard.text, area⟩
  | ripNetwork network => do
    let c ← currentRip d .incomplete
    let networks := addOnce (classfulText network) c.networks
    return ofDevice { d with rip := some { c with networks } }
  | noNetwork network tail => removeNetwork d network tail
  | routerId id => do
    let c ← currentOspf d
    return rerouting { d with ospf := some { c with routerId := some id.text } }
  | ripVersion version => do
    let c ← currentRip d .notForOspf
    return ofDevice { d with rip := some { c with version } }
  | noAutoSummary => do
    let c ← currentRip d .notForOspf
    return ofDevice { d with rip := some { c with autoSummary := false } }
  | passiveInterface name => addPassiveInterface d name

/-! ## Terminal lines -/

/-- The entry of the line table that is under configuration. -/
def currentLine (d : Device) : Except Failure (String × LineConfig) :=
  match d.context.line.bind fun key => (d.lines.get? key).map fun c => (key, c) with
  | some e => .ok e
  | none => lostObject .lineConfig

/-- The device with terminal lines changed. -/
def setLine (d : Device) (key : String) (c : LineConfig) : Outcome :=
  ofDevice { d with lines := d.lines.modify key fun _ => c }

/-- What a line command does to a device. -/
def LineCommand.apply (d : Device) (command : LineCommand) : Except Failure Outcome := do
  let (key, c) ← currentLine d
  match command with
  | password secret => return setLine d key { c with password := some secret }
  | login method =>
    let o := setLine d key { c with login := some (.known method) }
    if method = .password && (Text.present? c.password).isNone then
      return { o with output := "% Login disabled on line, until 'password' is set" }
    return o
  | noLogin => return setLine d key { c with login := none }
  | transportInput transport =>
    refuseIf (!InterfaceName.startsWith "vty" c.name) .vtyOnly
    return setLine d key { c with transport := some (.known transport) }
  | execTimeout minutes seconds =>
    return setLine d key { c with execTimeout := some (minutes, seconds) }
  | loggingSynchronous => return setLine d key { c with loggingSynchronous := true }

/-! ## VLANs, access lists and pools -/

/-- The VLAN under configuration with a name. -/
def nameVlan (d : Device) (name : String) : Except Failure Outcome :=
  match d.context.vlan with
  | none => lostObject .vlanConfig
  | some vlan =>
    if !d.vlans.contains vlan then lostObject .vlanConfig
    else do
      refuseIf (name.length > 32) .longVlanName
      return ofDevice { d with vlans := d.vlans.insert vlan name }

/-- The access list under configuration with a rule at its end. -/
def addRule (d : Device) (e : RuleEntry) : Except Failure Outcome :=
  match d.context.acl.bind fun key => (d.acls.get? key).map fun l => (key, l) with
  | none => lostObject .aclConfig
  | some (key, l) => do
    let l ← l.append e
    return ofDevice { d with acls := d.acls.modify key fun _ => l }

/-- The entry of the pool table that is under configuration. -/
def currentPool (d : Device) : Except Failure (String × DhcpPool) :=
  match d.context.dhcpPool.bind fun key => (d.dhcpPools.get? key).map fun p => (key, p) with
  | some e => .ok e
  | none => lostObject .dhcpConfig

/-- What a pool command does to a pool. -/
def PoolCommand.change (p : DhcpPool) : PoolCommand → Except Failure DhcpPool
  | network base mask => do
    let n ← requireNetwork base mask
    return { p with network := some n.base.text, mask := some n.mask.text }
  | defaultRouter address => .ok { p with defaultRouter := some address.text }
  | dnsServer address => .ok { p with dnsServers := addOnce address.text p.dnsServers }
  | domainName domain => .ok { p with domainName := some domain }
  | lease days => .ok { p with leaseDays := some days }

/-- What a pool command does to a device. -/
def PoolCommand.apply (d : Device) (command : PoolCommand) : Except Failure Outcome := do
  let (key, p) ← currentPool d
  let p ← command.change p
  return ofDevice { d with dhcpPools := d.dhcpPools.modify key fun _ => p }

end NetRack
