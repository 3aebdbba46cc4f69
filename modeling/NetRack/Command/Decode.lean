import NetRack.Command.Basic
import NetRack.Resolver.Basic

/-!
# From resolved lines to commands

A resolved line has a verb and arguments by name.  The grammars give each verb the arguments that it
needs; where one is missing the line is no command.
-/

namespace NetRack.ResolvedCommand

/-- An argument that must be a text. -/
def text (r : ResolvedCommand) (name : String) : Except Fault String :=
  match r.arguments.get? name with
  | some (.text s) => .ok s
  | _ => .error (.noEntry name)

/-- An argument that must be a word of a vocabulary. -/
def word (r : ResolvedCommand) (name : String) (α : Type) [Vocabulary α] : Except Fault α := do
  need name (Vocabulary.read? α (← r.text name))

/-- An argument that must be an address. -/
def address (r : ResolvedCommand) (name : String) : Except Fault Address :=
  match r.arguments.get? name with
  | some (.address a) => .ok a
  | _ => .error (.noEntry name)

/-- An argument that must be a number. -/
def int (r : ResolvedCommand) (name : String) : Except Fault Int :=
  match r.arguments.get? name with
  | some (.int n) => .ok n
  | _ => .error (.noEntry name)

/-- Whether there is an argument of a name. -/
def has (r : ResolvedCommand) (name : String) : Bool := r.arguments.contains name

/-- An argument that may be absent. -/
def optional (r : ResolvedCommand) (name : String) (get : String → Except Fault α) :
    Except Fault (Option α) :=
  if r.has name then some <$> get name else .ok none

/-- The VLANs of a list argument; none if it is absent. -/
def vlanList (r : ResolvedCommand) (name : String) : List Int :=
  match r.arguments.get? name with
  | some (.vlans ids) => ids
  | _ => []

/-- Where a static route leads. -/
def routeTarget (r : ResolvedCommand) : Except Fault RouteTarget :=
  match r.arguments.get? "next_hop" with
  | some (.address a) => .ok (.hop a)
  | some (.text s) => .ok (.exit s)
  | _ => .error (.noEntry "next_hop")

/-- The terminal lines that are selected. -/
def lineRange (r : ResolvedCommand) : Except Fault LineRange := do
  let first ← r.int "first"
  if (← r.text "line_type") = "console" then return .console first
  return .vty first (← r.optional "last" r.int)

/-- One side of a rule. -/
def pattern (r : ResolvedCommand) (name : String) : AddressPattern :=
  match r.arguments.get? name with
  | some (.address a) =>
    match r.arguments.get? (name ++ "_wildcard") with
    | some (.address w) => ⟨a, w⟩
    | _ => .host a
  | _ => .any

/-- A rule of an access list. -/
def ruleEntry (r : ResolvedCommand) : Except Fault RuleEntry := do
  let action ← r.word "action" RuleAction
  let protocol ← r.optional "protocol" fun name => r.word name Protocol
  return ⟨action, protocol, r.pattern "src", r.pattern "dst"⟩

/-- The name of the access list to remove. -/
def listName (r : ResolvedCommand) : Except Fault String :=
  if r.has "name" then r.text "name" else Text.intText <$> r.int "number"

/-- How the VLANs of a trunk change. -/
def trunkChange (r : ResolvedCommand) : TrunkChange :=
  let vlans := r.vlanList "vlans"
  match (r.text "op").toOption with
  | some "all" => .all
  | some "none" => .none
  | some "add" => .add vlans
  | some "remove" => .remove vlans
  | some "except" => .except vlans
  | _ => .set vlans

/-- How the security of a port changes. -/
def securityChange (r : ResolvedCommand) : Except Fault SecurityChange :=
  if r.has "maximum" then .maximum <$> r.int "maximum"
  else if r.has "violation" then .violation <$> r.word "violation" Violation
  else if r.has "sticky" then .ok .sticky
  else if r.has "mac" then .station <$> r.text "mac"
  else .ok .enable

/-- The direction of a filter. -/
def filterSide (r : ResolvedCommand) : Except Fault FilterSide := do
  return if (← r.text "direction") = "in" then .inbound else .outbound

/-- How users of a line prove who they are. -/
def loginMethod (r : ResolvedCommand) : LoginMethod :=
  if (r.text "method").toOption = some "local" then .account else .password

/-- The item that `show` shows for a verb. -/
def showItem? (r : ResolvedCommand) : Verb → Option ShowItem
  | .showRunningConfig => some .runningConfig
  | .showStartupConfig => some .startupConfig
  | .showVersion => some .version
  | .showIpInterfaceBrief => some .interfaceBrief
  | .showIpRoute => some .routes
  | .showIpProtocols => some .protocols
  | .showIpOspfNeighbor => some .ospfNeighbors
  | .showIpNatTranslations => some .natTranslations
  | .showIpDhcpPool => some .dhcpPools
  | .showVlanBrief => some .vlanBrief
  | .showInterfacesTrunk => some .interfacesTrunk
  | .showInterfacesStatus => some .interfacesStatus
  | .showAccessLists => some .accessLists
  | .showEtherchannelSummary => some .etherchannelSummary
  | .showPortSecurity => some (.portSecurity (r.text "interface").toOption)
  | .showCdpNeighbors => some .cdpNeighbors
  | _ => none

/-- The exec command of a verb. -/
def execCommand? (r : ResolvedCommand) : Verb → Option (Except Fault ExecCommand)
  | .enable => some (.ok .enable)
  | .disable => some (.ok .disable)
  | .exit => some (.ok .exit)
  | .endConfig => some (.ok .endConfig)
  | .configureTerminal => some (.ok .configureTerminal)
  | .copyRunStart => some (.ok .copyRunStart)
  | .ping => some do
    let target ← r.text "target"
    return .ping target (← r.optional "source" r.text)
  | .traceroute => some (.traceroute <$> r.text "target")
  | v => (r.showItem? v).map fun item => .ok (.display item)

/-- The global command of a verb. -/
def globalCommand? (r : ResolvedCommand) : Verb → Option (Except Fault GlobalCommand)
  | .hostname => some (.hostname <$> r.text "hostname")
  | .enableSecret => some (.enableSecret <$> r.text "secret")
  | .bannerMotd => some (.bannerMotd <$> r.text "text")
  | .domainName => some (.domainName <$> r.text "domain")
  | .noDomainLookup => some (.ok .noDomainLookup)
  | .ipRouting => some (.ok .ipRouting)
  | .ipRoute => some do
    let distance ← r.optional "distance" r.int
    return .ipRoute (← r.address "network") (← r.address "mask") (← r.routeTarget)
      (distance.getD 1)
  | .noIpRoute => some do
    return .noIpRoute (← r.address "network") (← r.address "mask") (← r.routeTarget)
  | .interface => some (.interface <$> r.text "interface")
  | .routerOspf => some (.routerOspf <$> r.int "process")
  | .routerRip => some (.ok .routerRip)
  | .noRouterOspf => some (.noRouterOspf <$> r.int "process")
  | .noRouterRip => some (.ok .noRouterRip)
  | .line => some (.line <$> r.lineRange)
  | .vlan => some (.vlan <$> r.int "vlan")
  | .noVlan => some (.noVlan <$> r.int "vlan")
  | .accessListNamed => some do
    return .accessListNamed (← r.word "acl_kind" AclKind) (← r.text "name")
  | .accessListNumbered => some do
    return .accessListNumbered (← r.int "number") (← r.ruleEntry)
  | .noAccessList => some (.noAccessList <$> r.listName)
  | .dhcpPool => some (.dhcpPool <$> r.text "pool")
  | .dhcpExcluded => some do
    let low ← r.address "low"
    return .dhcpExcluded low ((← r.optional "high" r.address).getD low)
  | .natStatic => some do return .natStatic (← r.address "local") (← r.address "global")
  | .natDynamic => some do
    return .natDynamic (← r.text "acl") (← r.optional "interface" r.text)
      (← r.optional "pool" r.text) (r.has "overload")
  | .natPool => some do
    return .natPool (← r.text "pool") (← r.address "start") (← r.address "end")
      (← r.address "netmask")
  | .stpMode => some (.stpMode <$> r.word "stp_mode" StpMode)
  | .stpVlanPriority => some do return .stpVlanPriority (← r.int "vlan") (← r.int "priority")
  | _ => none

/-- The interface command of a verb. -/
def interfaceCommand? (r : ResolvedCommand) : Verb → Option (Except Fault InterfaceCommand)
  | .description => some (.description <$> r.text "text")
  | .noDescription => some (.ok .noDescription)
  | .shutdown => some (.ok .shutdown)
  | .noShutdown => some (.ok .noShutdown)
  | .ipAddress => some do return .ipAddress (← r.address "ip") (← r.address "mask")
  | .noIpAddress => some do
    return .noIpAddress (← r.optional "ip" fun name => do
      return (← r.address name, ← r.address "mask"))
  | .accessGroup => some do return .accessGroup (← r.text "acl") (← r.filterSide)
  | .noAccessGroup => some do return .noAccessGroup (← r.text "acl") (← r.filterSide)
  | .natDirection => some (.natDirection <$> r.word "nat" NatSide)
  | .noNatDirection => some (.noNatDirection <$> r.word "nat" NatSide)
  | .switchportMode => some (.switchportMode <$> r.word "mode" PortMode)
  | .switchportAccessVlan => some (.switchportAccessVlan <$> r.int "vlan")
  | .trunkAllowed => some (.ok (.trunkAllowed r.trunkChange))
  | .trunkNative => some (.trunkNative <$> r.int "vlan")
  | .portSecurity => some (.portSecurity <$> r.securityChange)
  | .noPortSecurity => some (.ok .noPortSecurity)
  | .encapsulation => some (.encapsulation <$> r.int "vlan")
  | .channelGroup => some do
    return .channelGroup (← r.int "group") (← r.word "channel_mode" ChannelMode)
  | .noChannelGroup => some (.ok .noChannelGroup)
  | .portfast => some (.ok .portfast)
  | .noPortfast => some (.ok .noPortfast)
  | _ => none

/-- The router command of a verb. -/
def routerCommand? (r : ResolvedCommand) : Verb → Option (Except Fault RouterCommand)
  | .ospfNetwork => some do
    return .ospfNetwork (← r.address "network") (← r.address "wildcard") (← r.int "area")
  | .ripNetwork => some (.ripNetwork <$> r.address "network")
  | .noNetwork => some do
    let tail ← r.optional "area" fun name => do return (← r.address "wildcard", ← r.int name)
    return .noNetwork (← r.address "network") tail
  | .routerId => some (.routerId <$> r.address "router_id")
  | .ripVersion => some (.ripVersion <$> r.int "version")
  | .noAutoSummary => some (.ok .noAutoSummary)
  | .passiveInterface => some (.passiveInterface <$> r.text "interface")
  | _ => none

/-- The line command of a verb. -/
def lineCommand? (r : ResolvedCommand) : Verb → Option (Except Fault LineCommand)
  | .linePassword => some (.password <$> r.text "password")
  | .lineLogin => some (.ok (.login r.loginMethod))
  | .noLogin => some (.ok .noLogin)
  | .transportInput => some (.transportInput <$> r.word "transport" Transport)
  | .execTimeout => some do
    let minutes ← r.int "minutes"
    return .execTimeout minutes ((← r.optional "seconds" r.int).getD 0)
  | .loggingSynchronous => some (.ok .loggingSynchronous)
  | _ => none

/-- The pool command of a verb. -/
def poolCommand? (r : ResolvedCommand) : Verb → Option (Except Fault PoolCommand)
  | .dhcpNetwork => some do return .network (← r.address "network") (← r.address "mask")
  | .dhcpDefaultRouter => some (.defaultRouter <$> r.address "address")
  | .dhcpDnsServer => some (.dnsServer <$> r.address "address")
  | .dhcpDomainName => some (.domainName <$> r.text "domain")
  | .dhcpLease => some (.lease <$> r.int "days")
  | _ => none

/-- The commands of end hosts, and the rest, by verb. -/
def otherCommand? (r : ResolvedCommand) : Verb → Option (Except Fault Command)
  | .vlanName => some (.vlanName <$> r.text "name")
  | .aclRule => some (.aclRule <$> r.ruleEntry)
  | .hostIp => some do
    return .host (.ip (← r.address "ip") (← r.address "mask") (← r.optional "gateway" r.address))
  | .hostIpconfig => some (.ok (.host .ipconfig))
  | _ => none

/-- The command that a resolved line gives. -/
def command (r : ResolvedCommand) : Except Fault Command :=
  let found := ((r.execCommand? r.verb).map (.exec <$> ·))
    |>.or ((r.globalCommand? r.verb).map (.global <$> ·))
    |>.or ((r.interfaceCommand? r.verb).map (.interface <$> ·))
    |>.or ((r.routerCommand? r.verb).map (.router <$> ·))
    |>.or ((r.lineCommand? r.verb).map (.line <$> ·))
    |>.or ((r.poolCommand? r.verb).map (.pool <$> ·))
    |>.or (r.otherCommand? r.verb)
  found.getD (.error (.noEntry r.verb.text))

/-- What a resolved line asks for. -/
def request (r : ResolvedCommand) : Except Fault Request :=
  if r.verb = .runExec then do
    return .runExec (← r.text "command") ((r.columns.get? "command").getD 0)
  else .command <$> r.command

end NetRack.ResolvedCommand
