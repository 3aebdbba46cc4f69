import NetRack.Grammar.Node
import NetRack.Mode

/-!
# The grammars of the modes

Each mode of a console has its grammar, and end hosts have one for all.  All are fixed.
-/

namespace NetRack.Grammar

open Node

/-- The same continuation under several keywords, each recorded under a name. -/
def choice (name : String) (tokens : List String) (node : String → Node) : List Node :=
  tokens.map fun t => (node t).binding name

/-- Keywords that end a command, each recorded under a name. -/
def options (name : String) (tokens : List String) (v : Verb) : List Node :=
  choice name tokens fun t => (word t).does v

/-! ## Shared parts -/

/-- The commands that every configuration mode has. -/
def configCommon : List Node := [
  (word "end").does .endConfig |>.described "Exit to privileged EXEC mode",
  (word "exit").does .exit |>.described "Exit from the current mode",
  word "do" [(slot "command" .line).does .runExec] |>.described "Run an EXEC command"]

/-- The commands that enter a submode, from any configuration mode. -/
def modeEntries : List Node := [
  word "interface" [(slot "interface" .interface).does .interface]
    |>.described "Select an interface to configure",
  word "router" [
    word "ospf" [(slot "process" .int).does .routerOspf |>.between 1 65535],
    (word "rip").does .routerRip] |>.described "Enable a routing process",
  word "line" [
    word "console" [(slot "first" .int).does .line |>.between 0 0] |>.binding "line_type",
    word "vty" [
      slot "first" .int [(slot "last" .int).does .line |>.between 0 15]
        |>.does .line |>.between 0 15] |>.binding "line_type"]
    |>.described "Configure a terminal line",
  word "vlan" [(slot "vlan" .int).does .vlan |>.between 1 4094] |>.described "VLAN commands",
  word "ip" [
    word "access-list" <| choice "acl_kind" ["standard", "extended"] fun t =>
      word t [(slot "name" .word).does .accessListNamed],
    word "dhcp" [word "pool" [(slot "pool" .word).does .dhcpPool]]]]

/-- The addresses of one side of a rule, recorded under a name, with what follows them: any, that of
one host, or those that agree with a base up to a wildcard. -/
def endpoint (name : String) (next : List Node) (finish : Node → Node) (bareAddress : Bool) :
    List Node :=
  let wildcard := finish (slot (name ++ "_wildcard") .wildcard next)
  [ finish (word "any" next) |>.binding name,
    word "host" [finish (slot name .ipv4 next)],
    if bareAddress then finish (slot name .ipv4 (wildcard :: next))
    else slot name .ipv4 [wildcard] ]

/-- The rules of an access list after their action. -/
def ruleBody (v : Verb) : List Node :=
  endpoint "src" [] (does v) true ++
    choice "protocol" ["ip", "icmp", "tcp", "udp"] fun t =>
      word t (endpoint "src" (endpoint "dst" [] (does v) false) id false)

/-- The rules of an access list. -/
def ruleEntries (v : Verb) : List Node :=
  choice "action" ["permit", "deny"] fun t => word t (ruleBody v)

/-- The commands that test whether a target can be reached. -/
def pingCommands : List Node := [
  word "ping" [
    slot "target" .word [word "source" [(slot "source" .interface).does .ping]] |>.does .ping]
    |>.described "Send echo messages",
  word "traceroute" [(slot "target" .word).does .traceroute]
    |>.described "Trace route to destination"]

/-- The commands of an end host that test whether a target can be reached. -/
def hostPingCommands : List Node := [
  word "ping" [(slot "target" .word).does .ping],
  word "traceroute" [(slot "target" .word).does .traceroute],
  word "tracert" [(slot "target" .word).does .traceroute]]

/-- What `show ip` shows to every user. -/
def showIpBasics : List Node := [
  word "interface" [(word "brief").does .showIpInterfaceBrief],
  (word "route").does .showIpRoute]

/-- What `show` shows in user mode. -/
def showForUsers : Node :=
  word "show" [(word "version").does .showVersion, word "ip" showIpBasics]
    |>.described "Show running system information"

/-- What `show` shows in privileged mode. -/
def showForAdministrators : Node :=
  word "show" [
    (word "version").does .showVersion,
    (word "running-config").does .showRunningConfig,
    (word "startup-config").does .showStartupConfig,
    word "vlan" [(word "brief").does .showVlanBrief] |>.does .showVlanBrief,
    word "interfaces" [
      (word "trunk").does .showInterfacesTrunk,
      (word "status").does .showInterfacesStatus],
    (word "access-lists").does .showAccessLists,
    word "etherchannel" [(word "summary").does .showEtherchannelSummary],
    word "port-security" [
      word "interface" [(slot "interface" .interface).does .showPortSecurity]]
      |>.does .showPortSecurity,
    word "cdp" [(word "neighbors").does .showCdpNeighbors],
    word "ip" (showIpBasics ++ [
      (word "protocols").does .showIpProtocols,
      word "ospf" [(word "neighbor").does .showIpOspfNeighbor],
      word "nat" [(word "translations").does .showIpNatTranslations],
      word "dhcp" [(word "pool").does .showIpDhcpPool]])]
    |>.described "Show running system information"

/-! ## One sketch for each mode -/

/-- User mode. -/
def userExec : Node := word "" <| [
  (word "enable").does .enable |>.described "Turn on privileged commands",
  (word "exit").does .exit |>.described "Exit from the EXEC"]
  ++ pingCommands ++ [showForUsers]

/-- Privileged mode. -/
def privilegedExec : Node := word "" <| [
  (word "enable").does .enable,
  (word "disable").does .disable |>.described "Turn off privileged commands",
  (word "exit").does .exit,
  word "configure" [(word "terminal").does .configureTerminal]
    |>.described "Enter configuration mode",
  word "copy" [word "running-config" [(word "startup-config").does .copyRunStart]],
  word "write" [(word "memory").does .copyRunStart] |>.does .copyRunStart]
  ++ pingCommands ++ [showForAdministrators]

/-- The arguments of a static route. -/
def routeArguments (v : Verb) : Node :=
  slot "network" .ipv4 [
    slot "mask" .mask [
      slot "next_hop" .nextHop [(slot "distance" .int).does v |>.between 1 255] |>.does v]]

/-- Address translation. -/
def natCommands : Node :=
  let overload := (word "overload").does .natDynamic |>.binding "overload"
  word "nat" [
    word "inside" [
      word "source" [
        word "static" [slot "local" .ipv4 [(slot "global" .ipv4).does .natStatic]],
        word "list" [
          slot "acl" .word [
            word "interface" [slot "interface" .interface [overload] |>.does .natDynamic],
            word "pool" [slot "pool" .word [overload] |>.does .natDynamic]]]]],
    word "pool" [
      slot "pool" .word [
        slot "start" .ipv4 [
          slot "end" .ipv4 [word "netmask" [(slot "netmask" .mask).does .natPool]]]]]]

/-- Global configuration. -/
def globalConfig : Node := word "" <| configCommon ++ modeEntries ++ [
  word "hostname" [(slot "hostname" .word).does .hostname]
    |>.described "Set system's network name",
  word "enable" [word "secret" [(slot "secret" .word).does .enableSecret]],
  word "banner" [word "motd" [(slot "text" .line).does .bannerMotd]],
  word "ip" [
    word "route" [routeArguments .ipRoute],
    (word "routing").does .ipRouting,
    word "domain-name" [(slot "domain" .word).does .domainName],
    word "dhcp" [
      word "excluded-address" [
        slot "low" .ipv4 [(slot "high" .ipv4).does .dhcpExcluded] |>.does .dhcpExcluded]],
    natCommands],
  word "access-list" [
    slot "number" .int (ruleEntries .accessListNumbered) |>.between 1 199],
  word "spanning-tree" [
    word "mode" (options "stp_mode" ["pvst", "rapid-pvst", "mst"] .stpMode),
    word "vlan" [
      slot "vlan" .int [
        word "priority" [(slot "priority" .int).does .stpVlanPriority |>.between 0 61440]]
        |>.between 1 4094]],
  word "no" [
    word "ip" [
      word "route" [routeArguments .noIpRoute],
      (word "domain-lookup").does .noDomainLookup,
      word "access-list" <| choice "acl_kind" ["standard", "extended"] fun t =>
        word t [(slot "name" .word).does .noAccessList]],
    word "vlan" [(slot "vlan" .int).does .noVlan |>.between 1 4094],
    word "router" [
      word "ospf" [(slot "process" .int).does .noRouterOspf |>.between 1 65535],
      (word "rip").does .noRouterRip],
    word "access-list" [(slot "number" .int).does .noAccessList |>.between 1 199]]]

/-- The VLANs that a trunk carries. -/
def allowedVlans : Node :=
  let vlans := (slot "vlans" .vlanList).does .trunkAllowed
  word "vlan" <|
    options "op" ["all", "none"] .trunkAllowed
      ++ choice "op" ["add", "remove", "except"] (fun t => word t [vlans]) ++ [vlans]

/-- The stations that a port admits. -/
def portSecurityCommands : Node :=
  word "port-security" [
    word "maximum" [(slot "maximum" .int).does .portSecurity |>.between 1 8192],
    word "violation" (options "violation" ["protect", "restrict", "shutdown"] .portSecurity),
    word "mac-address" [
      (word "sticky").does .portSecurity |>.binding "sticky",
      (slot "mac" .mac).does .portSecurity]]
    |>.does .portSecurity

/-- Interface configuration. -/
def interfaceConfig : Node := word "" <| configCommon ++ modeEntries ++ [
  word "description" [(slot "text" .line).does .description]
    |>.described "Interface specific description",
  (word "shutdown").does .shutdown |>.described "Shutdown the selected interface",
  word "ip" [
    word "address" [slot "ip" .ipv4 [(slot "mask" .mask).does .ipAddress]],
    word "access-group" [slot "acl" .word (options "direction" ["in", "out"] .accessGroup)],
    word "nat" (options "nat" ["inside", "outside"] .natDirection)],
  word "switchport" [
    word "mode" (options "mode" ["access", "trunk"] .switchportMode),
    word "access" [
      word "vlan" [(slot "vlan" .int).does .switchportAccessVlan |>.between 1 4094]],
    word "trunk" [
      word "allowed" [allowedVlans],
      word "native" [word "vlan" [(slot "vlan" .int).does .trunkNative |>.between 1 4094]]],
    portSecurityCommands],
  word "encapsulation" [
    word "dot1q" [(slot "vlan" .int).does .encapsulation |>.between 1 4094]],
  word "channel-group" [
    slot "group" .int [
      word "mode" <| options "channel_mode" ["active", "passive", "on", "desirable", "auto"]
        .channelGroup] |>.between 1 64],
  word "spanning-tree" [(word "portfast").does .portfast],
  word "no" [
    (word "shutdown").does .noShutdown,
    (word "description").does .noDescription,
    word "ip" [
      word "address" [slot "ip" .ipv4 [(slot "mask" .mask).does .noIpAddress]]
        |>.does .noIpAddress,
      word "access-group" [slot "acl" .word (options "direction" ["in", "out"] .noAccessGroup)],
      word "nat" (options "nat" ["inside", "outside"] .noNatDirection)],
    word "switchport" [(word "port-security").does .noPortSecurity],
    (word "channel-group").does .noChannelGroup,
    word "spanning-tree" [(word "portfast").does .noPortfast]]]

/-- A wildcard and an area. -/
def areaArguments (v : Verb) : Node :=
  slot "wildcard" .wildcard [word "area" [(slot "area" .int).does v |>.between 0 4294967295]]

/-- Configuration of a routing process. -/
def routerConfig : Node := word "" <| configCommon ++ modeEntries ++ [
  word "network" [slot "network" .ipv4 [areaArguments .ospfNetwork] |>.does .ripNetwork],
  word "router-id" [(slot "router_id" .ipv4).does .routerId],
  word "version" [(slot "version" .int).does .ripVersion |>.between 1 2],
  word "passive-interface" [(slot "interface" .interface).does .passiveInterface],
  word "no" [
    (word "auto-summary").does .noAutoSummary,
    word "network" [slot "network" .ipv4 [areaArguments .noNetwork] |>.does .noNetwork]]]

/-- Configuration of a terminal line. -/
def lineConfig : Node := word "" <| configCommon ++ modeEntries ++ [
  word "password" [(slot "password" .word).does .linePassword],
  word "login" [(word "local").does .lineLogin |>.binding "method"] |>.does .lineLogin,
  word "transport" [
    word "input" (options "transport" ["ssh", "telnet", "all", "none"] .transportInput)],
  word "exec-timeout" [
    slot "minutes" .int [(slot "seconds" .int).does .execTimeout |>.between 0 2147483]
      |>.does .execTimeout |>.between 0 35791],
  word "logging" [(word "synchronous").does .loggingSynchronous],
  word "no" [(word "login").does .noLogin]]

/-- Configuration of a VLAN. -/
def vlanConfig : Node := word "" <| configCommon ++ modeEntries ++ [
  word "name" [(slot "name" .word).does .vlanName] |>.described "Ascii name of the VLAN"]

/-- Configuration of an access list. -/
def aclConfig : Node := word "" <| configCommon ++ modeEntries ++ ruleEntries .aclRule

/-- Configuration of a pool of addresses. -/
def dhcpConfig : Node := word "" <| configCommon ++ modeEntries ++ [
  word "network" [slot "network" .ipv4 [(slot "mask" .mask).does .dhcpNetwork]],
  word "default-router" [(slot "address" .ipv4).does .dhcpDefaultRouter],
  word "dns-server" [(slot "address" .ipv4).does .dhcpDnsServer],
  word "domain-name" [(slot "domain" .word).does .dhcpDomainName],
  word "lease" [(slot "days" .int).does .dhcpLease |>.between 0 365]]

/-- The console of an end host. -/
def hostExec : Node := word "" <| [
  word "ip" [
    slot "ip" .ipv4 [
      slot "mask" .mask [(slot "gateway" .ipv4).does .hostIp] |>.does .hostIp]],
  (word "ipconfig").does .hostIpconfig,
  (word "exit").does .exit]
  ++ hostPingCommands

/-- The sketch of a mode's grammar. -/
def sketch : Mode → Node
  | .user => userExec
  | .privileged => privilegedExec
  | .globalConfig => globalConfig
  | .interfaceConfig => interfaceConfig
  | .routerConfig => routerConfig
  | .lineConfig => lineConfig
  | .vlanConfig => vlanConfig
  | .dhcpConfig => dhcpConfig
  | .aclConfig => aclConfig

/-! ## The grammars -/

/-- The grammar of a sketch, or one without words if the sketch contradicts itself. -/
def ofSketch (n : Node) : Node := n.build.toOption.getD default

/-- The grammar of user mode. -/
def userGrammar : Node := ofSketch userExec

/-- The grammar of privileged mode. -/
def privilegedGrammar : Node := ofSketch privilegedExec

/-- The grammar of global configuration. -/
def globalGrammar : Node := ofSketch globalConfig

/-- The grammar of interface configuration. -/
def interfaceGrammar : Node := ofSketch interfaceConfig

/-- The grammar of the configuration of routing processes. -/
def routerGrammar : Node := ofSketch routerConfig

/-- The grammar of the configuration of terminal lines. -/
def lineGrammar : Node := ofSketch lineConfig

/-- The grammar of the configuration of VLANs. -/
def vlanGrammar : Node := ofSketch vlanConfig

/-- The grammar of the configuration of address pools. -/
def dhcpGrammar : Node := ofSketch dhcpConfig

/-- The grammar of the configuration of access lists. -/
def aclGrammar : Node := ofSketch aclConfig

/-- The grammar of end hosts. -/
def hostGrammar : Node := ofSketch hostExec

/-- The grammar of a mode. -/
def ofMode : Mode → Node
  | .user => userGrammar
  | .privileged => privilegedGrammar
  | .globalConfig => globalGrammar
  | .interfaceConfig => interfaceGrammar
  | .routerConfig => routerGrammar
  | .lineConfig => lineGrammar
  | .vlanConfig => vlanGrammar
  | .dhcpConfig => dhcpGrammar
  | .aclConfig => aclGrammar

/-- The kinds of consoles. -/
inductive Platform where
  | ios
  | host
deriving DecidableEq, Repr

/-- The grammar of a console in a mode. -/
def root (mode : Mode) : Platform → Node
  | .ios => ofMode mode
  | .host => hostGrammar

/-- The verbs of all grammars, in the order in which a walk from the last to the first meets them. -/
def allVerbs : List Verb := distinct (Node.verbsOfAll (Mode.all.map ofMode ++ [hostGrammar]))

end NetRack.Grammar
