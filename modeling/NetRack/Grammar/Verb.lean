import NetRack.Vocabulary

/-!
# Verbs

A verb says what a command does, without its arguments.
-/

namespace NetRack

/-- What commands do. -/
inductive Verb where
  | enable
  | disable
  | exit
  | endConfig
  | runExec
  | configureTerminal
  | copyRunStart
  | ping
  | traceroute
  | showRunningConfig
  | showStartupConfig
  | showVersion
  | showIpInterfaceBrief
  | showIpRoute
  | showIpProtocols
  | showIpOspfNeighbor
  | showIpNatTranslations
  | showIpDhcpPool
  | showVlanBrief
  | showInterfacesTrunk
  | showInterfacesStatus
  | showAccessLists
  | showEtherchannelSummary
  | showPortSecurity
  | showCdpNeighbors
  | hostname
  | enableSecret
  | bannerMotd
  | domainName
  | noDomainLookup
  | ipRouting
  | ipRoute
  | noIpRoute
  | interface
  | routerOspf
  | routerRip
  | noRouterOspf
  | noRouterRip
  | line
  | vlan
  | noVlan
  | accessListNamed
  | accessListNumbered
  | noAccessList
  | dhcpPool
  | dhcpExcluded
  | natStatic
  | natDynamic
  | natPool
  | stpMode
  | stpVlanPriority
  | description
  | noDescription
  | shutdown
  | noShutdown
  | ipAddress
  | noIpAddress
  | accessGroup
  | noAccessGroup
  | natDirection
  | noNatDirection
  | switchportMode
  | switchportAccessVlan
  | trunkAllowed
  | trunkNative
  | portSecurity
  | noPortSecurity
  | encapsulation
  | channelGroup
  | noChannelGroup
  | portfast
  | noPortfast
  | ospfNetwork
  | ripNetwork
  | noNetwork
  | routerId
  | ripVersion
  | noAutoSummary
  | passiveInterface
  | linePassword
  | lineLogin
  | noLogin
  | transportInput
  | execTimeout
  | loggingSynchronous
  | vlanName
  | aclRule
  | dhcpNetwork
  | dhcpDefaultRouter
  | dhcpDnsServer
  | dhcpDomainName
  | dhcpLease
  | hostIp
  | hostIpconfig
deriving DecidableEq, Repr, Inhabited

namespace Verb

instance : Vocabulary Verb where
  words := [
    .enable, .disable, .exit, .endConfig, .runExec, .configureTerminal, .copyRunStart, .ping,
    .traceroute, .showRunningConfig, .showStartupConfig, .showVersion, .showIpInterfaceBrief,
    .showIpRoute, .showIpProtocols, .showIpOspfNeighbor, .showIpNatTranslations, .showIpDhcpPool,
    .showVlanBrief, .showInterfacesTrunk, .showInterfacesStatus, .showAccessLists,
    .showEtherchannelSummary, .showPortSecurity, .showCdpNeighbors, .hostname, .enableSecret,
    .bannerMotd, .domainName, .noDomainLookup, .ipRouting, .ipRoute, .noIpRoute, .interface,
    .routerOspf, .routerRip, .noRouterOspf, .noRouterRip, .line, .vlan, .noVlan, .accessListNamed,
    .accessListNumbered, .noAccessList, .dhcpPool, .dhcpExcluded, .natStatic, .natDynamic,
    .natPool, .stpMode, .stpVlanPriority, .description, .noDescription, .shutdown, .noShutdown,
    .ipAddress, .noIpAddress, .accessGroup, .noAccessGroup, .natDirection, .noNatDirection,
    .switchportMode, .switchportAccessVlan, .trunkAllowed, .trunkNative, .portSecurity,
    .noPortSecurity, .encapsulation, .channelGroup, .noChannelGroup, .portfast, .noPortfast,
    .ospfNetwork, .ripNetwork, .noNetwork, .routerId, .ripVersion, .noAutoSummary,
    .passiveInterface, .linePassword, .lineLogin, .noLogin, .transportInput, .execTimeout,
    .loggingSynchronous, .vlanName, .aclRule, .dhcpNetwork, .dhcpDefaultRouter, .dhcpDnsServer,
    .dhcpDomainName, .dhcpLease, .hostIp, .hostIpconfig]
  spelling
    | .enable => "enable"
    | .disable => "disable"
    | .exit => "exit"
    | .endConfig => "end"
    | .runExec => "do"
    | .configureTerminal => "configure_terminal"
    | .copyRunStart => "copy_run_start"
    | .ping => "ping"
    | .traceroute => "traceroute"
    | .showRunningConfig => "show_running_config"
    | .showStartupConfig => "show_startup_config"
    | .showVersion => "show_version"
    | .showIpInterfaceBrief => "show_ip_interface_brief"
    | .showIpRoute => "show_ip_route"
    | .showIpProtocols => "show_ip_protocols"
    | .showIpOspfNeighbor => "show_ip_ospf_neighbor"
    | .showIpNatTranslations => "show_ip_nat_translations"
    | .showIpDhcpPool => "show_ip_dhcp_pool"
    | .showVlanBrief => "show_vlan_brief"
    | .showInterfacesTrunk => "show_interfaces_trunk"
    | .showInterfacesStatus => "show_interfaces_status"
    | .showAccessLists => "show_access_lists"
    | .showEtherchannelSummary => "show_etherchannel_summary"
    | .showPortSecurity => "show_port_security"
    | .showCdpNeighbors => "show_cdp_neighbors"
    | .hostname => "hostname"
    | .enableSecret => "enable_secret"
    | .bannerMotd => "banner_motd"
    | .domainName => "domain_name"
    | .noDomainLookup => "no_domain_lookup"
    | .ipRouting => "ip_routing"
    | .ipRoute => "ip_route"
    | .noIpRoute => "no_ip_route"
    | .interface => "interface"
    | .routerOspf => "router_ospf"
    | .routerRip => "router_rip"
    | .noRouterOspf => "no_router_ospf"
    | .noRouterRip => "no_router_rip"
    | .line => "line"
    | .vlan => "vlan"
    | .noVlan => "no_vlan"
    | .accessListNamed => "access_list_named"
    | .accessListNumbered => "access_list_numbered"
    | .noAccessList => "no_access_list"
    | .dhcpPool => "dhcp_pool"
    | .dhcpExcluded => "dhcp_excluded"
    | .natStatic => "nat_static"
    | .natDynamic => "nat_dynamic"
    | .natPool => "nat_pool"
    | .stpMode => "stp_mode"
    | .stpVlanPriority => "stp_vlan_priority"
    | .description => "description"
    | .noDescription => "no_description"
    | .shutdown => "shutdown"
    | .noShutdown => "no_shutdown"
    | .ipAddress => "ip_address"
    | .noIpAddress => "no_ip_address"
    | .accessGroup => "access_group"
    | .noAccessGroup => "no_access_group"
    | .natDirection => "nat_direction"
    | .noNatDirection => "no_nat_direction"
    | .switchportMode => "switchport_mode"
    | .switchportAccessVlan => "switchport_access_vlan"
    | .trunkAllowed => "trunk_allowed"
    | .trunkNative => "trunk_native"
    | .portSecurity => "port_security"
    | .noPortSecurity => "no_port_security"
    | .encapsulation => "encapsulation"
    | .channelGroup => "channel_group"
    | .noChannelGroup => "no_channel_group"
    | .portfast => "portfast"
    | .noPortfast => "no_portfast"
    | .ospfNetwork => "ospf_network"
    | .ripNetwork => "rip_network"
    | .noNetwork => "no_network"
    | .routerId => "router_id"
    | .ripVersion => "rip_version"
    | .noAutoSummary => "no_auto_summary"
    | .passiveInterface => "passive_interface"
    | .linePassword => "line_password"
    | .lineLogin => "line_login"
    | .noLogin => "no_login"
    | .transportInput => "transport_input"
    | .execTimeout => "exec_timeout"
    | .loggingSynchronous => "logging_synchronous"
    | .vlanName => "vlan_name"
    | .aclRule => "acl_rule"
    | .dhcpNetwork => "dhcp_network"
    | .dhcpDefaultRouter => "dhcp_default_router"
    | .dhcpDnsServer => "dhcp_dns_server"
    | .dhcpDomainName => "dhcp_domain_name"
    | .dhcpLease => "dhcp_lease"
    | .hostIp => "host_ip"
    | .hostIpconfig => "host_ipconfig"

/-- All verbs. -/
def all : List Verb := Vocabulary.words

/-- The name of a verb. -/
def text (v : Verb) : String := Vocabulary.spelling v

/-- A verb as it is shown in messages about grammars. -/
def shown (v : Verb) : String := "Handler." ++ v.text.toUpper

end Verb

end NetRack
