import NetRack.Json.Codec
import NetRack.Topology.Basic

/-!
# Records in snapshots

Every part of a topology as a record of plain data, with the names and the order of its fields.
-/

namespace NetRack

instance : Codec Mode := .ofVocabulary Mode

instance : Codec VlanSet where
  write s := Codec.write s.ids
  read v := VlanSet.ofList <$> Codec.read v

/-! ## Parts of a device -/

instance : Codec PortSecurity := Record.codec <|
  Record.of {} PortSecurity.mk
    |>.optional "enabled" (·.enabled)
    |>.optional "maximum" (·.maximum)
    |>.optional "violation" (·.violation)
    |>.optional "sticky" (·.sticky)
    |>.optional "mac_addresses" (·.stations)

instance : Codec Interface := Record.codec <|
  Record.of { name := "" } Interface.mk
    |>.required "name" (·.name)
    |>.optional "admin_up" (·.adminUp)
    |>.optional "oper_up" (·.operUp)
    |>.optional "mac" (·.station)
    |>.optional "description" (·.description)
    |>.optional "ip" (·.ip)
    |>.optional "mask" (·.mask)
    |>.optional "dot1q_vlan" (·.dot1qVlan)
    |>.optional "mode" (·.mode)
    |>.optional "access_vlan" (·.accessVlan)
    |>.optional "trunk_vlans" (·.trunkVlans)
    |>.optional "native_vlan" (·.nativeVlan)
    |>.optional "port_security" (·.portSecurity)
    |>.optional "portfast" (·.portfast)
    |>.optional "channel_group" (·.channelGroup)
    |>.optional "channel_mode" (·.channelMode)
    |>.optional "acl_in" (·.aclIn)
    |>.optional "acl_out" (·.aclOut)
    |>.optional "nat" (·.nat)

instance : Codec Route := Record.codec <|
  Record.of { network := "", mask := "", source := .known .connected, distance := 0 } Route.mk
    |>.required "network" (·.network)
    |>.required "mask" (·.mask)
    |>.required "source" (·.source)
    |>.required "distance" (·.distance)
    |>.optional "next_hop" (·.nextHop)
    |>.optional "interface" (·.interface)
    |>.optional "metric" (·.metric)

instance : Codec AclRule := Record.codec <|
  Record.of { action := .known .permit } AclRule.mk
    |>.required "action" (·.action)
    |>.optional "source" (·.source)
    |>.optional "source_wildcard" (·.sourceWildcard)
    |>.optional "protocol" (·.protocol)
    |>.optional "destination" (·.destination)
    |>.optional "destination_wildcard" (·.destinationWildcard)
    |>.optional "hits" (·.hits)

instance : Codec AccessList := Record.codec <|
  Record.of { name := "" } AccessList.mk
    |>.required "name" (·.name)
    |>.optional "kind" (·.kind)
    |>.optional "rules" (·.rules)

instance : Codec OspfNetwork := Record.codec <|
  Record.of { network := "", wildcard := "" } OspfNetwork.mk
    |>.required "network" (·.network)
    |>.required "wildcard" (·.wildcard)
    |>.optional "area" (·.area)

instance : Codec OspfConfig := Record.codec <|
  Record.of {} OspfConfig.mk
    |>.optional "process_id" (·.processId)
    |>.optional "router_id" (·.routerId)
    |>.optional "networks" (·.networks)
    |>.optional "passive_interfaces" (·.passiveInterfaces)

instance : Codec OspfNeighbor := Record.codec <|
  Record.of { neighborId := "", address := "", interface := "" } OspfNeighbor.mk
    |>.required "neighbor_id" (·.neighborId)
    |>.required "address" (·.address)
    |>.required "interface" (·.interface)
    |>.optional "state" (·.state)

instance : Codec RipConfig := Record.codec <|
  Record.of {} RipConfig.mk
    |>.optional "version" (·.version)
    |>.optional "networks" (·.networks)
    |>.optional "auto_summary" (·.autoSummary)
    |>.optional "passive_interfaces" (·.passiveInterfaces)

instance : Codec LineConfig := Record.codec <|
  Record.of { name := "" } LineConfig.mk
    |>.required "name" (·.name)
    |>.optional "password" (·.password)
    |>.optional "login" (·.login)
    |>.optional "transport_input" (·.transport)
    |>.optional "exec_timeout" (·.execTimeout)
    |>.optional "logging_synchronous" (·.loggingSynchronous)

instance : Codec DhcpPool := Record.codec <|
  Record.of { name := "" } DhcpPool.mk
    |>.required "name" (·.name)
    |>.optional "network" (·.network)
    |>.optional "mask" (·.mask)
    |>.optional "default_router" (·.defaultRouter)
    |>.optional "dns_servers" (·.dnsServers)
    |>.optional "domain_name" (·.domainName)
    |>.optional "lease_days" (·.leaseDays)

instance : Codec NatStatic := Record.codec <|
  Record.of { localAddress := "", globalAddress := "" } NatStatic.mk
    |>.required "local" (·.localAddress)
    |>.required "global_address" (·.globalAddress)

instance : Codec NatPool := Record.codec <|
  Record.of { name := "", first := "", last := "", netmask := "" } NatPool.mk
    |>.required "name" (·.name)
    |>.required "start" (·.first)
    |>.required "end" (·.last)
    |>.required "netmask" (·.netmask)

instance : Codec NatDynamic := Record.codec <|
  Record.of { acl := "" } NatDynamic.mk
    |>.required "acl" (·.acl)
    |>.optional "interface" (·.interface)
    |>.optional "pool" (·.pool)
    |>.optional "overload" (·.overload)

instance : Codec NatConfig := Record.codec <|
  Record.of {} NatConfig.mk
    |>.optional "static" (·.statics)
    |>.optional "pools" (·.pools)
    |>.optional "dynamic" (·.dynamics)

instance : Codec StpConfig := Record.codec <|
  Record.of {} StpConfig.mk
    |>.optional "mode" (·.mode)
    |>.optional "vlan_priority" (·.vlanPriority)

/-! ## Consoles -/

instance : Codec ModeStack := Record.codec <|
  Record.of {} ModeStack.mk
    |>.optional "items" (·.items)
    |>.optional "capacity" (·.capacity)

instance : Codec EditContext := Record.codec <|
  Record.of {} EditContext.mk
    |>.optional "interface" (·.interface)
    |>.optional "router" (·.router)
    |>.optional "line" (·.line)
    |>.optional "vlan" (·.vlan)
    |>.optional "acl" (·.acl)
    |>.optional "dhcp_pool" (·.dhcpPool)

/-! ## Devices and topologies -/

instance : Codec Device := Record.codec <|
  Record.of { id := "", type := .known .router, hostname := "" } Device.mk
    |>.required "device_id" (·.id)
    |>.required "device_type" (·.type)
    |>.required "hostname" (·.hostname)
    |>.optional "mode" (·.mode)
    |>.optional "mode_stack" (·.modeStack)
    |>.optional "context" (·.context)
    |>.optional "interfaces" (·.interfaces)
    |>.optional "vlans" (·.vlans)
    |>.optional "routes" (·.routes)
    |>.optional "acls" (·.acls)
    |>.optional "ospf" (·.ospf)
    |>.optional "ospf_neighbors" (·.ospfNeighbors)
    |>.optional "rip" (·.rip)
    |>.optional "lines" (·.lines)
    |>.optional "dhcp_pools" (·.dhcpPools)
    |>.optional "dhcp_excluded" (·.dhcpExcluded)
    |>.optional "nat" (·.nat)
    |>.optional "stp" (·.stp)
    |>.optional "enable_secret" (·.enableSecret)
    |>.optional "banner_motd" (·.bannerMotd)
    |>.optional "domain_name" (·.domainName)
    |>.optional "domain_lookup" (·.domainLookup)
    |>.optional "ip_routing" (·.ipRouting)
    |>.optional "default_gateway" (·.defaultGateway)
    |>.optional "startup_config" (·.startupConfig)

instance : Codec LinkEnd := Record.codec <|
  Record.of { device := "", port := "" } LinkEnd.mk
    |>.required "device" (·.device)
    |>.required "port" (·.port)

instance : Codec Link := Record.codec <|
  Record.of { id := "", a := ⟨"", ""⟩, b := ⟨"", ""⟩ } Link.mk
    |>.required "link_id" (·.id)
    |>.required "a" (·.a)
    |>.required "b" (·.b)
    |>.optional "up" (·.up)

instance : Codec Topology := Record.codec <|
  Record.of {} Topology.mk
    |>.optional "devices" (·.devices)
    |>.optional "links" (·.links)
    |>.optional "next_link_id" (·.nextLinkId)

end NetRack
