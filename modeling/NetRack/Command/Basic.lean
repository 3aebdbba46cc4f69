import NetRack.Device.Basic

/-!
# Commands

What a user asks a device to do, with arguments of the types that they stand for.  The commands
come in groups by the mode in which they are given.
-/

namespace NetRack

/-- What `show` shows. -/
inductive ShowItem where
  | runningConfig
  | startupConfig
  | version
  | interfaceBrief
  | routes
  | protocols
  | ospfNeighbors
  | natTranslations
  | dhcpPools
  | vlanBrief
  | interfacesTrunk
  | interfacesStatus
  | accessLists
  | etherchannelSummary
  | portSecurity (interface : Option String)
  | cdpNeighbors
deriving DecidableEq

/-- Commands that look at a device or change its mode. -/
inductive ExecCommand where
  | enable
  | disable
  | exit
  | endConfig
  | configureTerminal
  | copyRunStart
  | ping (target : String) (source : Option String)
  | traceroute (target : String)
  | display (item : ShowItem)
deriving DecidableEq

/-- Where a static route leads: to a next hop or out of an interface. -/
inductive RouteTarget where
  | hop (address : Address)
  | exit (interface : String)
deriving DecidableEq

/-- The terminal lines that a command selects. -/
inductive LineRange where
  | console (first : Int)
  | vty (first : Int) (last : Option Int)
deriving DecidableEq

/-- The addresses that agree with a base in every bit that the wildcard leaves at zero. -/
structure AddressPattern where
  base : Address
  wildcard : Address
deriving DecidableEq

/-- Every address. -/
def AddressPattern.any : AddressPattern := ⟨.zero, .ones⟩

/-- One address. -/
def AddressPattern.host (a : Address) : AddressPattern := ⟨a, .zero⟩

/-- A rule as it is entered; without a protocol it looks at sources only. -/
structure RuleEntry where
  action : RuleAction
  protocol : Option Protocol
  source : AddressPattern
  destination : AddressPattern
deriving DecidableEq

/-- Commands of global configuration, and those that enter a submode. -/
inductive GlobalCommand where
  | hostname (name : String)
  | enableSecret (secret : String)
  | bannerMotd (text : String)
  | domainName (domain : String)
  | noDomainLookup
  | ipRouting
  | ipRoute (network mask : Address) (target : RouteTarget) (distance : Int)
  | noIpRoute (network mask : Address) (target : RouteTarget)
  | interface (name : String)
  | routerOspf (process : Int)
  | routerRip
  | noRouterOspf (process : Int)
  | noRouterRip
  | line (range : LineRange)
  | vlan (vlan : Int)
  | noVlan (vlan : Int)
  | accessListNamed (kind : AclKind) (name : String)
  | accessListNumbered (number : Int) (rule : RuleEntry)
  | noAccessList (name : String)
  | dhcpPool (name : String)
  | dhcpExcluded (low high : Address)
  | natStatic (localAddress globalAddress : Address)
  | natDynamic (acl : String) (interface pool : Option String) (overload : Bool)
  | natPool (name : String) (first last netmask : Address)
  | stpMode (mode : StpMode)
  | stpVlanPriority (vlan priority : Int)
deriving DecidableEq

/-- How the VLANs of a trunk change. -/
inductive TrunkChange where
  | all
  | none
  | set (vlans : List Int)
  | add (vlans : List Int)
  | remove (vlans : List Int)
  | except (vlans : List Int)
deriving DecidableEq

/-- How the security of a port changes. -/
inductive SecurityChange where
  | enable
  | maximum (count : Int)
  | violation (reaction : Violation)
  | sticky
  | station (address : String)
deriving DecidableEq

/-- The direction in which an interface filters. -/
inductive FilterSide where
  | inbound
  | outbound
deriving DecidableEq, Repr

/-- Commands of interface configuration. -/
inductive InterfaceCommand where
  | description (text : String)
  | noDescription
  | shutdown
  | noShutdown
  | ipAddress (ip mask : Address)
  | noIpAddress (address : Option (Address × Address))
  | accessGroup (acl : String) (side : FilterSide)
  | noAccessGroup (acl : String) (side : FilterSide)
  | natDirection (side : NatSide)
  | noNatDirection (side : NatSide)
  | switchportMode (mode : PortMode)
  | switchportAccessVlan (vlan : Int)
  | trunkAllowed (change : TrunkChange)
  | trunkNative (vlan : Int)
  | portSecurity (change : SecurityChange)
  | noPortSecurity
  | encapsulation (vlan : Int)
  | channelGroup (group : Int) (mode : ChannelMode)
  | noChannelGroup
  | portfast
  | noPortfast
deriving DecidableEq

/-- Commands of the configuration of routing processes. -/
inductive RouterCommand where
  | ospfNetwork (network wildcard : Address) (area : Int)
  | ripNetwork (network : Address)
  | noNetwork (network : Address) (tail : Option (Address × Int))
  | routerId (id : Address)
  | ripVersion (version : Int)
  | noAutoSummary
  | passiveInterface (name : String)
deriving DecidableEq

/-- Commands of the configuration of terminal lines. -/
inductive LineCommand where
  | password (password : String)
  | login (method : LoginMethod)
  | noLogin
  | transportInput (transport : Transport)
  | execTimeout (minutes seconds : Int)
  | loggingSynchronous
deriving DecidableEq

/-- Commands of the configuration of address pools. -/
inductive PoolCommand where
  | network (network mask : Address)
  | defaultRouter (address : Address)
  | dnsServer (address : Address)
  | domainName (domain : String)
  | lease (days : Int)
deriving DecidableEq

/-- Commands of end hosts. -/
inductive HostCommand where
  | ip (ip mask : Address) (gateway : Option Address)
  | ipconfig
deriving DecidableEq

/-- A command. -/
inductive Command where
  | exec (command : ExecCommand)
  | global (command : GlobalCommand)
  | interface (command : InterfaceCommand)
  | router (command : RouterCommand)
  | line (command : LineCommand)
  | vlanName (name : String)
  | aclRule (rule : RuleEntry)
  | pool (command : PoolCommand)
  | host (command : HostCommand)
deriving DecidableEq

/-- What a line asks for: a command, or to run a line in privileged mode that starts at a column. -/
inductive Request where
  | command (command : Command)
  | runExec (line : String) (column : Int)
deriving DecidableEq

end NetRack
