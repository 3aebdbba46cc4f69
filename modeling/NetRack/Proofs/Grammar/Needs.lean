import NetRack.Proofs.Resolver.Walk

/-!
# What verbs need

Each verb is given in certain modes and needs certain arguments.  The grammars of all modes provide
for both: wherever a verb stands in a grammar, the labels on the way to it record what it needs, and
the mode is one in which it is given.
-/

namespace NetRack

/-! ## Labels that record a kind of argument -/

/-- The label that records an argument, if there is one. -/
def recorded (trail : List NodeLabel) (name : String) : Option NodeLabel := trail.find? (·.records name)

namespace NodeLabel

/-- The label records a text. -/
def givesText : NodeLabel → Bool
  | keyword _ _ => true
  | argument _ kind _ _ => kind = .word || kind = .line || kind = .mac || kind = .interface

/-- The label records the name of an interface that the device may have. -/
def givesInterface : NodeLabel → Bool
  | keyword _ _ => false
  | argument _ kind _ _ => kind = .interface

/-- The label records an address. -/
def givesAddress : NodeLabel → Bool
  | keyword _ _ => false
  | argument _ kind _ _ => kind = .ipv4 || kind = .wildcard || kind = .mask

/-- The label records a mask. -/
def givesMask : NodeLabel → Bool
  | keyword _ _ => false
  | argument _ kind _ _ => kind = .mask

/-- The label records a next hop. -/
def givesTarget : NodeLabel → Bool
  | keyword _ _ => false
  | argument _ kind _ _ => kind = .nextHop

/-- The label records a number. -/
def givesInt : NodeLabel → Bool
  | keyword _ _ => false
  | argument _ kind _ _ => kind = .int

/-- The label records a number within bounds. -/
def givesIntWithin (low high : Int) : NodeLabel → Bool
  | keyword _ _ => false
  | argument _ kind l h => kind = .int && (l.any (low ≤ ·) && h.any (· ≤ high))

/-- The label records a word of a vocabulary. -/
def givesWord (α : Type) [Vocabulary α] : NodeLabel → Bool
  | keyword token _ => (Vocabulary.read? α token).isSome
  | argument _ _ _ _ => false

end NodeLabel

/-! ## Arguments by verb -/

open NodeLabel in
/-- Whether the labels on the way to a verb record the arguments that it needs; those that may be
absent are checked if they are there. -/
def Verb.isServed (trail : List NodeLabel) (v : Verb) : Bool :=
  let has (name : String) (check : NodeLabel → Bool) : Bool := (recorded trail name).any check
  let mayHave (name : String) (check : NodeLabel → Bool) : Bool := (recorded trail name).all check
  match v with
  | .ping => has "target" givesText && mayHave "source" givesText
  | .traceroute => has "target" givesText
  | .runExec => has "command" givesText
  | .hostname => has "hostname" givesText
  | .enableSecret => has "secret" givesText
  | .bannerMotd => has "text" givesText
  | .domainName => has "domain" givesText
  | .ipRoute =>
    has "network" givesAddress && has "mask" givesAddress && has "next_hop" givesTarget
      && mayHave "distance" (givesIntWithin 1 255)
  | .noIpRoute => has "network" givesAddress && has "mask" givesAddress && has "next_hop" givesTarget
  | .interface => has "interface" givesInterface
  | .routerOspf => has "process" givesInt
  | .noRouterOspf => has "process" givesInt
  | .line => has "first" givesInt && has "line_type" givesText && mayHave "last" givesInt
  | .vlan => has "vlan" givesInt
  | .noVlan => has "vlan" givesInt
  | .accessListNamed => has "acl_kind" (givesWord AclKind) && has "name" givesText
  | .accessListNumbered =>
    has "number" givesInt && has "action" (givesWord RuleAction) && mayHave "protocol" (givesWord Protocol)
  | .noAccessList => mayHave "name" givesText && ((recorded trail "name").isSome || has "number" givesInt)
  | .dhcpPool => has "pool" givesText
  | .dhcpExcluded => has "low" givesAddress && mayHave "high" givesAddress
  | .natStatic => has "local" givesAddress && has "global" givesAddress
  | .natDynamic => has "acl" givesText && mayHave "interface" givesText && mayHave "pool" givesText
  | .natPool =>
    has "pool" givesText && has "start" givesAddress && has "end" givesAddress && has "netmask" givesAddress
  | .stpMode => has "stp_mode" (givesWord StpMode)
  | .stpVlanPriority => has "vlan" givesInt && has "priority" givesInt
  | .description => has "text" givesText
  | .ipAddress => has "ip" givesAddress && has "mask" givesMask
  | .noIpAddress => mayHave "ip" givesAddress && ((recorded trail "ip").isNone || has "mask" givesAddress)
  | .accessGroup => has "acl" givesText && has "direction" givesText
  | .noAccessGroup => has "acl" givesText && has "direction" givesText
  | .natDirection => has "nat" (givesWord NatSide)
  | .noNatDirection => has "nat" (givesWord NatSide)
  | .switchportMode => has "mode" (givesWord PortMode)
  | .switchportAccessVlan => has "vlan" givesInt
  | .trunkNative => has "vlan" givesInt
  | .portSecurity =>
    mayHave "maximum" givesInt && mayHave "violation" (givesWord Violation) && mayHave "mac" givesText
  | .encapsulation => has "vlan" givesInt
  | .channelGroup => has "group" (givesIntWithin 1 64) && has "channel_mode" (givesWord ChannelMode)
  | .ospfNetwork => has "network" givesAddress && has "wildcard" givesAddress && has "area" givesInt
  | .ripNetwork => has "network" givesAddress
  | .noNetwork =>
    has "network" givesAddress && mayHave "area" givesInt
      && ((recorded trail "area").isNone || has "wildcard" givesAddress)
  | .routerId => has "router_id" givesAddress
  | .ripVersion => has "version" givesInt
  | .passiveInterface => has "interface" givesText
  | .linePassword => has "password" givesText
  | .transportInput => has "transport" (givesWord Transport)
  | .execTimeout => has "minutes" givesInt && mayHave "seconds" givesInt
  | .vlanName => has "name" givesText
  | .aclRule => has "action" (givesWord RuleAction) && mayHave "protocol" (givesWord Protocol)
  | .dhcpNetwork => has "network" givesAddress && has "mask" givesAddress
  | .dhcpDefaultRouter => has "address" givesAddress
  | .dhcpDnsServer => has "address" givesAddress
  | .dhcpDomainName => has "domain" givesText
  | .dhcpLease => has "days" givesInt
  | .hostIp => has "ip" givesAddress && has "mask" givesMask && mayHave "gateway" givesAddress
  | _ => true

/-! ## Modes by verb -/

/-- Whether a verb is given in a mode of a console other than that of an end host. -/
def Verb.isGivenIn (m : Mode) : Verb → Bool
  | .exit | .ping | .traceroute | .showVersion | .showIpInterfaceBrief | .showIpRoute => true
  | .enable => !m.isConfig
  | .disable | .configureTerminal | .copyRunStart | .showRunningConfig | .showStartupConfig
  | .showIpProtocols | .showIpOspfNeighbor | .showIpNatTranslations | .showIpDhcpPool | .showVlanBrief
  | .showInterfacesTrunk | .showInterfacesStatus | .showAccessLists | .showEtherchannelSummary
  | .showPortSecurity | .showCdpNeighbors => m = .privileged
  | .endConfig | .runExec | .interface | .routerOspf | .routerRip | .line | .vlan | .accessListNamed
  | .dhcpPool => m.isConfig
  | .hostname | .enableSecret | .bannerMotd | .domainName | .noDomainLookup | .ipRouting | .ipRoute
  | .noIpRoute | .noRouterOspf | .noRouterRip | .noVlan | .accessListNumbered | .noAccessList
  | .dhcpExcluded | .natStatic | .natDynamic | .natPool | .stpMode | .stpVlanPriority => m = .globalConfig
  | .description | .noDescription | .shutdown | .noShutdown | .ipAddress | .noIpAddress | .accessGroup
  | .noAccessGroup | .natDirection | .noNatDirection | .switchportMode | .switchportAccessVlan
  | .trunkAllowed | .trunkNative | .portSecurity | .noPortSecurity | .encapsulation | .channelGroup
  | .noChannelGroup | .portfast | .noPortfast => m = .interfaceConfig
  | .ospfNetwork | .ripNetwork | .noNetwork | .routerId | .ripVersion | .noAutoSummary
  | .passiveInterface => m = .routerConfig
  | .linePassword | .lineLogin | .noLogin | .transportInput | .execTimeout
  | .loggingSynchronous => m = .lineConfig
  | .vlanName => m = .vlanConfig
  | .aclRule => m = .aclConfig
  | .dhcpNetwork | .dhcpDefaultRouter | .dhcpDnsServer | .dhcpDomainName | .dhcpLease => m = .dhcpConfig
  | .hostIp | .hostIpconfig => false

/-- Whether a verb is given on an end host. -/
def Verb.isForHosts (v : Verb) : Bool := v ∈ [.exit, .ping, .traceroute, .hostIp, .hostIpconfig]

/-- Whether a verb is given in a mode of a kind of console. -/
def Verb.belongs (m : Mode) (v : Verb) : Grammar.Platform → Bool
  | .ios => v.isGivenIn m
  | .host => v.isForHosts

/-! ## The grammars provide for their verbs -/

theorem ofMode_serves (m : Mode) :
    ∀ e ∈ (Grammar.ofMode m).ends [], e.1.isServed e.2 = true ∧ e.1.isGivenIn m = true := by
  cases m <;> decide +kernel

theorem hostGrammar_serves :
    ∀ e ∈ Grammar.hostGrammar.ends [], e.1.isServed e.2 = true ∧ e.1.isForHosts = true := by
  decide

/-- Every way through a grammar leads to a verb that is given in the mode, and gives what it needs. -/
theorem root_serves {m : Mode} {p : Grammar.Platform} {e : Verb × List NodeLabel}
    (he : e ∈ (Grammar.root m p).ends []) : e.1.isServed e.2 = true ∧ e.1.belongs m p = true := by
  cases p with
  | ios => exact ofMode_serves m e he
  | host => exact hostGrammar_serves e he

/-! ## Keywords that lead to one verb -/

namespace Node

/-- Whether a keyword that is spelled in full leads to one verb only. -/
def reserves (n : Node) (token : String) (v : Verb) : Bool :=
  match n.keywords.filter (·.token = token) with
  | [child] => (child.ends [child.label]).all (·.1 = v)
  | _ => false

theorem select_of_reserves {n : Node} {token word : String} {v : Verb} (h : n.reserves token v = true)
    (hw : Text.lower word = token) :
    ∃ child binds, n.select word = [child] ∧ child.label = .keyword token binds ∧
      ∀ e ∈ child.ends [child.label], e.1 = v := by
  unfold reserves at h
  split at h
  · rename_i child hfound
    have hmem : child ∈ n.keywords.filter (·.token = token) := by simp [hfound]
    obtain ⟨hkeyword, htoken⟩ := List.mem_filter.1 hmem
    have plain := (List.mem_filter.1 hkeyword).2
    have hselect : n.select word = [child] := by
      unfold select
      simp only [hw, hfound]
    have hends : ∀ e ∈ child.ends [child.label], e.1 = v := by simpa using h
    unfold isArgument at plain
    unfold Node.token at htoken
    cases hl : child.label with
    | argument name kind low high =>
      rw [hl] at plain
      cases plain
    | keyword t binds =>
      rw [hl] at htoken hends
      obtain rfl : t = token := of_decide_eq_true htoken
      exact ⟨child, binds, hselect, hl, hl ▸ hends⟩
  · cases h

end Node

/-- Every configuration mode runs other lines by one keyword, which does nothing else. -/
theorem ofMode_reserves {m : Mode} (h : m.isConfig = true) :
    (Grammar.ofMode m).reserves "do" .runExec = true := by
  revert h
  cases m <;> decide

end NetRack
