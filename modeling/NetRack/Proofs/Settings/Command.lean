import NetRack.Proofs.Ports.Command
import NetRack.Proofs.Settings.Step

/-!
# What commands do to settings

Every command is refused, leaves the settings of a device as they are, or makes the step from them that is named
after it.
-/

namespace NetRack

open Outcome

/-- A command is refused or makes a step from the settings of a device. -/
abbrev StepsSettings (d : Device) (c : Command) (x : Except Failure Outcome) : Prop :=
  Returns (fun o => d.settings.Step c o.device.settings) x

section Console

variable {d : Device} {c : Command}

/-- Moving the console leaves the settings. -/
theorem enterMode_settings (mode : Mode) (select : EditContext → EditContext) :
    Returns (fun x => x.settings = d.settings) (d.enterMode mode select) :=
  enterMode_keeps (fun _ _ _ _ => rfl) mode select

/-- Entering a mode comes last. -/
theorem steps_enterMode {x : Device} (step : d.settings.Step c x.settings) (mode : Mode)
    (select : EditContext → EditContext) {f : Device → Outcome} (hf : ∀ x, (f x).device = x) :
    StepsSettings d c (liftM (x.enterMode mode select) >>= fun y => pure (f y)) := by
  refine (Meets.lift (enterMode_settings mode select)).bind fun y hy => ?_
  show d.settings.Step c (f y).device.settings
  rw [hf, hy]
  exact step

theorem execCommand_settings (t : Topology) (c : ExecCommand) : StepsSettings d (.exec c) (c.apply t d) := by
  cases c with
  | enable => exact .same _
  | disable => exact .same _
  | exit =>
    have left : Returns (fun p => p.1.settings = d.settings) d.exitMode := exitMode_keeps fun _ _ _ _ => rfl
    refine .ite (.same _) (left.lift.bind fun p hp => ?_)
    show d.settings.Step _ p.1.settings
    rw [hp]
    exact .same _
  | endConfig => exact .same _
  | configureTerminal => exact steps_enterMode (.same _) _ _ fun _ => rfl
  | copyRunStart => exact .after fun _ => .same _
  | ping target source => exact .after fun _ => .after fun _ => .after fun _ => .same _
  | traceroute target => exact .after fun _ => .after fun _ => .same _
  | display item => exact .after fun _ => .same _

end Console

/-! ## Static routes -/

section Routes

variable {d : Device}

theorem insertRoute_mem (routes : List Route) (r : Route) :
    Returns (fun result => ∀ x ∈ result, x = r ∨ x ∈ routes) (insertRoute routes r) := by
  refine (insertRoute_returns routes r).imp fun result put x hx => ?_
  rcases put with rfl | rfl
  · exact Or.inr hx
  · rcases List.mem_append.1 (mem_sortBy.1 hx) with hx | hx
    · exact Or.inr hx
    · exact Or.inl (List.mem_singleton.1 hx)

theorem mem_statics {r : Route} : r ∈ d.statics ↔ r ∈ d.routes ∧ r.isFrom .static = true := List.mem_filter

theorem addStaticRoute_settings (network mask : Address) (target : RouteTarget) (distance : Int) :
    StepsSettings d (.global (.ipRoute network mask target distance))
      (addStaticRoute d network mask target distance) := by
  refine .after fun n => .after fun _ => .after fun _ => (insertRoute_mem _ _).lift.bind fun routes mem => ?_
  refine .routes (.put (.route n target distance) fun x hx => ?_)
  obtain ⟨hx, static⟩ := List.mem_filter.1 hx
  refine (mem x hx).imp id fun hx => ?_
  obtain ⟨hx, way⟩ := List.mem_filter.1 hx
  exact ⟨mem_statics.2 ⟨hx, static⟩, by simpa using way⟩

theorem removeStaticRoute_settings (network mask : Address) (target : RouteTarget) (c : Command) :
    StepsSettings d c (removeStaticRoute d network mask target) := by
  refine .after fun n => .after fun _ => .routes (.drop fun x hx => ?_)
  obtain ⟨hx, static⟩ := List.mem_filter.1 hx
  exact mem_statics.2 ⟨(List.mem_filter.1 hx).1, static⟩

/-- Only a static route to everywhere goes the way of the default route. -/
theorem not_sameWay_default {r : Route} (gateway : Address)
    (other : (r.isFrom .static && r.net.length = 0) = false) : r.sameWay (defaultRoute gateway) = false := by
  by_contra way
  rw [Bool.not_eq_false] at way
  unfold Route.sameWay at way
  simp only [Bool.and_eq_true, decide_eq_true_eq] at way
  obtain ⟨⟨⟨⟨source, network⟩, mask⟩, -⟩, -⟩ := way
  have static : r.isFrom .static = true := decide_eq_true source
  have net : r.net = (defaultRoute gateway).net := by
    unfold Route.net Route.destination
    rw [network, mask]
  rw [defaultRoute_eq, net_staticRoute (by decide)] at net
  simp [static, net, Network.around] at other

theorem setHostAddress_settings (h : d.Sound) (ip mask : Address) (gateway : Option Address) :
    StepsSettings d (.host (.ip ip mask gateway)) (setHostAddress d ip mask gateway) := by
  obtain ⟨key, i, hfirst, hi⟩ := h.first_interface
  unfold setHostAddress
  simp only [Device.sortedEntries_of_table h.interfaces, liftM_ok, ok_bind, hfirst]
  refine .after fun n => .after fun _ => .after fun _ => ?_
  rw [withoutStaticDefault_eq h.routes, liftM_ok, ok_bind]
  -- What becomes of the interface does not show in the settings.
  have done {routes : List Route} (step : RouteStep d.statics (.host (.ip ip mask gateway))
        (routes.filter (·.isFrom .static))) :
      d.settings.Step (.host (.ip ip mask gateway))
        (touchInterface { d with defaultGateway := gateway.map (·.text), routes } key
          { i with ip := some ip.text, mask := some n.mask.text, adminUp := true }).device.settings := by
    have same := Device.settings_modifyInterface_same
      (d := { d with defaultGateway := gateway.map (·.text), routes }) hi
      (j := { i with ip := some ip.text, mask := some n.mask.text, adminUp := true }) rfl
    show d.settings.Step _ (Device.modifyInterface _ key _).settings
    rw [same]
    exact .routes step
  have kept {x : Route} (hx : x ∈ d.routes.filter fun r => !(r.isFrom .static && r.net.length = 0))
      (static : x.isFrom .static = true) :
      x ∈ d.statics ∧ ∀ g, x.sameWay (defaultRoute g) = false := by
    obtain ⟨hx, other⟩ := List.mem_filter.1 hx
    exact ⟨mem_statics.2 ⟨hx, static⟩, fun g => not_sameWay_default g (by rwa [Bool.not_eq_true'] at other)⟩
  cases gateway with
  | none =>
    refine done (.drop fun x hx => ?_)
    obtain ⟨hx, static⟩ := List.mem_filter.1 hx
    exact (kept hx static).1
  | some g =>
    refine (insertRoute_mem _ _).lift.bind fun routes mem => done (.put (.gateway g) fun x hx => ?_)
    obtain ⟨hx, static⟩ := List.mem_filter.1 hx
    refine (mem x hx).imp id fun hx => ?_
    exact ⟨(kept hx static).1, (kept hx static).2 g⟩

theorem hostCommand_settings (h : d.Sound) (c : HostCommand) : StepsSettings d (.host c) (c.apply d) := by
  cases c with
  | ip address mask gateway => exact setHostAddress_settings h address mask gateway
  | ipconfig => exact .after fun _ => .same _

end Routes

/-! ## Interfaces and VLANs -/

section Interfaces

variable {d : Device}

theorem configureInterface_settings (name : String) :
    StepsSettings d (.global (.interface name)) (configureInterface d name) := by
  unfold configureInterface
  by_cases known : name ∈ d.interfaces.keys
  · rw [if_pos (Table.contains_iff.2 known)]
    exact steps_enterMode (.same _) _ _ fun _ => rfl
  · rw [if_neg (by rwa [Table.contains_iff])]
    refine .after fun mode => steps_enterMode ?_ .interfaceConfig _ fun _ => rfl
    rw [Device.settings_insertInterface]
    exact .ports (.new (by rwa [Device.settings, Device.keys_features]))

theorem configureVlan_settings (vlan : Int) : StepsSettings d (.global (.vlan vlan)) (configureVlan d vlan) := by
  refine .after fun _ => steps_enterMode ?_ _ _ fun _ => rfl
  rw [Device.settings_ensureVlan]
  exact .vlans (.new vlan)

theorem removeVlan_settings (vlan : Int) : StepsSettings d (.global (.noVlan vlan)) (removeVlan d vlan) := by
  refine .after fun _ => (refuseIf_meets _ _).bind fun _ other => .after fun _ => .after fun _ => ?_
  exact .after fun _ => .vlans (.remove (by simpa using other))

/-- A command changes the interface under configuration. -/
theorem current_settings {c : Command} {next : String × Interface → Except Failure Outcome}
    (hnext : ∀ key i, d.interfaces.get? key = some i → StepsSettings d c (next (key, i))) :
    StepsSettings d c (currentInterface d >>= next) := by
  refine (currentInterface_meets d).bind ?_
  rintro ⟨key, i⟩ ⟨-, hi⟩
  exact hnext key i hi

theorem switchport_settings {c : Command} {next : String × Interface → Except Failure Outcome}
    (hnext : ∀ key i, d.interfaces.get? key = some i → StepsSettings d c (next (key, i))) :
    StepsSettings d c (currentSwitchport d >>= next) := by
  have current : Returns (fun e => d.interfaces.get? e.1 = some e.2) (currentSwitchport d) := by
    refine .after fun _ => (currentInterface_meets d).bind ?_
    rintro ⟨key, i⟩ ⟨-, hi⟩
    exact .after fun _ => .after fun _ => hi
  refine current.bind ?_
  rintro ⟨key, i⟩ hi
  exact hnext key i hi

variable {key : String} {i j : Interface} {c : Command}

theorem step_of_features (hi : d.interfaces.get? key = some i) (same : j.features = i.features) :
    d.settings.Step c (d.modifyInterface key fun _ => j).settings := by
  rw [Device.settings_modifyInterface_same hi same]
  exact .same c

theorem step_of_change {g : PortFeatures} (hi : d.interfaces.get? key = some i) (change : i.features.Change c g)
    (hj : j.features = g) : d.settings.Step c (d.modifyInterface key fun _ => j).settings := by
  rw [Device.settings_modifyInterface d key (g := fun _ => g) fun _ => hj]
  exact .ports (.change (Device.get?_features_of_get? hi) change)

theorem setAccessVlan_settings (vlan : Int) :
    StepsSettings d (.interface (.switchportAccessVlan vlan)) (setAccessVlan d vlan) := by
  refine switchport_settings fun key i hi => ?_
  show d.settings.Step _ ((d.ensureVlan vlan).1.modifyInterface key fun _ => { i with accessVlan := vlan }).settings
  rw [Device.settings_modifyInterface _ key (g := fun _ => { i.features with accessVlan := vlan }) fun _ => rfl,
    Device.settings_ensureVlan]
  exact .switching (.change (Device.get?_features_of_get? hi) (.access (f := i.features) vlan)) (.access vlan)

theorem setPortSecurity_settings (change : SecurityChange) :
    StepsSettings d (.interface (.portSecurity change)) (setPortSecurity d change) := by
  refine switchport_settings fun key i hi => .after fun _ => ?_
  cases hps : change.apply i.name i.portSecurity with
  | error f => trivial
  | ok security => exact step_of_change hi (.security (f := i.features) hps) rfl

/-- A search that comes upon nothing has looked at everything. -/
theorem anyOf_meets {α : Type} (check : α → Except Fault Bool) (xs : List α) :
    Returns (fun found => found = false → ∀ x ∈ xs, check x = .ok false) (Topology.anyOf check xs) := by
  have search : Returns (fun found => found = none → ∀ x ∈ xs, check x = .ok false) (Topology.findFirst check xs) := by
    induction xs with
    | nil => exact fun _ x hx => by cases hx
    | cons x xs ih =>
      unfold Topology.findFirst
      cases hx : check x with
      | error f => trivial
      | ok found =>
        cases found with
        | true => exact fun none => by cases none
        | false => exact ih.imp fun _ rest none => List.forall_mem_cons.2 ⟨hx, rest none⟩
  exact search.bind fun found hfound none => hfound (Option.not_isSome_iff_eq_none.1 (by simpa using none))

/-- The other members of the group that a port joins speak its protocol. -/
theorem speaksOther_false {name : String} {group : Int} {protocol : ChannelProtocol} {other : Interface}
    (h : speaksOther name group protocol other = .ok false) (apart : other.name ≠ name)
    (member : other.channelGroup = some group) :
    ∃ m, other.channelMode = some (.known m) ∧ m.protocol = protocol := by
  unfold speaksOther memberProtocol at h
  rw [if_pos (by simp [apart, member])] at h
  split at h
  · rename_i m hm
    exact ⟨m, hm, by simpa using h⟩
  · cases h
  · cases h

theorem joinGroup_settings (h : d.Sound) (group : Int) (mode : ChannelMode) :
    StepsSettings d (.interface (.channelGroup group mode)) (joinGroup d group mode) := by
  refine current_settings fun key i hi => .after fun _ => .after fun _ => ?_
  simp only [Device.sortedInterfaces_of_table h.interfaces, liftM_ok, ok_bind]
  refine (anyOf_meets _ _).lift.bind fun mismatch hmismatch => (refuseIf_meets _ _).bind fun _ agree => ?_
  have joined (new : Interface) := d.settings_joined key (InterfaceName.ofGroup group) new
    (f := fun i => { i with channelGroup := some group, channelMode := some (.known mode) })
    (g := fun g => { g with group := some group, groupMode := some (.known mode) }) fun _ => rfl
  show d.settings.Step _ (Device.modifyInterface _ key _).settings
  rw [joined]
  refine .ports (.join (Device.get?_features_of_get? hi) fun k g hg hne member => ?_)
  obtain ⟨other, hother, rfl⟩ := Device.get?_of_get?_features hg
  have name := h.interfaces.name_eq hother
  refine speaksOther_false (hmismatch agree other ?_) ?_ member
  · rw [Device.mem_ordered_values h.interfaces, name]
    exact hother
  · rwa [name, h.interfaces.name_eq hi]

theorem leaveGroup_settings : StepsSettings d (.interface .noChannelGroup) (leaveGroup d) := by
  refine current_settings fun key i hi => ?_
  show d.settings.Step _ (Device.modifyInterface _ key _).settings
  rw [Device.modifyInterface_at hi]
  exact step_of_change hi .leave rfl

theorem interfaceCommand_settings (h : d.Sound) (c : InterfaceCommand) :
    StepsSettings d (.interface c) (c.apply d) := by
  have features {c : Command} {key : String} {i j : Interface} (hi : d.interfaces.get? key = some i)
      (same : j.features = i.features) : d.settings.Step c (d.modifyInterface key fun _ => j).settings :=
    step_of_features hi same
  cases c with
  | description text => exact current_settings fun key i hi => features hi rfl
  | noDescription => exact current_settings fun key i hi => features hi rfl
  | shutdown => exact current_settings fun key i hi => features hi rfl
  | noShutdown => exact current_settings fun key i hi => features hi rfl
  | ipAddress ip mask =>
    refine current_settings fun key i hi => .after fun _ => .after fun n => .after fun _ => .after fun is =>
      .after fun other => ?_
    cases other with
    | some other => trivial
    | none => exact features hi rfl
  | noIpAddress address => exact current_settings fun key i hi => .after fun _ => features hi rfl
  | accessGroup acl side =>
    refine current_settings fun key i hi => .after fun _ => ?_
    cases side <;> exact features hi rfl
  | noAccessGroup acl side =>
    refine current_settings fun key i hi => ?_
    cases side <;> exact features hi rfl
  | natDirection side => exact current_settings fun key i hi => features hi rfl
  | noNatDirection side => exact current_settings fun key i hi => features hi rfl
  | switchportMode mode => exact switchport_settings fun key i hi => features hi rfl
  | switchportAccessVlan vlan => exact setAccessVlan_settings vlan
  | trunkAllowed change =>
    refine switchport_settings fun key i hi => step_of_change hi (.trunk (f := i.features) change ?_ ?_) rfl
    · intro set hset
      split at hset
      · cases hset
      · exact (Option.some.inj hset).symm
    · intro all
      split at all
      · cases all
      · rename_i part
        exact part (Option.some.inj all)
  | trunkNative vlan =>
    exact switchport_settings fun key i hi => step_of_change hi (.native (f := i.features) vlan) rfl
  | portSecurity change => exact setPortSecurity_settings change
  | noPortSecurity => exact switchport_settings fun key i hi => step_of_change hi (.noSecurity (f := i.features)) rfl
  | encapsulation vlan =>
    refine current_settings fun key i hi => .after fun _ => .after fun _ => .after fun _ => .after fun _ =>
      .after fun _ => ?_
    exact step_of_change hi (.tag (f := i.features) vlan) rfl
  | channelGroup group mode => exact joinGroup_settings h group mode
  | noChannelGroup => exact leaveGroup_settings
  | portfast => exact switchport_settings fun key i hi => features hi rfl
  | noPortfast => exact switchport_settings fun key i hi => features hi rfl

end Interfaces

/-! ## Global commands -/

section Global

variable {d : Device}

theorem configureOspf_settings (process : Int) :
    StepsSettings d (.global (.routerOspf process)) (configureOspf d process) := by
  refine .after fun _ => ?_
  have entered {config : OspfConfig} (hc : config = d.ospf.getD { processId := process }) :
      StepsSettings d (.global (.routerOspf process))
        (liftM (Device.enterMode { d with ospf := some config } .routerConfig
          fun c => { c with router := some (.known .ospf) }) >>= fun x => pure (rerouting x)) := by
    subst hc
    exact steps_enterMode (x := { d with ospf := some (d.ospf.getD { processId := process }) })
      (.ospf (s := d.settings) (.start process)) _ _ fun _ => rfl
  cases ho : d.ospf with
  | none => exact entered (by rw [ho]; rfl)
  | some c => exact .ite (entered (by rw [ho]; rfl)) trivial

theorem configureList_settings (kind : AclKind) (name : String) :
    StepsSettings d (.global (.accessListNamed kind name)) (configureList d kind name) := by
  have entered : StepsSettings d (.global (.accessListNamed kind name))
      (liftM (Device.enterMode { d with acls := d.acls.insertIfNew name { name, kind := .known kind } } .aclConfig
        fun c => { c with acl := some name }) >>= fun x => pure (ofDevice x)) :=
    steps_enterMode (x := { d with acls := d.acls.insertIfNew name { name, kind := .known kind } })
      (.lists (s := d.settings) (.new kind name)) _ _ fun _ => rfl
  unfold configureList
  cases d.acls.get? name with
  | none => exact entered
  | some l => exact .after fun _ => entered

theorem addNumberedRule_settings (number : Int) (e : RuleEntry) :
    StepsSettings d (.global (.accessListNumbered number e)) (addNumberedRule d number e) := by
  show Returns _ (Except.bind (((d.acls.get? (Text.intText number)).getD
    { name := Text.intText number, kind := .known (kindOfNumber number) }).append e) _)
  cases append : ((d.acls.get? (Text.intText number)).getD
      { name := Text.intText number, kind := .known (kindOfNumber number) }).append e with
  | error f => trivial
  | ok l => exact .lists (s := d.settings) (.numbered append)

theorem ordered_of_not_lt {low high : Address} (h : ¬ high < low) : low ≤ high := Nat.not_lt.1 h

theorem excludeAddresses_settings (low high : Address) :
    StepsSettings d (.global (.dhcpExcluded low high)) (excludeAddresses d low high) := by
  refine (refuseIf_meets _ _).bind fun _ ordered => .ite (.same _) ?_
  exact .exclude (s := d.settings) (ordered_of_not_lt (by simpa using ordered))

theorem addStaticNat_settings (localAddress globalAddress : Address) :
    StepsSettings d (.global (.natStatic localAddress globalAddress)) (addStaticNat d localAddress globalAddress) := by
  unfold addStaticNat
  dsimp only
  split
  · trivial
  · rename_i none
    by_cases known : (⟨localAddress.text, globalAddress.text⟩ : NatStatic) ∈ d.nat.statics
    · rw [if_pos known]
      exact .same _
    · rw [if_neg known]
      refine .nat (s := d.settings) (.fixed fun s hs same => ?_)
      -- The entry that has the address is neither another one nor this one.
      have other := List.find?_eq_none.1 none s hs
      simp only [same, decide_true, Bool.true_and, decide_eq_true_eq, ne_eq, not_not] at other
      exact known (other ▸ hs)

theorem addDynamicNat_settings (acl : String) (egress pool : Option String) (overload : Bool) :
    StepsSettings d (.global (.natDynamic acl egress pool overload))
      (addDynamicNat d ⟨acl, egress, pool, overload⟩) := by
  unfold addDynamicNat
  cases pool with
  | none => exact .nat (s := d.settings) (.dynamic fun _ none => by cases none)
  | some name =>
    refine (refuseIf_meets _ _).bind fun _ known => .nat (s := d.settings) (.dynamic fun other same => ?_)
    have known : d.nat.pools.contains name = true := by simpa using known
    exact Option.some.inj same ▸ Table.contains_iff.1 known

theorem globalCommand_settings (c : GlobalCommand) : StepsSettings d (.global c) (c.apply d) := by
  cases c with
  | hostname name => exact .after fun _ => .same _
  | enableSecret secret => exact .same _
  | bannerMotd text => exact .same _
  | domainName domain => exact .same _
  | noDomainLookup => exact .same _
  | ipRouting => exact .same _
  | ipRoute network mask target distance => exact addStaticRoute_settings network mask target distance
  | noIpRoute network mask target => exact removeStaticRoute_settings network mask target _
  | interface name => exact configureInterface_settings name
  | routerOspf process => exact configureOspf_settings process
  | routerRip =>
    exact .after fun _ => steps_enterMode (x := { d with rip := some (d.rip.getD {}) })
      (.rip (s := d.settings) .start) _ _ fun _ => rfl
  | noRouterOspf process => exact .after fun _ => .ospf (s := d.settings) (.stop process)
  | noRouterRip => exact .rip (s := d.settings) .stop
  | line range => exact .after fun name => steps_enterMode (.same _) _ _ fun _ => rfl
  | vlan id => exact configureVlan_settings id
  | noVlan id => exact removeVlan_settings id
  | accessListNamed kind name => exact configureList_settings kind name
  | accessListNumbered number rule => exact addNumberedRule_settings number rule
  | noAccessList name => exact .lists (s := d.settings) (.remove name)
  | dhcpPool name => exact steps_enterMode (.same _) _ _ fun _ => rfl
  | dhcpExcluded low high => exact excludeAddresses_settings low high
  | natStatic localAddress globalAddress => exact addStaticNat_settings localAddress globalAddress
  | natDynamic acl egress pool overload => exact addDynamicNat_settings acl egress pool overload
  | natPool name first last netmask =>
    refine (refuseIf_meets _ _).bind fun _ ordered => .nat (s := d.settings) (.pool ?_)
    exact ordered_of_not_lt (by simpa using ordered)
  | stpMode mode => exact .after fun _ => .stp (s := d.settings) (.mode mode)
  | stpVlanPriority id priority =>
    refine .after fun _ => (refuseIf_meets _ _).bind fun _ multiple => .stp (s := d.settings) (.priority ?_)
    simpa using multiple

end Global

/-! ## Commands of the other submodes -/

section Submodes

variable {d : Device} {c : Command}

theorem currentOspf?_meets (d : Device) :
    Returns (fun found => ∀ config, found = some config → d.ospf = some config) (currentOspf? d) := by
  refine .ite (fun _ none => by cases none) ?_
  cases d.ospf with
  | none => trivial
  | some config => exact fun _ same => same

theorem currentRip?_meets (d : Device) :
    Returns (fun found => ∀ config, found = some config → d.rip = some config) (currentRip? d) := by
  refine .ite (fun _ none => by cases none) ?_
  cases d.rip with
  | none => trivial
  | some config => exact fun _ same => same

/-- A command changes the OSPF process under configuration. -/
theorem ospf_settings {next : OspfConfig → Except Failure Outcome}
    (hnext : ∀ config, d.ospf = some config → StepsSettings d c (next config)) :
    StepsSettings d c (currentOspf d >>= next) := by
  have current : Returns (fun config => d.ospf = some config) (currentOspf d) :=
    (currentOspf?_meets d).bind fun found hfound => by cases found <;> [trivial; exact hfound _ rfl]
  exact current.bind hnext

/-- A command changes the RIP process under configuration. -/
theorem rip_settings (r : Refusal) {next : RipConfig → Except Failure Outcome}
    (hnext : ∀ config, d.rip = some config → StepsSettings d c (next config)) :
    StepsSettings d c (currentRip d r >>= next) := by
  have current : Returns (fun config => d.rip = some config) (currentRip d r) := by
    refine (currentRip?_meets d).bind fun found hfound => ?_
    cases found with
    | none => trivial
    | some config => exact hfound config rfl
  exact current.bind hnext

theorem addOspfNetwork_settings (network wildcard : Address) (area : Int) :
    StepsSettings d (.router (.ospfNetwork network wildcard area))
      (addOspfNetwork d ⟨network.text, wildcard.text, area⟩) := by
  refine ospf_settings fun config hc => ?_
  dsimp only
  split
  · trivial
  · rename_i none
    refine .ospf (s := d.settings) (.statement hc fun n hn network wildcard => ?_)
    simpa [network, wildcard] using List.find?_eq_none.1 none n hn

theorem removeNetwork_settings (network : Address) (tail : Option (Address × Int)) :
    StepsSettings d (.router (.noNetwork network tail)) (removeNetwork d network tail) := by
  refine (currentOspf?_meets d).bind fun found hospf => ?_
  cases found with
  | some config =>
    cases tail with
    | none => trivial
    | some p => exact .after fun _ => .ospf (s := d.settings) (.noStatement _ (hospf config rfl))
  | none =>
    refine (currentRip?_meets d).bind fun found hrip => ?_
    cases found with
    | none => trivial
    | some config => exact .rip (s := d.settings) (.change (hrip config rfl) rfl)

theorem addPassiveInterface_settings (name : String) :
    StepsSettings d (.router (.passiveInterface name)) (addPassiveInterface d name) := by
  refine (refuseIf_meets _ _).bind fun _ known => ?_
  have known : name ∈ d.settings.ports.keys := by
    rw [show d.settings.ports = d.features from rfl, Device.keys_features]
    exact Table.contains_iff.1 (by simpa using known)
  refine .ite ?_ ?_
  · cases hc : d.ospf with
    | none => trivial
    | some config => exact .ospf (s := d.settings) (.silence hc known)
  · cases hc : d.rip with
    | none => trivial
    | some config => exact .rip (s := d.settings) (.silence hc known)

theorem routerCommand_settings (c : RouterCommand) : StepsSettings d (.router c) (c.apply d) := by
  cases c with
  | ospfNetwork network wildcard area => exact addOspfNetwork_settings network wildcard area
  | ripNetwork network => exact rip_settings _ fun config hc => .rip (s := d.settings) (.change hc rfl)
  | noNetwork network tail => exact removeNetwork_settings network tail
  | routerId id => exact ospf_settings fun config hc => .ospf (s := d.settings) (.identify hc)
  | ripVersion version => exact rip_settings _ fun config hc => .rip (s := d.settings) (.change hc rfl)
  | noAutoSummary => exact rip_settings _ fun config hc => .rip (s := d.settings) (.change hc rfl)
  | passiveInterface name => exact addPassiveInterface_settings name

theorem lineCommand_settings (c : LineCommand) : StepsSettings d (.line c) (c.apply d) := by
  refine .after fun e => ?_
  cases c with
  | login method => exact .ite (.same _) (.same _)
  | transportInput transport => exact .after fun _ => .same _
  | password secret => exact .same _
  | noLogin => exact .same _
  | execTimeout minutes seconds => exact .same _
  | loggingSynchronous => exact .same _

theorem nameVlan_settings (name : String) : StepsSettings d (.vlanName name) (nameVlan d name) := by
  unfold nameVlan
  cases d.context.vlan with
  | none => trivial
  | some vlan =>
    refine Meets.ite (fun _ => trivial) fun known => (refuseIf_meets _ _).bind fun _ short => ?_
    have known : vlan ∈ d.vlans.keys := Table.contains_iff.1 (by simpa using known)
    exact .vlans (s := d.settings) (.name known (by simpa using short))

theorem addRule_settings (e : RuleEntry) : StepsSettings d (.aclRule e) (addRule d e) := by
  unfold addRule
  split
  · trivial
  · rename_i key l found
    obtain ⟨_, -, found⟩ := Option.bind_eq_some_iff.1 found
    obtain ⟨_, hl, same⟩ := Option.map_eq_some_iff.1 found
    cases same
    cases append : l.append e with
    | error f => trivial
    | ok l' => exact .lists (s := d.settings) (.named hl append)

theorem poolCommand_settings (c : PoolCommand) : StepsSettings d (.pool c) (c.apply d) :=
  .after fun _ => .after fun _ => .same _

/-- Every command is refused or makes the step from the settings of its device that is named after it. -/
theorem command_settings (h : d.Sound) (t : Topology) (c : Command) : StepsSettings d c (c.apply t d) := by
  cases c with
  | exec c => exact execCommand_settings t c
  | global c => exact globalCommand_settings c
  | interface c => exact interfaceCommand_settings h c
  | host c => exact hostCommand_settings h c
  | router c => exact routerCommand_settings c
  | line c => exact lineCommand_settings c
  | vlanName name => exact nameVlan_settings name
  | aclRule e => exact addRule_settings e
  | pool c => exact poolCommand_settings c

end Submodes

end NetRack
