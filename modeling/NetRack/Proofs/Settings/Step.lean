import NetRack.Proofs.Frame.Interface

/-!
# Settings

The settings of a device are what it is configured to be, apart from its console, its addresses and what
propagation derives: the features of its interfaces, its VLANs, static routes and access lists, and its routing
processes and services.  What each command makes of them is said here once, part by part, as a step from
settings to settings.
-/

namespace NetRack

/-! ## Settings -/

/-- How an interface takes part in switching, channel groups and the security of ports. -/
structure PortFeatures where
  tag : Option Int := none
  accessVlan : Int := 1
  nativeVlan : Int := 1
  trunkVlans : Option VlanSet := none
  security : PortSecurity := {}
  group : Option Int := none
  groupMode : Option (Stored ChannelMode) := none

/-- The features of an interface. -/
def Interface.features (i : Interface) : PortFeatures where
  tag := i.dot1qVlan
  accessVlan := i.accessVlan
  nativeVlan := i.nativeVlan
  trunkVlans := i.trunkVlans
  security := i.portSecurity
  group := i.channelGroup
  groupMode := i.channelMode

/-- What a device is configured to be. -/
structure Settings where
  ports : Table String PortFeatures
  vlans : Table Int String
  routes : List Route
  lists : Table String AccessList
  ospf : Option OspfConfig
  rip : Option RipConfig
  excluded : List (String × String)
  nat : NatConfig
  stp : StpConfig

namespace Device

/-- The features of the interfaces of a device. -/
def features (d : Device) : Table String PortFeatures := d.interfaces.mapValues fun _ => Interface.features

/-- The static routes of a device. -/
def statics (d : Device) : List Route := d.routes.filter (·.isFrom .static)

/-- The settings of a device. -/
def settings (d : Device) : Settings where
  ports := d.features
  vlans := d.vlans
  routes := d.statics
  lists := d.acls
  ospf := d.ospf
  rip := d.rip
  excluded := d.dhcpExcluded
  nat := d.nat
  stp := d.stp

variable {d d' : Device} {key : String} {i j : Interface}

theorem get?_features (d : Device) (k : String) : d.features.get? k = (d.interfaces.get? k).map Interface.features :=
  Table.get?_mapValues d.interfaces _ k

theorem get?_features_of_get? (hi : d.interfaces.get? key = some i) : d.features.get? key = some i.features := by
  rw [get?_features, hi]
  rfl

theorem get?_of_get?_features {f : PortFeatures} (hf : d.features.get? key = some f) :
    ∃ i, d.interfaces.get? key = some i ∧ i.features = f := by
  rw [get?_features] at hf
  exact Option.map_eq_some_iff.1 hf

/-- A new device has no features but those that all ports have. -/
theorem features_factory {type : DeviceType} {hostname id : String} {f : PortFeatures}
    (hf : (factory type hostname id).features.get? key = some f) : f = {} := by
  obtain ⟨i, hi, rfl⟩ := get?_of_get?_features hf
  obtain ⟨p, -, hp⟩ := List.mem_map.1 (Table.mem_of_get?_ofList hi)
  obtain ⟨rfl, rfl⟩ := Prod.mk.inj hp
  rfl

theorem keys_features (d : Device) : d.features.keys = d.interfaces.keys := Table.keys_mapValues ..

theorem settings_frame (d : Device) : d.frame.settings = d.settings := by
  have features : d.frame.features = d.features := by
    unfold features frame
    rw [Table.mapValues_mapValues]
    rfl
  have statics : d.frame.statics = d.statics := d.static_frame
  unfold settings
  rw [features, statics]
  rfl

theorem settings_of_frame (h : d'.frame = d.frame) : d'.settings = d.settings := by
  rw [← settings_frame, h, settings_frame]

theorem features_modifyInterface (d : Device) (key : String) {f : Interface → Interface}
    {g : PortFeatures → PortFeatures} (hf : ∀ i, (f i).features = g i.features) :
    (d.modifyInterface key f).features = d.features.modify key g := by
  unfold features modifyInterface Table.modify
  rw [Table.mapValues_mapValues, Table.mapValues_mapValues]
  refine Table.mapValues_congr fun k i _ => ?_
  split
  · exact hf i
  · rfl

/-- An interface in the place of another of the same features leaves the settings. -/
theorem settings_modifyInterface_same (hi : d.interfaces.get? key = some i) (same : j.features = i.features) :
    (d.modifyInterface key fun _ => j).settings = d.settings := by
  have features : (d.modifyInterface key fun _ => j).features = d.features := by
    rw [features_modifyInterface d key (g := fun _ => j.features) fun _ => rfl, same, Table.modify_eq_self]
    intro f hf
    rw [get?_features_of_get? hi] at hf
    exact Option.some.inj hf
  unfold settings
  rw [features]
  rfl

theorem settings_modifyInterface (d : Device) (key : String) {f : Interface → Interface}
    {g : PortFeatures → PortFeatures} (hf : ∀ i, (f i).features = g i.features) :
    (d.modifyInterface key f).settings = { d.settings with ports := d.settings.ports.modify key g } := by
  unfold settings
  rw [features_modifyInterface d key hf]
  rfl

theorem settings_insertInterface (d : Device) (key : String) (i : Interface) :
    ({ d with interfaces := d.interfaces.insert key i } : Device).settings =
      { d.settings with ports := d.settings.ports.insert key i.features } := by
  unfold settings features
  dsimp only
  rw [Table.mapValues_insert]
  rfl

/-- A member of a group is put into a table that the port channel of the group is in. -/
theorem settings_joined (d : Device) (key channel : String) (new : Interface) {f : Interface → Interface}
    {g : PortFeatures → PortFeatures} (hf : ∀ i, (f i).features = g i.features) :
    (({ d with interfaces := d.interfaces.insertIfNew channel new } : Device).modifyInterface key f).settings =
      { d.settings with ports := (d.settings.ports.insertIfNew channel new.features).modify key g } := by
  rw [settings_modifyInterface _ key hf]
  unfold settings features
  dsimp only
  rw [Table.mapValues_insertIfNew]
  rfl

theorem settings_ensureVlan (d : Device) (vlan : Int) : (d.ensureVlan vlan).1.settings =
    { d.settings with vlans := d.settings.vlans.insertIfNew vlan (defaultVlanName vlan) } := by
  unfold ensureVlan Table.insertIfNew
  rw [show d.settings.vlans = d.vlans from rfl]
  split <;> rfl

end Device

/-! ## Steps of each part -/

/-- What a command makes of the features of one interface. -/
inductive PortFeatures.Change (f : PortFeatures) : Command → PortFeatures → Prop where
  | access (vlan : Int) : f.Change (.interface (.switchportAccessVlan vlan)) { f with accessVlan := vlan }
  | native (vlan : Int) : f.Change (.interface (.trunkNative vlan)) { f with nativeVlan := vlan }
  | trunk (change : TrunkChange) {allowed : Option VlanSet}
      (given : ∀ set, allowed = some set → set = change.apply (f.trunkVlans.getD .all)) (listed : allowed ≠ some .all) :
      f.Change (.interface (.trunkAllowed change)) { f with trunkVlans := allowed }
  | security {change : SecurityChange} {name : String} {security : PortSecurity}
      (given : change.apply name f.security = .ok security) :
      f.Change (.interface (.portSecurity change)) { f with security }
  | noSecurity : f.Change (.interface .noPortSecurity) { f with security := {} }
  | tag (vlan : Int) : f.Change (.interface (.encapsulation vlan)) { f with tag := some vlan }
  | leave : f.Change (.interface .noChannelGroup) { f with group := none, groupMode := none }

/-- What a command makes of the features of interfaces. -/
inductive PortStep (t : Table String PortFeatures) : Command → Table String PortFeatures → Prop where
  | new {name : String} (fresh : name ∉ t.keys) : PortStep t (.global (.interface name)) (t.insert name {})
  | change {c : Command} {key : String} {f g : PortFeatures} (hf : t.get? key = some f) (change : f.Change c g) :
      PortStep t c (t.modify key fun _ => g)
  | join {group : Int} {mode : ChannelMode} {key : String} {f : PortFeatures} (hf : t.get? key = some f)
      (agree : ∀ k g, t.get? k = some g → k ≠ key → g.group = some group →
        ∃ m, g.groupMode = some (.known m) ∧ m.protocol = mode.protocol) :
      PortStep t (.interface (.channelGroup group mode))
        ((t.insertIfNew (InterfaceName.ofGroup group) { accessVlan := f.accessVlan }).modify key fun g =>
          { g with group := some group, groupMode := some (.known mode) })

/-- What a command makes of a table of VLANs. -/
inductive VlanStep (t : Table Int String) : Command → Table Int String → Prop where
  | new (vlan : Int) : VlanStep t (.global (.vlan vlan)) (t.insertIfNew vlan (defaultVlanName vlan))
  | access (vlan : Int) :
      VlanStep t (.interface (.switchportAccessVlan vlan)) (t.insertIfNew vlan (defaultVlanName vlan))
  | remove {vlan : Int} (other : vlan ≠ 1) : VlanStep t (.global (.noVlan vlan)) (t.erase vlan)
  | name {vlan : Int} {name : String} (known : vlan ∈ t.keys) (short : name.length ≤ 32) :
      VlanStep t (.vlanName name) (t.insert vlan name)

/-- The route that a command configures. -/
inductive Command.Configures : Command → Route → Prop where
  | route {network mask : Address} (n : Network) (target : RouteTarget) (distance : Int) :
      Configures (.global (.ipRoute network mask target distance)) (staticRoute n target distance)
  | gateway {ip mask : Address} (gateway : Address) :
      Configures (.host (.ip ip mask (some gateway))) (defaultRoute gateway)

/-- What a command makes of static routes: a new one takes the place of any that goes the same way. -/
inductive RouteStep (routes : List Route) : Command → List Route → Prop where
  | put {c : Command} {r : Route} {routes' : List Route} (configures : c.Configures r)
      (mem : ∀ x ∈ routes', x = r ∨ x ∈ routes ∧ x.sameWay r = false) : RouteStep routes c routes'
  | drop {c : Command} {routes' : List Route} (mem : ∀ x ∈ routes', x ∈ routes) : RouteStep routes c routes'

/-- The kind of a numbered list. -/
def kindOfNumber (number : Int) : AclKind := if number < 100 then .standard else .extended

/-- What a command makes of access lists. -/
inductive ListStep (t : Table String AccessList) : Command → Table String AccessList → Prop where
  | new (kind : AclKind) (name : String) :
      ListStep t (.global (.accessListNamed kind name)) (t.insertIfNew name { name, kind := .known kind })
  | numbered {number : Int} {e : RuleEntry} {l : AccessList}
      (append : ((t.get? (Text.intText number)).getD
        { name := Text.intText number, kind := .known (kindOfNumber number) }).append e = .ok l) :
      ListStep t (.global (.accessListNumbered number e)) (t.insert (Text.intText number) l)
  | named {key : String} {e : RuleEntry} {l l' : AccessList} (hl : t.get? key = some l)
      (append : l.append e = .ok l') : ListStep t (.aclRule e) (t.modify key fun _ => l')
  | remove (name : String) : ListStep t (.global (.noAccessList name)) (t.erase name)

/-- What a command makes of the OSPF process, given the names of interfaces. -/
inductive OspfStep (names : List String) (o : Option OspfConfig) : Command → Option OspfConfig → Prop where
  | start (process : Int) :
      OspfStep names o (.global (.routerOspf process)) (some (o.getD { processId := process }))
  | stop (process : Int) : OspfStep names o (.global (.noRouterOspf process)) none
  | statement {network wildcard : Address} {area : Int} {config : OspfConfig} (hc : o = some config)
      (single : ∀ n ∈ config.networks, n.network = network.text → n.wildcard = wildcard.text → n.area = area) :
      OspfStep names o (.router (.ospfNetwork network wildcard area))
        (some { config with networks := addOnce ⟨network.text, wildcard.text, area⟩ config.networks })
  | noStatement {network : Address} {tail : Option (Address × Int)} {config : OspfConfig} (entry : OspfNetwork)
      (hc : o = some config) :
      OspfStep names o (.router (.noNetwork network tail))
        (some { config with networks := config.networks.erase entry })
  | identify {id : Address} {config : OspfConfig} (hc : o = some config) :
      OspfStep names o (.router (.routerId id)) (some { config with routerId := some id.text })
  | silence {name : String} {config : OspfConfig} (hc : o = some config) (known : name ∈ names) :
      OspfStep names o (.router (.passiveInterface name))
        (some { config with passiveInterfaces := addOnce name config.passiveInterfaces })

/-- What a command makes of the RIP process, given the names of interfaces. -/
inductive RipStep (names : List String) (o : Option RipConfig) : Command → Option RipConfig → Prop where
  | start : RipStep names o (.global .routerRip) (some (o.getD {}))
  | stop : RipStep names o (.global .noRouterRip) none
  | change {c : RouterCommand} {config config' : RipConfig} (hc : o = some config)
      (same : config'.passiveInterfaces = config.passiveInterfaces) : RipStep names o (.router c) (some config')
  | silence {name : String} {config : RipConfig} (hc : o = some config) (known : name ∈ names) :
      RipStep names o (.router (.passiveInterface name))
        (some { config with passiveInterfaces := addOnce name config.passiveInterfaces })

/-- What a command makes of the translation of addresses. -/
inductive NatStep (n : NatConfig) : Command → NatConfig → Prop where
  | fixed {localAddress globalAddress : Address} (free : ∀ s ∈ n.statics, s.localAddress ≠ localAddress.text) :
      NatStep n (.global (.natStatic localAddress globalAddress))
        { n with statics := n.statics ++ [⟨localAddress.text, globalAddress.text⟩] }
  | dynamic {acl : String} {egress pool : Option String} {overload : Bool}
      (known : ∀ name, pool = some name → name ∈ n.pools.keys) :
      NatStep n (.global (.natDynamic acl egress pool overload))
        { n with dynamics := n.dynamics.filter (·.acl ≠ acl) ++ [⟨acl, egress, pool, overload⟩] }
  | pool {name : String} {first last netmask : Address} (ordered : first ≤ last) :
      NatStep n (.global (.natPool name first last netmask))
        { n with pools := n.pools.insert name ⟨name, first.text, last.text, netmask.text⟩ }

/-- What a command makes of the spanning tree. -/
inductive StpStep (s : StpConfig) : Command → StpConfig → Prop where
  | mode (mode : StpMode) : StpStep s (.global (.stpMode mode)) { s with mode := .known mode }
  | priority {vlan priority : Int} (multiple : Int.fmod priority 4096 = 0) :
      StpStep s (.global (.stpVlanPriority vlan priority))
        { s with vlanPriority := s.vlanPriority.insert vlan priority }

/-- What a command makes of settings.  But for a port that is put into a VLAN, it makes a step of one part. -/
inductive Settings.Step (s : Settings) : Command → Settings → Prop where
  | same (c : Command) : s.Step c s
  | ports {c : Command} {ports : Table String PortFeatures} (step : PortStep s.ports c ports) :
      s.Step c { s with ports }
  | switching {c : Command} {ports : Table String PortFeatures} {vlans : Table Int String}
      (ofPorts : PortStep s.ports c ports) (ofVlans : VlanStep s.vlans c vlans) : s.Step c { s with ports, vlans }
  | vlans {c : Command} {vlans : Table Int String} (step : VlanStep s.vlans c vlans) : s.Step c { s with vlans }
  | routes {c : Command} {routes : List Route} (step : RouteStep s.routes c routes) : s.Step c { s with routes }
  | lists {c : Command} {lists : Table String AccessList} (step : ListStep s.lists c lists) :
      s.Step c { s with lists }
  | ospf {c : Command} {ospf : Option OspfConfig} (step : OspfStep s.ports.keys s.ospf c ospf) :
      s.Step c { s with ospf }
  | rip {c : Command} {rip : Option RipConfig} (step : RipStep s.ports.keys s.rip c rip) : s.Step c { s with rip }
  | exclude {low high : Address} (ordered : low ≤ high) :
      s.Step (.global (.dhcpExcluded low high)) { s with excluded := s.excluded ++ [(low.text, high.text)] }
  | nat {c : Command} {nat : NatConfig} (step : NatStep s.nat c nat) : s.Step c { s with nat }
  | stp {c : Command} {stp : StpConfig} (step : StpStep s.stp c stp) : s.Step c { s with stp }

/-! ## The parts of a step -/

namespace Settings.Step

variable {s s' : Settings} {c : Command}

theorem ofPorts (step : s.Step c s') : s'.ports = s.ports ∨ PortStep s.ports c s'.ports := by
  cases step with
  | ports step => exact Or.inr step
  | switching step _ => exact Or.inr step
  | _ => exact Or.inl rfl

theorem ofVlans (step : s.Step c s') : s'.vlans = s.vlans ∨ VlanStep s.vlans c s'.vlans := by
  cases step with
  | vlans step => exact Or.inr step
  | switching _ step => exact Or.inr step
  | _ => exact Or.inl rfl

theorem ofRoutes (step : s.Step c s') : s'.routes = s.routes ∨ RouteStep s.routes c s'.routes := by
  cases step with
  | routes step => exact Or.inr step
  | _ => exact Or.inl rfl

theorem ofLists (step : s.Step c s') : s'.lists = s.lists ∨ ListStep s.lists c s'.lists := by
  cases step with
  | lists step => exact Or.inr step
  | _ => exact Or.inl rfl

theorem ofOspf (step : s.Step c s') : s'.ospf = s.ospf ∨ OspfStep s.ports.keys s.ospf c s'.ospf := by
  cases step with
  | ospf step => exact Or.inr step
  | _ => exact Or.inl rfl

theorem ofRip (step : s.Step c s') : s'.rip = s.rip ∨ RipStep s.ports.keys s.rip c s'.rip := by
  cases step with
  | rip step => exact Or.inr step
  | _ => exact Or.inl rfl

theorem ofExcluded (step : s.Step c s') : s'.excluded = s.excluded ∨
    ∃ low high : Address, low ≤ high ∧ s'.excluded = s.excluded ++ [(low.text, high.text)] := by
  cases step with
  | exclude ordered => exact Or.inr ⟨_, _, ordered, rfl⟩
  | _ => exact Or.inl rfl

theorem ofNat (step : s.Step c s') : s'.nat = s.nat ∨ NatStep s.nat c s'.nat := by
  cases step with
  | nat step => exact Or.inr step
  | _ => exact Or.inl rfl

theorem ofStp (step : s.Step c s') : s'.stp = s.stp ∨ StpStep s.stp c s'.stp := by
  cases step with
  | stp step => exact Or.inr step
  | _ => exact Or.inl rfl

end Settings.Step

/-! ## What becomes of interfaces -/

section Interfaces

variable {t t' : Table String PortFeatures} {s s' : Settings} {c : Command}

theorem keys_join (t : Table String PortFeatures) (channel key : String) (new : PortFeatures)
    (f : PortFeatures → PortFeatures) (k : String) :
    k ∈ ((t.insertIfNew channel new).modify key f).keys ↔ k ∈ t.keys ∨ k = channel := by
  rw [Table.keys_modify]
  unfold Table.insertIfNew
  split
  · rename_i known
    exact ⟨Or.inl, fun h => h.elim id fun hk => hk ▸ Table.contains_iff.1 known⟩
  · exact Table.mem_keys_insert

theorem PortStep.keeps (step : PortStep t c t') : ∀ k ∈ t.keys, k ∈ t'.keys := by
  intro k hk
  cases step with
  | new fresh => exact Table.mem_keys_insert.2 (Or.inl hk)
  | change hf change => rwa [Table.keys_modify]
  | join hf agree => exact (keys_join ..).2 (Or.inl hk)

/-- No interface goes. -/
theorem Settings.Step.keeps (step : s.Step c s') : ∀ k ∈ s.ports.keys, k ∈ s'.ports.keys := by
  rcases step.ofPorts with same | step
  · rw [same]
    exact fun _ hk => hk
  · exact step.keeps

/-- An interface after a step was there before with the same features or others, or it is new. -/
inductive PortStep.Origin (t : Table String PortFeatures) (c : Command) (k : String) (f : PortFeatures) : Prop where
  | kept (hf : t.get? k = some f)
  | changed {g : PortFeatures} (hg : t.get? k = some g) (change : g.Change c f)
  | fresh (given : c = .global (.interface k)) (same : f = {})
  | joined {group : Int} {mode : ChannelMode} {g : PortFeatures} (given : c = .interface (.channelGroup group mode))
      (hg : t.get? k = some g) (same : f = { g with group := some group, groupMode := some (.known mode) })
      (agree : ∀ j x, t.get? j = some x → j ≠ k → x.group = some group →
        ∃ m, x.groupMode = some (.known m) ∧ m.protocol = mode.protocol)
  | channel {group : Int} {mode : ChannelMode} {g : PortFeatures} (given : c = .interface (.channelGroup group mode))
      (hk : k = InterfaceName.ofGroup group) (new : k ∉ t.keys)
      (hg : ∃ j, t.get? j = some g) (same : f = { accessVlan := g.accessVlan })

theorem PortStep.origin {k : String} {f : PortFeatures} (step : PortStep t c t') (hf : t'.get? k = some f) :
    PortStep.Origin t c k f := by
  cases step with
  | new fresh =>
    rw [Table.get?_insert] at hf
    split at hf
    · rename_i hk
      cases hf
      exact .fresh (hk ▸ rfl) rfl
    · exact .kept hf
  | change hg change =>
    rw [Table.get?_modify] at hf
    split at hf
    · rename_i hk
      rw [hk, hg] at hf
      cases hf
      exact .changed (hk ▸ hg) change
    · exact .kept hf
  | @join group mode key g hg agree =>
    -- The port is in the table before its port channel is.
    have there : (t.insertIfNew (InterfaceName.ofGroup group) { accessVlan := g.accessVlan }).get? key = some g := by
      rw [Table.get?_insertIfNew]
      split
      · rename_i hk
        rw [← hk, hg]
        rfl
      · exact hg
    rw [Table.get?_modify] at hf
    split at hf
    · rename_i hk
      subst hk
      rw [there] at hf
      cases hf
      exact .joined rfl hg rfl agree
    · rw [Table.get?_insertIfNew] at hf
      split at hf
      · rename_i hk
        cases hx : t.get? (InterfaceName.ofGroup group) with
        | none =>
          rw [hx] at hf
          cases hf
          exact .channel rfl hk (hk ▸ Table.get?_eq_none.1 hx) ⟨key, hg⟩ rfl
        | some x =>
          rw [hx] at hf
          cases hf
          exact .kept (hk ▸ hx)
      · exact .kept hf

end Interfaces

end NetRack
