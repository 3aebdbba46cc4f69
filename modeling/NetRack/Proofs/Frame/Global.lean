import NetRack.Proofs.Frame.Device

/-!
# Global commands and the frame

A global command does to the frame of a device what it does to the device.  Static routes are the one
thing that it changes among what is partly derived: a static route is put in, found and taken out in
the same way whether connected routes and those of OSPF are there or not.
-/

namespace NetRack

open Outcome

variable {d : Device}

/-! ## Routes -/

theorem leadsHome_frame (target : RouteTarget) : leadsHome d.frame target = leadsHome d target := by
  cases target with
  | hop a => exact Device.isAddressed_frame a.text
  | exit name => rfl

theorem addStaticRoute_frame (h : d.Sound) (network mask : Address) (target : RouteTarget) {distance : Int}
    (far : 1 ≤ distance) : addStaticRoute d.frame network mask target distance =
      framed <$> addStaticRoute d network mask target distance := by
  unfold addStaticRoute
  cases hn : requireNetwork network mask with
  | error f => rfl
  | ok n =>
    have short : n.length ≤ 32 := ((requireNetwork_answers network mask).value hn).1
    have readable : IsRoute (staticRoute n target distance) := .static n target distance short far
    have inserted := insertRoute_filter (h.routes.filter fun r => !r.sameWay (staticRoute n target distance))
      readable (apart_without_way h.routes readable) (p := fun r => !r.isDerived) rfl
    rw [ok_bind, ok_bind, leadsHome_frame]
    refine framed_step fun home => framed_step fun _ => ?_
    refine framed_bind (k := fun routes => routes.filter fun r => !r.isDerived) ?_ fun _ => rfl
    rw [← liftM_map, ← inserted, List.filter_comm]
    rfl

theorem removeStaticRoute_frame (network mask : Address) (target : RouteTarget) :
    removeStaticRoute d.frame network mask target = framed <$> removeStaticRoute d network mask target := by
  unfold removeStaticRoute
  refine framed_step fun n => ?_
  have kept : (d.frame.routes.filter fun r => !r.sameWay (staticRoute n target 1)) =
      (d.routes.filter fun r => !r.sameWay (staticRoute n target 1)).filter fun r => !r.isDerived :=
    List.filter_comm _ _ d.routes
  -- A derived route never goes the way of a static one, so the frame has the route just if the device has.
  have found : decide ((d.frame.routes.filter fun r => !r.sameWay (staticRoute n target 1)).length =
      d.frame.routes.length) =
      decide ((d.routes.filter fun r => !r.sameWay (staticRoute n target 1)).length = d.routes.length) := by
    rw [decide_eq_decide, List.length_filter_eq_length_iff, List.length_filter_eq_length_iff]
    constructor
    · intro all r hr
      cases hd : r.isDerived with
      | false => exact all r (List.mem_filter.2 ⟨hr, by simp [hd]⟩)
      | true => simp [not_sameWay_static (Route.not_static hd)]
    · exact fun all r hr => all r (List.mem_filter.1 hr).1
  dsimp only
  rw [found, kept]
  exact framed_step fun _ => rfl

/-! ## Objects to configure -/

theorem configureInterface_frame (name : String) :
    configureInterface d.frame name = framed <$> configureInterface d name := by
  have table (i : Interface) : ({ d with interfaces := d.interfaces.insert name i } : Device).frame =
      { d.frame with interfaces := d.frame.interfaces.insert name i.frame } := by
    unfold Device.frame
    rw [Table.mapValues_insert]
    rfl
  unfold configureInterface
  rw [Device.contains_frame]
  split
  · exact framed_enterMode d .interfaceConfig _ fun _ => rfl
  · refine framed_step fun mode => ?_
    have entered := framed_enterMode { d with interfaces := d.interfaces.insert name (newInterface d name mode) }
      .interfaceConfig (fun c => { c with interface := some name }) (f := fun d => touching d [name]) fun _ => rfl
    rw [table] at entered
    exact entered

theorem configureOspf_frame (process : Int) :
    configureOspf d.frame process = framed <$> configureOspf d process := by
  have entered (config : OspfConfig) := framed_enterMode { d with ospf := some config } .routerConfig
    (fun c => { c with router := some (.known .ospf) }) (f := rerouting) fun _ => rfl
  have same : d.frame.ospf = d.ospf := rfl
  unfold configureOspf
  rw [same]
  refine framed_step fun _ => ?_
  cases d.ospf with
  | none => exact entered _
  | some c =>
    dsimp only
    split
    · exact entered c
    · rfl

theorem configureRip_frame : configureRip d.frame = framed <$> configureRip d := by
  unfold configureRip
  exact framed_step fun _ => framed_enterMode { d with rip := some (d.rip.getD {}) } .routerConfig _ fun _ => rfl

theorem configureLine_frame (range : LineRange) :
    configureLine d.frame range = framed <$> configureLine d range := by
  unfold configureLine
  exact framed_step fun name =>
    framed_enterMode { d with lines := d.lines.insertIfNew name { name } } .lineConfig _ fun _ => rfl

theorem configureVlan_frame (vlan : Int) : configureVlan d.frame vlan = framed <$> configureVlan d vlan := by
  have ensured : (d.frame.ensureVlan vlan).1 = (d.ensureVlan vlan).1.frame := by
    unfold Device.ensureVlan
    show (if d.vlans.contains vlan then _ else _ : Device × Bool).1 = _
    split <;> rfl
  unfold configureVlan
  rw [ensured]
  exact framed_step fun _ => framed_enterMode (d.ensureVlan vlan).1 .vlanConfig _ fun _ => rfl

theorem removeVlan_frame (vlan : Int) : removeVlan d.frame vlan = framed <$> removeVlan d vlan := by
  unfold removeVlan
  rw [Device.sortedInterfaces_frame]
  refine framed_step fun _ => framed_step fun _ => framed_step fun _ => framed_bind (liftM_map _ _) fun is => ?_
  simp only [List.filter_map, List.map_map, List.isEmpty_map]
  exact framed_step fun _ => rfl

/-! ## Access lists and services -/

theorem configureList_frame (kind : AclKind) (name : String) :
    configureList d.frame kind name = framed <$> configureList d kind name := by
  have entered := framed_enterMode { d with acls := d.acls.insertIfNew name { name, kind := .known kind } }
    .aclConfig (fun c => { c with acl := some name }) (f := ofDevice) fun _ => rfl
  have same : d.frame.acls = d.acls := rfl
  unfold configureList
  rw [same]
  cases d.acls.get? name with
  | none => exact entered
  | some l => exact framed_step fun _ => entered

theorem excludeAddresses_frame (low high : Address) :
    excludeAddresses d.frame low high = framed <$> excludeAddresses d low high := by
  unfold excludeAddresses
  refine framed_step fun _ => ?_
  show (if (low.text, high.text) ∈ d.dhcpExcluded then _ else _) = _
  dsimp only
  split <;> rfl

theorem addStaticNat_frame (localAddress globalAddress : Address) :
    addStaticNat d.frame localAddress globalAddress = framed <$> addStaticNat d localAddress globalAddress := by
  have same : d.frame.nat = d.nat := rfl
  unfold addStaticNat
  rw [same]
  dsimp only
  split
  · rfl
  · split <;> rfl

theorem addDynamicNat_frame (entry : NatDynamic) :
    addDynamicNat d.frame entry = framed <$> addDynamicNat d entry := by
  unfold addDynamicNat
  cases entry.pool with
  | none => rfl
  | some name => exact framed_step fun _ => rfl

/-! ## All commands -/

/-- A global command does to the frame of a device what it does to the device. -/
theorem globalCommand_frame (h : d.Sound) {c : GlobalCommand} (ha : c.Admissible d) :
    c.apply d.frame = framed <$> c.apply d := by
  cases c with
  | hostname name => exact framed_step fun _ => rfl
  | enableSecret secret => rfl
  | bannerMotd text => rfl
  | domainName domain => rfl
  | noDomainLookup => rfl
  | ipRouting => rfl
  | ipRoute network mask target distance => exact addStaticRoute_frame h network mask target ha
  | noIpRoute network mask target => exact removeStaticRoute_frame network mask target
  | interface name => exact configureInterface_frame name
  | routerOspf process => exact configureOspf_frame process
  | routerRip => exact configureRip_frame
  | noRouterOspf process => exact framed_step fun _ => rfl
  | noRouterRip => rfl
  | line range => exact configureLine_frame range
  | vlan id => exact configureVlan_frame id
  | noVlan id => exact removeVlan_frame id
  | accessListNamed kind name => exact configureList_frame kind name
  | accessListNumbered number rule => exact framed_step fun _ => rfl
  | noAccessList name => rfl
  | dhcpPool name =>
    exact framed_enterMode { d with dhcpPools := d.dhcpPools.insertIfNew name { name } } .dhcpConfig _ fun _ => rfl
  | dhcpExcluded low high => exact excludeAddresses_frame low high
  | natStatic localAddress globalAddress => exact addStaticNat_frame localAddress globalAddress
  | natDynamic acl egress pool overload => exact addDynamicNat_frame _
  | natPool name first last netmask => exact framed_step fun _ => rfl
  | stpMode mode => exact framed_step fun _ => rfl
  | stpVlanPriority id priority => exact framed_step fun _ => framed_step fun _ => rfl

end NetRack
