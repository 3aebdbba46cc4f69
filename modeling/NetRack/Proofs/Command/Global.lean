import NetRack.Proofs.Command.Reports

/-!
# What global commands do

Every global command is refused or reports in full, unless it makes an interface whose name cannot be
read.  Where it enters a submode, the object to be configured is there.
-/

namespace NetRack

open Outcome

variable {d : Device}

theorem isAddressed_yields (h : InterfaceTable d.interfaces) (ip : String) (operational : Bool) :
    Yields (fun _ => True) (d.isAddressed ip operational) := by
  unfold Device.isAddressed Device.ownsIp
  rw [Device.sortedInterfaces_of_table h]
  trivial

/-! ## Static routes -/

theorem requireNetwork_answers (base mask : Address) :
    Answers (fun n => n.length ≤ 32 ∧ n.base = base ∧ n.mask = mask) (requireNetwork base mask) := by
  unfold requireNetwork Network.exact?
  cases hm : mask.netmaskLength? with
  | none => exact Answers.refuse _
  | some length =>
    simp only [Option.bind_some]
    split
    · rename_i n hn
      split at hn
      · cases hn
        exact ⟨Address.netmaskLength?_le hm, rfl, Address.netmask_of_netmaskLength? hm⟩
      · cases hn
    · exact Answers.refuse _

theorem leadsHome_yields (h : InterfaceTable d.interfaces) (target : RouteTarget) :
    Yields (fun _ => True) (leadsHome d target) := by
  cases target with
  | hop a => exact isAddressed_yields h _ _
  | exit name => trivial

/-- A change of static routes. -/
theorem delivers_of_routes (h : d.Sound) (hs : d.Seated) {routes : List Route} (table : RouteTable routes)
    (same : ∀ r : Route, r.isFrom .static = false → (r ∈ routes ↔ r ∈ d.routes)) :
    Delivers d (ofDevice { d with routes }) where
  toReports := by
    have report : Reports d (ofDevice d) := Reports.apart h ⟨rfl, rfl, rfl, rfl, rfl⟩ rfl rfl rfl rfl
    exact report.of_routes table same d.defaultGateway
  seated := hs.of_keeps
    ⟨rfl, rfl, rfl, rfl, fun _ hk => hk, fun hi => hi, fun hi => hi, fun _ hk => hk, fun _ hk => hk,
      fun _ hk => hk, fun _ hk => hk⟩

/-- A route that is not static goes no static route's way. -/
theorem not_sameWay_static {r : Route} (hr : r.isFrom .static = false) (n : Network)
    (target : RouteTarget) (distance : Int) : r.sameWay (staticRoute n target distance) = false := by
  have hsource : r.source ≠ .known .static := by
    intro heq
    unfold Route.isFrom Stored.holds at hr
    rw [heq] at hr
    simp at hr
  unfold Route.sameWay staticRoute
  simp [hsource]

theorem mem_without_way {r : Route} (hr : r.isFrom .static = false) (routes : List Route) (n : Network)
    (target : RouteTarget) (distance : Int) :
    r ∈ routes.filter (fun s => !s.sameWay (staticRoute n target distance)) ↔ r ∈ routes := by
  rw [List.mem_filter, not_sameWay_static hr]
  simp

/-- Once the routes that go its way are gone, no route has the key of another. -/
theorem apart_without_way {routes : List Route} (h : RouteTable routes) {route : Route} (hr : IsRoute route) :
    ∀ s ∈ routes.filter (fun r => !r.sameWay route), s.key = route.key → s = route := by
  intro s hmem hkey
  obtain ⟨hroute, hway⟩ := List.mem_filter.1 hmem
  rw [(h.each s hroute).sameWay_of_key_eq hr hkey] at hway
  cases hway

theorem addStaticRoute_delivers (h : d.Sound) (hs : d.Seated) (network mask : Address)
    (target : RouteTarget) {distance : Int} (far : 1 ≤ distance) :
    Answers (Delivers d) (addStaticRoute d network mask target distance) := by
  unfold addStaticRoute
  refine (requireNetwork_answers network mask).bind fun n hn => ?_
  refine (leadsHome_yields h.interfaces target).lift.bind fun home _ => ?_
  refine (Answers.refuseIf home _).bind fun _ _ => ?_
  have readable : IsRoute (staticRoute n target distance) := .static n target distance hn.1 far
  have insert := insertRoute_yields (h.routes.filter fun r => !r.sameWay (staticRoute n target distance))
    readable (apart_without_way h.routes readable)
  refine insert.lift.bind fun routes hroutes => delivers_of_routes h hs hroutes.1 fun r hr => ?_
  rw [hroutes.2 r, mem_without_way hr]
  constructor
  · rintro (hmem | rfl)
    · exact hmem
    · cases hr
  · exact Or.inl

theorem removeStaticRoute_delivers (h : d.Sound) (hs : d.Seated) (network mask : Address)
    (target : RouteTarget) : Answers (Delivers d) (removeStaticRoute d network mask target) := by
  unfold removeStaticRoute
  refine (requireNetwork_answers network mask).bind fun n _ => ?_
  refine (Answers.refuseIf _ _).bind fun _ _ => ?_
  exact delivers_of_routes h hs (h.routes.filter _) fun r hr => mem_without_way hr _ _ _ _

/-! ## Interfaces -/

section NewInterface

variable {name : String} (possible : Argument.isPossibleInterface d name = .ok true)
  (new : name ∉ d.interfaces.keys)

include possible new

/-- A new interface is not physical, and has a physical parent if it is a subinterface. -/
theorem new_interface_kind : InterfaceName.kind name = .ok (InterfaceName.kindOf name) ∧
    InterfaceName.kindOf name ≠ .physical ∧
    (InterfaceName.kindOf name = .subinterface → InterfaceName.parentOf name ∈ d.interfaces.keys ∧
      InterfaceName.kindOf (InterfaceName.parentOf name) = .physical) := by
  unfold Argument.isPossibleInterface at possible
  rw [if_neg (by rwa [Table.contains_iff])] at possible
  cases hpc : d.isA .pc with
  | true =>
    rw [hpc] at possible
    cases possible
  | false =>
    rw [hpc] at possible
    cases hk : InterfaceName.kind name with
    | error f =>
      rw [hk] at possible
      cases possible
    | ok k =>
      obtain rfl := InterfaceName.kindOf_eq hk
      refine ⟨rfl, ?_⟩
      simp only [hk, ok_bind, Bool.false_eq_true, if_false] at possible
      cases hkind : InterfaceName.kindOf name with
      | loopback => exact ⟨by decide, fun hsub => by cases hsub⟩
      | portChannel => exact ⟨by decide, fun hsub => by cases hsub⟩
      | svi => exact ⟨by decide, fun hsub => by cases hsub⟩
      | physical =>
        rw [hkind] at possible
        cases possible
      | subinterface =>
        refine ⟨by decide, fun _ => ?_⟩
        simp only [hkind, InterfaceName.split_eq_of_kind hk, ok_bind] at possible
        split at possible
        · rename_i hcontains
          refine ⟨Table.contains_iff.1 hcontains, ?_⟩
          simp only [InterfaceName.kind_parentOf, ok_bind, pure_eq_ok, Except.ok.injEq] at possible
          simpa using possible
        · cases possible

theorem new_interface_named : name ≠ "" := by
  rintro rfl
  exact (new_interface_kind possible new).2.1 (by decide)

end NewInterface

theorem newPortMode_yields {name : String} {k : PortKind} (hkind : InterfaceName.kind name = .ok k) :
    Yields (fun _ => True) (newPortMode d name) := by
  unfold newPortMode
  rw [hkind]
  cases d.isA .switch <;> trivial

theorem configureInterface_delivers (h : d.Sound) (hs : d.Seated) (hc : d.mode.isConfig = true)
    {name : String} (possible : Argument.isPossibleInterface d name = .ok true)
    (readable : name ∈ d.interfaces.keys ∨ InterfaceName.isReadable name = true) :
    Answers (Delivers d) (configureInterface d name) := by
  unfold configureInterface
  by_cases hmem : name ∈ d.interfaces.keys
  · rw [if_pos (Table.contains_iff.2 hmem)]
    obtain ⟨i, hi⟩ := Table.mem_keys.1 hmem
    have enter := enterMode_delivers (o := ofDevice d) .interfaceConfig
      (fun c => { c with interface := some name })
      (Reports.apart h ⟨rfl, rfl, rfl, rfl, rfl⟩ rfl rfl rfl rfl) hs hc rfl rfl rfl rfl rfl
      ⟨name, i, rfl, Table.get?_eq_some.2 hi⟩
    exact enter.lift.bind fun d' hd' => hd'
  · rw [if_neg (by rwa [Table.contains_iff])]
    obtain ⟨hkind, hphys, hparent⟩ := new_interface_kind possible hmem
    refine (newPortMode_yields hkind).lift.bind fun m _ => ?_
    dsimp only
    generalize hi : newInterface d name m = i
    have hsound : i.Sound name := by
      rw [← hi]
      exact ⟨rfl, Or.inl ⟨rfl, rfl⟩, fun g hg => by cases hg⟩
    have table : InterfaceTable (d.interfaces.insert name i) :=
      h.interfaces.insert hsound (readable.resolve_left hmem) (new_interface_named possible hmem) hparent
    have report : Reports d (touching { d with interfaces := d.interfaces.insert name i } [name]) := by
      have untagged : i.FitsTag d.interfaces name := by
        rw [← hi]
        exact .of_plain rfl rfl
      refine ⟨h.with_interfaces table fun hpc => (h.tags hpc).put untagged fun k x hx => ?_, rfl, rfl,
        fun k hk => Table.mem_keys_insert.2 (Or.inl hk), ?_, ?_, fun _ _ => Iff.rfl, rfl, fun ht => by cases ht⟩
      · rw [Table.get?_insert] at hx
        split at hx
        · exact Or.inl ⟨‹_›, (Option.some.inj hx).symm⟩
        · exact Or.inr hx
      · intro k hk
        rw [List.mem_singleton.1 hk]
        exact Table.mem_keys_insert.2 (Or.inr rfl)
      · intro k hk
        show ((d.interfaces.insert name i).get? k).map _ = _
        rw [Table.get?_insert, if_neg fun heq => hk (List.mem_singleton.2 heq)]
    have enter := enterMode_delivers .interfaceConfig (fun c => { c with interface := some name })
      report hs hc rfl rfl rfl rfl rfl ⟨name, i, rfl, Table.get?_insert_self ..⟩
    exact enter.lift.bind fun d' hd' => hd'

/-- An interface that is not there is made, whether or not its name is readable. -/
theorem configureInterface_new (hs : d.Seated) (hc : d.mode.isConfig = true) {name : String}
    (possible : Argument.isPossibleInterface d name = .ok true) (new : name ∉ d.interfaces.keys) :
    ∃ o i, configureInterface d name = .ok o ∧ o.device.id = d.id ∧
      o.device.interfaces = d.interfaces.insert name i ∧ i.name = name ∧ o.touched = [name] := by
  obtain ⟨m, hm, -⟩ := (newPortMode_yields (d := d) (new_interface_kind possible new).1).exists_ok
  have stacked : ({ d with interfaces := d.interfaces.insert name (newInterface d name m) } : Device).Stacked :=
    hs.stacked
  have focused : ({ d with interfaces := d.interfaces.insert name (newInterface d name m) } : Device).Focused :=
    hs.focused
  have hok := Device.enterMode_eq stacked focused hc (m := .interfaceConfig) rfl
    fun c => { c with interface := some name }
  unfold configureInterface
  rw [if_neg (by rwa [Table.contains_iff]), hm]
  simp only [liftM_ok, ok_bind, hok]
  exact ⟨_, newInterface d name m, rfl, rfl, rfl, rfl, rfl⟩

/-! ## Routing processes -/

theorem requireRouter_answers : Answers (fun _ => d.isA .router = true) (requireRouter d) :=
  (Answers.refuseIf _ _).imp fun _ hr => by simpa using hr

theorem requireSwitch_answers : Answers (fun _ => True) (requireSwitch d) :=
  (Answers.refuseIf _ _).imp fun _ _ => trivial

theorem configureOspf_delivers (h : d.Sound) (hs : d.Seated) (hc : d.mode.isConfig = true)
    (process : Int) : Answers (Delivers d) (configureOspf d process) := by
  unfold configureOspf
  refine requireRouter_answers.bind fun _ router => ?_
  have entered (config : OspfConfig) (hstatements : ∀ n ∈ config.networks, n.Readable) :
      Answers (Delivers d) (do
        let d' ← (({ d with ospf := some config } : Device).enterMode .routerConfig fun c =>
          { c with router := some (.known .ospf) } : Except Fault Device)
        return rerouting d') := by
    have report : Reports d (rerouting { d with ospf := some config }) := by
      refine Reports.aside h ⟨rfl, rfl, rfl, rfl, rfl⟩ h.lists ?_ h.pools rfl (fun _ => router)
        fun hr => by cases hr
      intro c' hc'
      cases hc'
      exact hstatements
    have enter := enterMode_delivers .routerConfig (fun c => { c with router := some (.known .ospf) })
      report hs hc rfl rfl rfl rfl rfl (Or.inl ⟨rfl, rfl⟩)
    exact enter.lift.bind fun d' hd' => hd'
  cases hospf : d.ospf with
  | none => exact entered { processId := process } fun n hn => (List.not_mem_nil hn).elim
  | some c =>
    simp only
    split
    · exact entered c (h.statements c hospf)
    · exact Answers.refuse _

theorem configureRip_delivers (h : d.Sound) (hs : d.Seated) (hc : d.mode.isConfig = true) :
    Answers (Delivers d) (configureRip d) := by
  unfold configureRip
  refine requireRouter_answers.bind fun _ _ => ?_
  have report : Reports d (ofDevice { d with rip := some (d.rip.getD {}) }) :=
    Reports.apart h ⟨rfl, rfl, rfl, rfl, rfl⟩ rfl rfl rfl rfl
  have enter := enterMode_delivers .routerConfig (fun c => { c with router := some (.known .rip) })
    report hs hc rfl rfl rfl rfl rfl (Or.inr ⟨rfl, rfl⟩)
  exact enter.lift.bind fun d' hd' => hd'

/-! ## Lines, VLANs, access lists and pools -/

theorem exists_of_insertIfNew {κ ν : Type} [DecidableEq κ] (t : Table κ ν) (k : κ) (v : ν) :
    ∃ w, (t.insertIfNew k v).get? k = some w := by
  rw [Table.get?_insertIfNew]
  cases t.get? k with
  | none => exact ⟨v, by simp⟩
  | some w => exact ⟨w, by simp⟩

theorem configureLine_delivers (h : d.Sound) (hs : d.Seated) (hc : d.mode.isConfig = true)
    (range : LineRange) : Answers (Delivers d) (configureLine d range) := by
  unfold configureLine
  have named : Answers (fun _ => True) (lineName range) := by
    unfold lineName
    split
    · trivial
    · trivial
    · split
      · exact Answers.refuse _
      · trivial
  refine named.bind fun name _ => ?_
  obtain ⟨c, hget⟩ := exists_of_insertIfNew d.lines name ({ name } : LineConfig)
  have report : Reports d (ofDevice { d with lines := d.lines.insertIfNew name { name } }) :=
    Reports.apart h ⟨rfl, rfl, rfl, rfl, rfl⟩ rfl rfl rfl rfl
  have enter := enterMode_delivers .lineConfig (fun c => { c with line := some name })
    report hs hc rfl rfl rfl rfl rfl ⟨name, c, rfl, hget⟩
  exact enter.lift.bind fun d' hd' => hd'

/-- A VLAN that is made sure of is there, and nothing else has changed. -/
theorem ensureVlan_eq (d : Device) (vlan : Int) : ∃ vlans, (d.ensureVlan vlan).1 = { d with vlans } ∧
    (∀ k ∈ d.vlans.keys, k ∈ vlans.keys) ∧ vlan ∈ vlans.keys := by
  unfold Device.ensureVlan
  split
  · rename_i hcontains
    exact ⟨d.vlans, rfl, fun _ hk => hk, Table.contains_iff.1 hcontains⟩
  · exact ⟨d.vlans.insert vlan (defaultVlanName vlan), rfl, fun k hk => Table.mem_keys_insert.2 (Or.inl hk),
      Table.mem_keys_insert.2 (Or.inr rfl)⟩

theorem configureVlan_delivers (h : d.Sound) (hs : d.Seated) (hc : d.mode.isConfig = true) (vlan : Int) :
    Answers (Delivers d) (configureVlan d vlan) := by
  unfold configureVlan
  refine requireSwitch_answers.bind fun _ _ => ?_
  obtain ⟨vlans, heq, -, hmem⟩ := ensureVlan_eq d vlan
  simp only [heq]
  have report : Reports d (ofDevice { d with vlans }) :=
    Reports.apart h ⟨rfl, rfl, rfl, rfl, rfl⟩ rfl rfl rfl rfl
  have enter := enterMode_delivers .vlanConfig (fun c => { c with vlan := some vlan })
    report hs hc rfl rfl rfl rfl rfl ⟨vlan, rfl, Table.contains_iff.2 hmem⟩
  exact enter.lift.bind fun d' hd' => hd'

/-- A change in global configuration, where no object is configured. -/
theorem seated_global {d' : Device} (hs : d.Seated) (hg : d.mode = .globalConfig)
    (mode : d'.mode = d.mode) (stack : d'.modeStack = d.modeStack) (context : d'.context = d.context)
    (type : d'.type = d.type) : d'.Seated where
  stacked := by
    unfold Device.Stacked
    rw [stack, mode]
    exact hs.stacked
  focused := by
    unfold Device.Focused
    rw [context, mode]
    exact hs.focused
  object := Device.HasObject.of_no_submode (by rw [mode, hg]; rfl)
  host := by
    unfold Device.isA
    rw [type, mode]
    exact hs.host

theorem removeVlan_delivers (h : d.Sound) (hs : d.Seated) (hg : d.mode = .globalConfig) (vlan : Int) :
    Answers (Delivers d) (removeVlan d vlan) := by
  unfold removeVlan
  refine requireSwitch_answers.bind fun _ _ => (Answers.refuseIf _ _).bind fun _ _ => ?_
  refine (Answers.refuseIf _ _).bind fun _ _ => ?_
  rw [Device.sortedInterfaces_of_table h.interfaces]
  refine (Answers.refuseIf _ _).bind fun _ _ => ?_
  exact ⟨Reports.apart h ⟨rfl, rfl, rfl, rfl, rfl⟩ rfl rfl rfl rfl, seated_global hs hg rfl rfl rfl rfl⟩

theorem rule_readable (e : RuleEntry) : e.rule.Readable :=
  ⟨⟨_, rfl⟩, ⟨_, rfl⟩, ⟨_, rfl⟩, ⟨_, rfl⟩⟩

theorem append_answers (l : AccessList) (e : RuleEntry) (hl : ∀ r ∈ l.rules, r.Readable) :
    Answers (fun l' => ∀ r ∈ l'.rules, r.Readable) (l.append e) := by
  unfold AccessList.append
  refine (Answers.refuseIf _ _).bind fun _ _ => (Answers.refuseIf _ _).bind fun _ _ => ?_
  simp only [Meets.pure_iff]
  split
  · exact hl
  · intro r hr
    rcases List.mem_append.1 hr with hr | hr
    · exact hl r hr
    · rw [List.mem_singleton.1 hr]
      exact rule_readable e

theorem ReadableLists.insert {acls : Table String AccessList} (h : ReadableLists acls) (name : String)
    {l : AccessList} (hl : ∀ r ∈ l.rules, r.Readable) : ReadableLists (acls.insert name l) := by
  intro k l' hl'
  rw [Table.get?_insert] at hl'
  split at hl'
  · cases hl'
    exact hl
  · exact h k l' hl'

theorem configureList_delivers (h : d.Sound) (hs : d.Seated) (hc : d.mode.isConfig = true)
    (kind : AclKind) (name : String) : Answers (Delivers d) (configureList d kind name) := by
  unfold configureList
  obtain ⟨l, hget⟩ := exists_of_insertIfNew d.acls name ({ name, kind := .known kind } : AccessList)
  have lists : ReadableLists (d.acls.insertIfNew name { name, kind := .known kind }) := by
    intro k l' hl'
    rw [Table.get?_insertIfNew] at hl'
    split at hl'
    · cases hl'
      cases hget : d.acls.get? name with
      | none => exact fun r hr => (List.not_mem_nil hr).elim
      | some l => exact h.lists name l hget
    · exact h.lists k l' hl'
  have report : Reports d (ofDevice
      { d with acls := d.acls.insertIfNew name { name, kind := .known kind } }) :=
    Reports.aside h ⟨rfl, rfl, rfl, rfl, rfl⟩ lists h.statements h.pools rfl h.process fun _ => rfl
  have enter := enterMode_delivers .aclConfig (fun c => { c with acl := some name })
    report hs hc rfl rfl rfl rfl rfl ⟨name, l, rfl, hget⟩
  cases d.acls.get? name with
  | none => exact enter.lift.bind fun d' hd' => hd'
  | some l => exact (Answers.refuseIf _ _).bind fun _ _ => enter.lift.bind fun d' hd' => hd'

theorem addNumberedRule_delivers (h : d.Sound) (hs : d.Seated) (number : Int) (e : RuleEntry) :
    Answers (Delivers d) (addNumberedRule d number e) := by
  unfold addNumberedRule
  dsimp only
  generalize hl : (d.acls.get? (Text.intText number)).getD
    { name := Text.intText number, kind := .known (if number < 100 then .standard else .extended) } = l
  have readable : ∀ r ∈ l.rules, r.Readable := by
    rw [← hl]
    cases hget : d.acls.get? (Text.intText number) with
    | none => exact fun r hr => (List.not_mem_nil hr).elim
    | some l' => exact h.lists _ l' hget
  refine (append_answers l e readable).bind fun l' hl' => ⟨?_, ?_⟩
  · exact Reports.aside h ⟨rfl, rfl, rfl, rfl, rfl⟩ (h.lists.insert _ hl') h.statements h.pools rfl
      h.process fun _ => rfl
  · refine hs.of_keeps ⟨rfl, rfl, rfl, rfl, fun _ hk => hk, fun hi => hi, fun hi => hi, fun _ hk => hk,
      fun _ hk => hk, fun k hk => Table.mem_keys_insert.2 (Or.inl hk), fun _ hk => hk⟩

theorem configurePool_delivers (h : d.Sound) (hs : d.Seated) (hc : d.mode.isConfig = true) (name : String) :
    Answers (Delivers d) (GlobalCommand.apply d (.dhcpPool name)) := by
  unfold GlobalCommand.apply
  obtain ⟨p, hget⟩ := exists_of_insertIfNew d.dhcpPools name ({ name } : DhcpPool)
  have pools : ReadablePools (d.dhcpPools.insertIfNew name { name }) := by
    intro k p' hp'
    rw [Table.get?_insertIfNew] at hp'
    split at hp'
    · cases hp'
      cases hget : d.dhcpPools.get? name with
      | none => exact Or.inl rfl
      | some p => exact h.pools name p hget
    · exact h.pools k p' hp'
  have report : Reports d (ofDevice { d with dhcpPools := d.dhcpPools.insertIfNew name { name } }) :=
    Reports.aside h ⟨rfl, rfl, rfl, rfl, rfl⟩ h.lists h.statements pools rfl h.process fun _ => rfl
  have enter := enterMode_delivers .dhcpConfig (fun c => { c with dhcpPool := some name })
    report hs hc rfl rfl rfl rfl rfl ⟨name, p, rfl, hget⟩
  exact enter.lift.bind fun d' hd' => hd'

/-! ## Services -/

theorem excludeAddresses_delivers (h : d.Sound) (hs : d.Seated) (low high : Address) :
    Answers (Delivers d) (excludeAddresses d low high) := by
  unfold excludeAddresses
  refine (Answers.refuseIf _ _).bind fun _ _ => ?_
  dsimp only
  split
  · exact delivers_of_essence h hs rfl rfl
  · exact delivers_of_essence h hs rfl rfl

theorem addStaticNat_delivers (h : d.Sound) (hs : d.Seated) (localAddress globalAddress : Address) :
    Answers (Delivers d) (addStaticNat d localAddress globalAddress) := by
  unfold addStaticNat
  dsimp only
  split
  · exact Answers.refuse _
  · split
    · exact delivers_of_essence h hs rfl rfl
    · exact delivers_of_essence h hs rfl rfl

theorem addDynamicNat_delivers (h : d.Sound) (hs : d.Seated) (entry : NatDynamic) :
    Answers (Delivers d) (addDynamicNat d entry) := by
  unfold addDynamicNat
  have done (nat : NatConfig) : Delivers d (ofDevice { d with nat }) :=
    delivers_of_essence h hs rfl rfl
  cases entry.pool with
  | none => exact done _
  | some name => exact (Answers.refuseIf _ _).bind fun _ _ => done _

theorem addNatPool_delivers (h : d.Sound) (hs : d.Seated) (name : String) (first last netmask : Address) :
    Answers (Delivers d) (addNatPool d name first last netmask) := by
  unfold addNatPool
  refine (Answers.refuseIf _ _).bind fun _ _ => ?_
  exact delivers_of_essence h hs rfl rfl

theorem setPriority_delivers (h : d.Sound) (hs : d.Seated) (vlan priority : Int) :
    Answers (Delivers d) (setPriority d vlan priority) := by
  unfold setPriority
  refine requireSwitch_answers.bind fun _ _ => (Answers.refuseIf _ _).bind fun _ _ => ?_
  exact delivers_of_essence h hs rfl rfl

/-! ## All commands -/

/-- What a console makes sure of before it gives a global command to a device. -/
def GlobalCommand.Admissible (d : Device) : GlobalCommand → Prop
  | .ipRoute _ _ _ distance => 1 ≤ distance
  | .interface name => Argument.isPossibleInterface d name = .ok true
  | .noRouterOspf _ => d.mode = .globalConfig
  | .noRouterRip => d.mode = .globalConfig
  | .noVlan _ => d.mode = .globalConfig
  | .noAccessList _ => d.mode = .globalConfig
  | _ => True

theorem ReadableLists.erase {acls : Table String AccessList} (h : ReadableLists acls) (name : String) :
    ReadableLists (acls.erase name) := by
  intro k l hl
  rw [Table.get?_erase] at hl
  split at hl
  · cases hl
  · exact h k l hl

/-- A global command is refused or reports in full, if the interface that it may make is readable. -/
theorem globalCommand_delivers (h : d.Sound) (hs : d.Seated) (hc : d.mode.isConfig = true)
    {c : GlobalCommand} (ha : c.Admissible d)
    (readable : ∀ name, c = .interface name →
      name ∈ d.interfaces.keys ∨ InterfaceName.isReadable name = true) :
    Answers (Delivers d) (c.apply d) := by
  unfold GlobalCommand.apply
  cases c with
  | hostname name =>
    refine (Answers.refuseIf _ _).bind fun _ _ => ?_
    exact delivers_of_essence h hs rfl rfl
  | enableSecret secret =>
    exact delivers_of_essence h hs rfl rfl
  | bannerMotd text =>
    exact delivers_of_essence h hs rfl rfl
  | domainName domain =>
    exact delivers_of_essence h hs rfl rfl
  | noDomainLookup =>
    exact delivers_of_essence h hs rfl rfl
  | ipRouting => exact delivers_of_essence h hs rfl rfl
  | ipRoute network mask target distance => exact addStaticRoute_delivers h hs network mask target ha
  | noIpRoute network mask target => exact removeStaticRoute_delivers h hs network mask target
  | interface name => exact configureInterface_delivers h hs hc ha (readable name rfl)
  | routerOspf process => exact configureOspf_delivers h hs hc process
  | routerRip => exact configureRip_delivers h hs hc
  | noRouterOspf process =>
    refine (Answers.refuseIf _ _).bind fun _ _ => ⟨?_, seated_global hs ha rfl rfl rfl rfl⟩
    exact Reports.aside h ⟨rfl, rfl, rfl, rfl, rfl⟩ h.lists (fun c hc => by cases hc) h.pools rfl
      (fun hsome => by cases hsome) fun hr => by cases hr
  | noRouterRip =>
    exact ⟨Reports.apart h ⟨rfl, rfl, rfl, rfl, rfl⟩ rfl rfl rfl rfl, seated_global hs ha rfl rfl rfl rfl⟩
  | line range => exact configureLine_delivers h hs hc range
  | vlan id => exact configureVlan_delivers h hs hc id
  | noVlan id => exact removeVlan_delivers h hs ha id
  | accessListNamed kind name => exact configureList_delivers h hs hc kind name
  | accessListNumbered number rule => exact addNumberedRule_delivers h hs number rule
  | noAccessList name =>
    refine ⟨?_, seated_global hs ha rfl rfl rfl rfl⟩
    exact Reports.aside h ⟨rfl, rfl, rfl, rfl, rfl⟩ (h.lists.erase name) h.statements h.pools rfl
      h.process fun _ => rfl
  | dhcpPool name => exact configurePool_delivers h hs hc name
  | dhcpExcluded low high => exact excludeAddresses_delivers h hs low high
  | natStatic localAddress globalAddress => exact addStaticNat_delivers h hs localAddress globalAddress
  | natDynamic acl egress pool overload => exact addDynamicNat_delivers h hs ⟨acl, egress, pool, overload⟩
  | natPool name first last netmask => exact addNatPool_delivers h hs name first last netmask
  | stpMode mode =>
    refine requireSwitch_answers.bind fun _ _ => ?_
    exact delivers_of_essence h hs rfl rfl
  | stpVlanPriority id priority => exact setPriority_delivers h hs id priority

end NetRack
