import NetRack.Proofs.BriefKeys
import NetRack.Proofs.Ports.Step

/-!
# What commands do to ports

Every command is refused, leaves the ports of a device as they are, or makes the step from them that is named
after it.
-/

namespace NetRack

open Outcome

/-! ## Commands that leave the ports alone -/

/-- A command is refused or leaves the ports of a device as they are. -/
abbrev LeavesPorts (d : Device) (x : Except Failure Outcome) : Prop :=
  Returns (fun o => o.device.ports = d.ports) x

section Leaves

variable {d : Device}

/-- What the console has no part in, leaving a mode keeps. -/
theorem exitMode_keeps {α : Type} {π : Device → α}
    (console : ∀ (x : Device) mode modeStack context, π { x with mode, modeStack, context } = π x) :
    Returns (fun p => π p.1 = π d) d.exitMode := by
  unfold Device.exitMode
  exact Meets.ite (fun _ => Returns.after fun _ => console ..) fun _ => console ..

/-- What the console has no part in, entering a mode keeps. -/
theorem enterMode_keeps {α : Type} {π : Device → α}
    (console : ∀ (x : Device) mode modeStack context, π { x with mode, modeStack, context } = π x) (mode : Mode)
    (select : EditContext → EditContext) : Returns (fun x => π x = π d) (d.enterMode mode select) := by
  have deeper {x : Device} (hx : π x = π d) : Returns (fun y => π y = π d)
      (x.modeStack.push x.mode >>= fun modeStack =>
        pure { x with mode, modeStack, context := select x.context }) :=
    Returns.after fun _ => (console ..).trans hx
  unfold Device.enterMode
  cases d.mode.isSubmode with
  | true => exact (Meets.map (exitMode_keeps console)).bind fun _ => deeper
  | false => exact deeper rfl

theorem exitMode_ports : Returns (fun p => p.1.ports = d.ports) d.exitMode := exitMode_keeps fun _ _ _ _ => rfl

theorem enterMode_ports (mode : Mode) (select : EditContext → EditContext) :
    Returns (fun x => x.ports = d.ports) (d.enterMode mode select) :=
  enterMode_keeps (fun _ _ _ _ => rfl) mode select

/-- Entering a mode comes last. -/
theorem leaves_enterMode {x : Device} (same : x.ports = d.ports) (mode : Mode) (select : EditContext → EditContext)
    {f : Device → Outcome} (hf : ∀ x, (f x).device = x) :
    LeavesPorts d (liftM (x.enterMode mode select) >>= fun y => pure (f y)) := by
  refine (Meets.lift (enterMode_ports mode select)).bind fun y hy => ?_
  show (f y).device.ports = _
  rw [hf, hy, same]

theorem execCommand_ports (t : Topology) (c : ExecCommand) : LeavesPorts d (c.apply t d) := by
  cases c with
  | enable => rfl
  | disable => rfl
  | exit => exact Meets.ite (fun _ => rfl) fun _ => (Meets.lift exitMode_ports).bind fun _ hp => hp
  | endConfig => rfl
  | configureTerminal => exact leaves_enterMode rfl _ _ fun _ => rfl
  | copyRunStart => exact Returns.after fun _ => rfl
  | ping target source =>
    exact Returns.after fun _ => Returns.after fun _ => Returns.after fun _ => rfl
  | traceroute target => exact Returns.after fun _ => Returns.after fun _ => rfl
  | display item => exact Returns.after fun _ => rfl

theorem routerCommand_ports (c : RouterCommand) : LeavesPorts d (c.apply d) := by
  cases c with
  | ospfNetwork network wildcard area =>
    refine (Meets.anything _).bind fun c _ => ?_
    dsimp only
    split <;> trivial
  | ripNetwork network => exact Returns.after fun _ => rfl
  | noNetwork network tail =>
    refine (Meets.anything _).bind fun c _ => ?_
    cases c with
    | some c =>
      cases tail with
      | none => trivial
      | some p => exact Returns.after fun _ => rfl
    | none =>
      refine (Meets.anything _).bind fun c _ => ?_
      cases c <;> trivial
  | routerId id => exact Returns.after fun _ => rfl
  | ripVersion version => exact Returns.after fun _ => rfl
  | noAutoSummary => exact Returns.after fun _ => rfl
  | passiveInterface name =>
    refine Returns.after fun _ => Meets.ite (fun _ => ?_) fun _ => ?_
    · cases d.ospf <;> trivial
    · cases d.rip <;> trivial

theorem lineCommand_ports (c : LineCommand) : LeavesPorts d (c.apply d) := by
  refine (Meets.anything _).bind fun e _ => ?_
  cases c with
  | login method => exact Meets.ite (fun _ => rfl) fun _ => rfl
  | transportInput transport => exact Returns.after fun _ => rfl
  | password secret => rfl
  | noLogin => rfl
  | execTimeout minutes seconds => rfl
  | loggingSynchronous => rfl

/-- A VLAN that is named is there already. -/
theorem nameVlan_ports (name : String) : LeavesPorts d (nameVlan d name) := by
  unfold nameVlan
  cases d.context.vlan with
  | none => trivial
  | some vlan =>
    refine Meets.ite (fun _ => trivial) fun known => Returns.after fun _ => ?_
    have there : vlan ∈ d.vlans.keys := Table.contains_iff.1 (by simpa using known)
    show (ofDevice _).device.ports = _
    unfold ofDevice
    rw [Device.ports_with_vlans, Table.keys_insert, if_pos there]
    rfl

theorem addRule_ports (e : RuleEntry) : LeavesPorts d (addRule d e) := by
  unfold addRule
  split
  · trivial
  · exact Returns.after fun _ => rfl

theorem poolCommand_ports (c : PoolCommand) : LeavesPorts d (c.apply d) :=
  Returns.after fun _ => Returns.after fun _ => rfl

/-- Whether a global command may change ports. -/
def GlobalCommand.changesPorts : GlobalCommand → Bool
  | interface _ => true
  | vlan _ => true
  | noVlan _ => true
  | _ => false

theorem globalCommand_ports {c : GlobalCommand} (hc : c.changesPorts = false) : LeavesPorts d (c.apply d) := by
  cases c with
  | hostname name => exact Returns.after fun _ => rfl
  | enableSecret secret => rfl
  | bannerMotd text => rfl
  | domainName domain => rfl
  | noDomainLookup => rfl
  | ipRouting => rfl
  | ipRoute network mask target distance =>
    exact Returns.after fun _ => Returns.after fun _ => Returns.after fun _ =>
      Returns.after fun _ => rfl
  | noIpRoute network mask target =>
    exact Returns.after fun _ => Returns.after fun _ => rfl
  | interface name => cases hc
  | routerOspf process =>
    have entered (config : OspfConfig) := leaves_enterMode (x := { d with ospf := some config }) rfl
      .routerConfig (fun c => { c with router := some (.known .ospf) }) (f := rerouting) fun _ => rfl
    refine Returns.after fun _ => ?_
    cases d.ospf with
    | none => exact entered _
    | some c => exact Meets.ite (fun _ => entered c) fun _ => trivial
  | routerRip =>
    refine Returns.after fun _ => ?_
    exact leaves_enterMode (x := { d with rip := some (d.rip.getD {}) }) rfl _ _ fun _ => rfl
  | noRouterOspf process => exact Returns.after fun _ => rfl
  | noRouterRip => rfl
  | line range =>
    refine (Meets.anything _).bind fun name _ => ?_
    exact leaves_enterMode (x := { d with lines := d.lines.insertIfNew name { name } }) rfl _ _ fun _ => rfl
  | vlan id => cases hc
  | noVlan id => cases hc
  | accessListNamed kind name =>
    have entered := leaves_enterMode (x := { d with acls := d.acls.insertIfNew name { name, kind := .known kind } })
      rfl .aclConfig (fun c => { c with acl := some name }) (f := ofDevice) fun _ => rfl
    show LeavesPorts d (configureList d kind name)
    unfold configureList
    cases d.acls.get? name with
    | none => exact entered
    | some l => exact Returns.after fun _ => entered
  | accessListNumbered number rule => exact Returns.after fun _ => rfl
  | noAccessList name => rfl
  | dhcpPool name =>
    exact leaves_enterMode (x := { d with dhcpPools := d.dhcpPools.insertIfNew name { name } }) rfl _ _ fun _ => rfl
  | dhcpExcluded low high =>
    exact Returns.after fun _ => Meets.ite (fun _ => rfl) fun _ => rfl
  | natStatic localAddress globalAddress =>
    show LeavesPorts d (addStaticNat d localAddress globalAddress)
    unfold addStaticNat
    dsimp only
    split
    · trivial
    · exact Meets.ite (fun _ => rfl) fun _ => rfl
  | natDynamic acl egress pool overload =>
    show LeavesPorts d (addDynamicNat d ⟨acl, egress, pool, overload⟩)
    unfold addDynamicNat
    cases pool with
    | none => rfl
    | some name => exact Returns.after fun _ => rfl
  | natPool name first last netmask => exact Returns.after fun _ => rfl
  | stpMode mode => exact Returns.after fun _ => rfl
  | stpVlanPriority id priority =>
    exact Returns.after fun _ => Returns.after fun _ => rfl

end Leaves

/-! ## Global commands -/

/-- A command is refused or makes a step from the ports of a device. -/
abbrev StepsPorts (d : Device) (focus : Option String) (c : Command) (x : Except Failure Outcome) : Prop :=
  Returns (fun o => d.ports.Step focus c o.device.ports) x

section Steps

variable {d : Device} {key : String} {i j : Interface} {focus : Option String}

theorem refuseIf_meets (c : Bool) (r : Refusal) : Returns (fun _ => c = false) (refuseIf c r) :=
  (Answers.refuseIf c r).mono (fun _ _ => trivial) fun _ h => h

/-- Only ports of switches are in access mode from the start, and none is a trunk. -/
theorem newPortMode_meets (d : Device) (name : String) :
    Returns (fun m => (m = .access → d.isA .switch = true) ∧ m ≠ .trunk) (newPortMode d name) := by
  unfold newPortMode
  refine Meets.ite (fun switch => (Meets.anything _).bind fun kind _ => ⟨fun _ => switch, ?_⟩) fun _ => ⟨nofun, nofun⟩
  split
  · nofun
  · nofun

theorem configureInterface_step {raw name : String} (written : InterfaceName.normalize? raw = some name)
    (hpc : d.isA .pc = false) (possible : Argument.isPossibleInterface d name = .ok true) :
    StepsPorts d focus (.global (.interface name)) (configureInterface d name) := by
  have entered {d' : Device} {p : Ports} (same : d'.ports = p) (select : EditContext → EditContext)
      (hp : d.ports.Step focus (.global (.interface name)) p) {f : Device → Outcome} (hf : ∀ x, (f x).device = x) :
      StepsPorts d focus (.global (.interface name))
        (liftM (d'.enterMode .interfaceConfig select) >>= fun x => pure (f x) : Except Failure Outcome) := by
    refine (leaves_enterMode rfl .interfaceConfig select hf).imp fun o ho => ?_
    rw [ho, same]
    exact hp
  unfold configureInterface
  by_cases known : name ∈ d.interfaces.keys
  · rw [if_pos (Table.contains_iff.2 known)]
    exact entered rfl _ (.same _) fun _ => rfl
  · rw [if_neg (by rwa [Table.contains_iff])]
    obtain ⟨-, virtual, -⟩ := new_interface_kind possible known
    refine (Meets.lift (newPortMode_meets d name)).bind fun mode ⟨hmode, noTrunk⟩ => ?_
    refine entered (p := { d.ports with
      interfaces := d.ports.interfaces.insert name (newInterface d name mode) }) ?_ _ ?_ fun _ => rfl
    · rw [Device.ports_with_interfaces, Table.mapValues_insert]
      rfl
    · refine .interface written hpc (by rwa [Device.keys_ports]) virtual rfl rfl ?_ ?_
      · intro access
        exact ⟨hmode (Stored.known.inj (of_decide_eq_true access)), rfl⟩
      · exact decide_eq_false fun trunk => noTrunk (Stored.known.inj trunk)

theorem configureVlan_step (vlan : Int) :
    StepsPorts d focus (.global (.vlan vlan)) (configureVlan d vlan) := by
  refine Returns.after fun _ => ?_
  refine (leaves_enterMode rfl _ _ fun _ => rfl).imp fun o ho => ?_
  rw [ho, ports_ensureVlan]
  exact .vlan vlan

theorem removeVlan_step (h : d.Sound) (vlan : Int) :
    StepsPorts d focus (.global (.noVlan vlan)) (removeVlan d vlan) := by
  unfold removeVlan
  simp only [Device.sortedInterfaces_of_table h.interfaces, liftM_ok, ok_bind]
  refine Returns.after fun _ => (refuseIf_meets _ _).bind fun _ other => ?_
  refine Returns.after fun _ => (refuseIf_meets _ _).bind fun _ none => ?_
  have ports : (ofDevice { d with vlans := d.vlans.erase vlan }).device.ports =
      { d.ports with vlans := d.ports.vlans.filter (· ≠ vlan) } := by
    unfold ofDevice
    rw [Device.ports_with_vlans, Table.keys_erase]
    rfl
  show d.ports.Step focus _ (ofDevice { d with vlans := d.vlans.erase vlan }).device.ports
  rw [ports]
  refine .noVlan (by simpa using other) fun k x hx access hv => ?_
  obtain ⟨i, hi, rfl⟩ := get?_of_get?_ports hx
  -- The port would be among those that use the VLAN.
  have listed : i ∈ d.ordered.map Prod.snd := by
    rw [Device.mem_ordered_values h.interfaces, h.interfaces.name_eq hi]
    exact hi
  have used : i ∈ (d.ordered.map Prod.snd).filter fun i => i.mode.holds .access && i.accessVlan = vlan :=
    List.mem_filter.2 ⟨listed, by simpa using ⟨access, hv⟩⟩
  simp only [Bool.not_eq_false', List.isEmpty_iff] at none
  rw [none] at used
  cases used

/-! ## Interface and host commands -/

/-- What is put in the place of an interface agrees with it in all that matters here. -/
theorem step_of_same {c : Command} (hi : d.interfaces.get? key = some i) (address : i.SameAddress j)
    (switching : i.SameSwitching j) : d.ports.Step focus c (d.modifyInterface key fun _ => j).ports := by
  rw [ports_put]
  exact .set (get?_ports_of_get? hi) ⟨address.ip, address.mask⟩ ⟨switching.mode, switching.accessVlan⟩

theorem currentInterface_meets (d : Device) :
    Returns (fun e => d.context.interface = some e.1 ∧ d.interfaces.get? e.1 = some e.2) (currentInterface d) := by
  unfold currentInterface
  cases hk : d.context.interface with
  | none => trivial
  | some key =>
    cases hi : d.interfaces.get? key with
    | none => simp [hi]
    | some i => simp [hi]

theorem currentSwitchport_meets (h : d.Sound) :
    Returns (fun e => (d.context.interface = some e.1 ∧ d.interfaces.get? e.1 = some e.2) ∧ d.isA .switch = true ∧
        (InterfaceName.kindOf e.1 = .physical ∨ InterfaceName.kindOf e.1 = .portChannel))
      (currentSwitchport d) := by
  unfold currentSwitchport
  refine (refuseIf_meets _ _).bind fun _ switch => (currentInterface_meets d).bind ?_
  rintro ⟨key, i⟩ ⟨hk, hi⟩
  simp only [h.interfaces.kind_eq hi, liftM_ok, ok_bind]
  refine (refuseIf_meets _ _).bind fun _ kind => ⟨⟨hk, hi⟩, by simpa using switch, ?_⟩
  by_cases physical : InterfaceName.kindOf key = .physical
  · exact Or.inl physical
  · exact Or.inr (by simpa [physical] using kind)

theorem checkAddressable_meets (h : d.Sound) (hi : d.interfaces.get? key = some i) :
    Returns (fun _ => d.isA .switch = true →
        InterfaceName.kindOf key ≠ .physical ∧ InterfaceName.kindOf key ≠ .portChannel)
      (checkAddressable d i) := by
  unfold checkAddressable
  simp only [h.interfaces.kind_eq hi, liftM_ok, ok_bind]
  refine (refuseIf_meets _ _).bind fun _ routed => (Meets.anything _).imp fun _ _ switch => ?_
  simpa [switch] using routed

theorem setAddress_step (h : d.Sound) (ip : Address) {mask : Address} (hmask : mask.isNetmask = true)
    (c : Command) :
    StepsPorts d focus c (setAddress d ip mask) := by
  obtain ⟨n, hn, rfl⟩ := Address.isNetmask_iff.1 hmask
  unfold setAddress
  refine (currentInterface_meets d).bind ?_
  rintro ⟨key, i⟩ ⟨-, hi⟩
  refine (checkAddressable_meets h hi).bind fun _ routed => ?_
  simp only [networkAround_eq ip hn, liftM_ok, ok_bind]
  refine (refuseIf_meets _ _).bind fun _ free => ?_
  have search := Topology.findFirst_ok (l := d.ordered.map Prod.snd) fun other hother =>
    overlapsWith_eq h (.around ip n) i.name ((Device.mem_ordered_values h.interfaces).1 hother)
  simp only [Device.sortedInterfaces_of_table h.interfaces, liftM_ok, ok_bind, search]
  split
  · trivial
  · rename_i found
    show d.ports.Step focus c (d.modifyInterface key fun _ => { i with
      ip := some ip.text, mask := some (Network.around ip n).mask.text }).ports
    rw [ports_put]
    refine .address (get?_ports_of_get? hi) hn rfl rfl free (fun _ k x m hx hne hm => ?_) routed ⟨rfl, rfl⟩
    -- The search has come upon no other interface with such a network.
    obtain ⟨other, hother, rfl⟩ := get?_of_get?_ports hx
    have name := h.interfaces.name_eq hother
    have listed : other ∈ d.ordered.map Prod.snd := by
      rw [Device.mem_ordered_values h.interfaces, name]
      exact hother
    have passed := List.find?_eq_none.1 found other listed
    have net : other.net = some m := hm
    rw [name, h.interfaces.name_eq hi, net] at passed
    simpa [hne] using passed

theorem clearAddress_step (d : Device) (address : Option (Address × Address)) (c : Command) :
    StepsPorts d focus c (clearAddress d address) := by
  unfold clearAddress
  refine (currentInterface_meets d).bind ?_
  rintro ⟨key, i⟩ ⟨-, hi⟩
  refine Returns.after fun _ => ?_
  show d.ports.Step focus c (d.modifyInterface key fun _ => { i with ip := none, mask := none }).ports
  rw [ports_put]
  exact .noAddress (get?_ports_of_get? hi) rfl rfl ⟨rfl, rfl⟩

theorem setAccessVlan_step (h : d.Sound) (vlan : Int) :
    StepsPorts d focus (.interface (.switchportAccessVlan vlan)) (setAccessVlan d vlan) := by
  unfold setAccessVlan
  refine (currentSwitchport_meets h).bind ?_
  rintro ⟨key, i⟩ ⟨⟨-, hi⟩, -⟩
  show d.ports.Step focus _ ((d.ensureVlan vlan).1.modifyInterface key fun _ => { i with accessVlan := vlan }).ports
  rw [ports_put, ports_ensureVlan]
  exact .accessVlan (get?_ports_of_get? hi) ⟨rfl, rfl⟩ rfl rfl

theorem setMode_step (h : d.Sound) (mode : PortMode) :
    StepsPorts d d.context.interface (.interface (.switchportMode mode))
      (InterfaceCommand.apply d (.switchportMode mode)) := by
  refine (currentSwitchport_meets h).bind ?_
  rintro ⟨key, i⟩ ⟨⟨hk, hi⟩, switch, kind⟩
  show d.ports.Step _ _ (d.modifyInterface key fun _ => { i with mode := .known mode }).ports
  rw [ports_put]
  exact .mode hk (get?_ports_of_get? hi) switch kind ⟨rfl, rfl⟩ rfl rfl

theorem joinGroup_step {group : Int} (low : 1 ≤ group) (high : group ≤ 64) (host : d.isA .pc = false)
    (mode : ChannelMode) :
    StepsPorts d focus (.interface (.channelGroup group mode)) (joinGroup d group mode) := by
  unfold joinGroup
  refine (currentInterface_meets d).bind ?_
  rintro ⟨key, i⟩ ⟨-, hi⟩
  refine Returns.after fun _ => Returns.after fun _ => Returns.after fun _ =>
    Returns.after fun _ => Returns.after fun _ => ?_
  have joined := ports_joined (d := d)
    (f := fun i => { i with channelGroup := some group, channelMode := some (.known mode) }) (fun _ => rfl) key
  show d.ports.Step focus _ (Device.modifyInterface _ key _).ports
  rw [joined]
  exact .channel low high host (get?_ports_of_get? hi) rfl rfl ⟨rfl, rfl⟩ (fun _ => ⟨rfl, rfl⟩) fun _ => ⟨rfl, rfl⟩

/-- What an interface command makes of ports. -/
theorem interfaceCommand_step (h : d.Sound) (host : d.isA .pc = false) (c : InterfaceCommand) (ha : c.Admissible) :
    StepsPorts d d.context.interface (.interface c) (c.apply d) := by
  have current {c : Command} {next : String × Interface → Except Failure Outcome}
      (hnext : ∀ key i, d.interfaces.get? key = some i →
        StepsPorts d d.context.interface c (next (key, i))) :
      StepsPorts d d.context.interface c (currentInterface d >>= next) := by
    refine (currentInterface_meets d).bind ?_
    rintro ⟨key, i⟩ ⟨-, hi⟩
    exact hnext key i hi
  have switchport {c : Command} {next : String × Interface → Except Failure Outcome}
      (hnext : ∀ key i, d.interfaces.get? key = some i →
        StepsPorts d d.context.interface c (next (key, i))) :
      StepsPorts d d.context.interface c (currentSwitchport d >>= next) := by
    refine (currentSwitchport_meets h).bind ?_
    rintro ⟨key, i⟩ ⟨⟨-, hi⟩, -⟩
    exact hnext key i hi
  cases c with
  | description text => exact current fun key i hi => step_of_same hi ⟨rfl, rfl⟩ ⟨rfl, rfl⟩
  | noDescription => exact current fun key i hi => step_of_same hi ⟨rfl, rfl⟩ ⟨rfl, rfl⟩
  | shutdown => exact current fun key i hi => step_of_same hi ⟨rfl, rfl⟩ ⟨rfl, rfl⟩
  | noShutdown => exact current fun key i hi => step_of_same hi ⟨rfl, rfl⟩ ⟨rfl, rfl⟩
  | ipAddress ip mask => exact setAddress_step h ip ha _
  | noIpAddress address => exact clearAddress_step d address _
  | accessGroup acl side =>
    refine current fun key i hi => Returns.after fun _ => ?_
    cases side <;> exact step_of_same hi ⟨rfl, rfl⟩ ⟨rfl, rfl⟩
  | noAccessGroup acl side =>
    refine current fun key i hi => ?_
    cases side <;> exact step_of_same hi ⟨rfl, rfl⟩ ⟨rfl, rfl⟩
  | natDirection side => exact current fun key i hi => step_of_same hi ⟨rfl, rfl⟩ ⟨rfl, rfl⟩
  | noNatDirection side => exact current fun key i hi => step_of_same hi ⟨rfl, rfl⟩ ⟨rfl, rfl⟩
  | switchportMode mode => exact setMode_step h mode
  | switchportAccessVlan vlan => exact setAccessVlan_step h vlan
  | trunkAllowed change => exact switchport fun key i hi => step_of_same hi ⟨rfl, rfl⟩ ⟨rfl, rfl⟩
  | trunkNative vlan => exact switchport fun key i hi => step_of_same hi ⟨rfl, rfl⟩ ⟨rfl, rfl⟩
  | portSecurity change =>
    refine switchport fun key i hi => Returns.after fun _ => Returns.after fun _ => ?_
    exact step_of_same hi ⟨rfl, rfl⟩ ⟨rfl, rfl⟩
  | noPortSecurity => exact switchport fun key i hi => step_of_same hi ⟨rfl, rfl⟩ ⟨rfl, rfl⟩
  | encapsulation vlan =>
    refine current fun key i hi => Returns.after fun _ => Returns.after fun _ =>
      Returns.after fun _ => Returns.after fun _ => Returns.after fun _ => ?_
    exact step_of_same hi ⟨rfl, rfl⟩ ⟨rfl, rfl⟩
  | channelGroup group mode => exact joinGroup_step ha.1 ha.2 host mode
  | noChannelGroup =>
    refine current fun key i hi => ?_
    show d.ports.Step _ _ (Device.modifyInterface _ key _).ports
    rw [Device.modifyInterface_at hi]
    exact step_of_same hi ⟨rfl, rfl⟩ ⟨rfl, rfl⟩
  | portfast => exact switchport fun key i hi => step_of_same hi ⟨rfl, rfl⟩ ⟨rfl, rfl⟩
  | noPortfast => exact switchport fun key i hi => step_of_same hi ⟨rfl, rfl⟩ ⟨rfl, rfl⟩

theorem setHostAddress_step (h : d.Sound) (pc : d.isA .pc = true) (ip : Address) {mask : Address}
    (hmask : mask.isNetmask = true) (gateway : Option Address) (c : Command) :
    StepsPorts d focus c (setHostAddress d ip mask gateway) := by
  obtain ⟨n, hn, rfl⟩ := Address.isNetmask_iff.1 hmask
  obtain ⟨key, i, hfirst, hi⟩ := h.first_interface
  unfold setHostAddress
  simp only [Device.sortedEntries_of_table h.interfaces, liftM_ok, ok_bind, hfirst, networkAround_eq ip hn]
  refine (refuseIf_meets _ _).bind fun _ free => Returns.after fun _ =>
    Returns.after fun _ => ?_
  have addressed : d.ports.Step focus c (d.modifyInterface key fun _ => { i with
      ip := some ip.text, mask := some (Network.around ip n).mask.text, adminUp := true }).ports := by
    rw [ports_put]
    refine .address (get?_ports_of_get? hi) hn rfl rfl free (fun host => ?_) (fun switch => ?_) ⟨rfl, rfl⟩
    · rw [isA_ports, pc] at host
      cases host
    · rw [isA_ports, Device.isA_of_ne pc (by decide)] at switch
      cases switch
  cases gateway with
  | none => exact addressed
  | some g => exact Returns.after fun _ => addressed

theorem hostCommand_step (h : d.Sound) (pc : d.isA .pc = true) (c : HostCommand) (ha : c.Admissible) :
    StepsPorts d focus (.host c) (c.apply d) := by
  cases c with
  | ip address mask gateway => exact setHostAddress_step h pc address ha gateway _
  | ipconfig => exact Returns.after fun _ => .same _

end Steps

end NetRack
