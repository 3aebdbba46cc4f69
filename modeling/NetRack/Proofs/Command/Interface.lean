import NetRack.Proofs.Command.Global

/-!
# What interface commands do

Every interface command is refused or reports in full: what others may depend on changes only on
interfaces that are reported as touched, and addresses are written as they are read.
-/

namespace NetRack

open Outcome

variable {d : Device} {key : String} {i : Interface}

theorem currentInterface_eq (hk : d.context.interface = some key) (hi : d.interfaces.get? key = some i) :
    currentInterface d = .ok (key, i) := by
  unfold currentInterface
  rw [hk, Option.bind_some, hi]
  rfl

/-- In interface configuration there is an interface to configure. -/
theorem currentInterface_yields (hs : d.Seated) (hm : d.mode = .interfaceConfig) :
    Yields (fun e => d.interfaces.get? e.1 = some e.2) (currentInterface d) := by
  have object := hs.object
  unfold Device.HasObject at object
  rw [hm] at object
  obtain ⟨key, i, hkey, hi⟩ := object
  rw [currentInterface_eq hkey hi]
  exact hi

theorem currentSwitchport_answers (h : d.Sound) (hs : d.Seated) (hm : d.mode = .interfaceConfig) :
    Answers (fun e => d.interfaces.get? e.1 = some e.2) (currentSwitchport d) := by
  unfold currentSwitchport
  refine requireSwitch_answers.bind fun _ _ => ?_
  refine (currentInterface_yields hs hm).anyway.bind ?_
  rintro ⟨key, i⟩ hi
  simp only [h.interfaces.kind_eq hi, liftM_ok, ok_bind]
  exact (Answers.refuseIf _ _).bind fun _ _ => hi

/-! ## Addresses -/

theorem checkAddressable_answers (h : d.Sound) (hi : d.interfaces.get? key = some i) :
    Answers (fun _ => InterfaceName.kindOf key = .subinterface → i.dot1qVlan.isSome = true)
      (checkAddressable d i) := by
  unfold checkAddressable
  simp only [h.interfaces.kind_eq hi, liftM_ok, ok_bind]
  refine (Answers.refuseIf _ _).bind fun _ _ => (Answers.refuseIf _ _).imp fun _ hr hsub => ?_
  simpa [hsub] using hr

theorem networkAround_eq (ip : Address) {n : Nat} (hn : n ≤ 32) :
    networkAround ip (Address.netmask n) = .ok (.around ip n) := by
  unfold networkAround
  rw [Address.netmaskLength?_netmask hn]

theorem overlapsWith_eq (h : d.Sound) (n : Network) (name : String) {other : Interface}
    (hother : d.interfaces.get? other.name = some other) :
    overlapsWith n name other = .ok (other.name ≠ name && other.net.any (·.overlaps n)) := by
  have haddressed := (h.interfaces.each _ other hother).addressed
  unfold overlapsWith
  by_cases hname : other.name = name
  · simp [hname]
  · simp [hname, haddressed.network?_eq]

theorem setAddress_delivers (h : d.Sound) (hs : d.Seated) (hm : d.mode = .interfaceConfig)
    (ip : Address) {mask : Address} (hmask : mask.isNetmask = true) :
    Answers (Delivers d) (setAddress d ip mask) := by
  obtain ⟨n, hn, rfl⟩ := Address.isNetmask_iff.1 hmask
  unfold setAddress
  refine (currentInterface_yields hs hm).anyway.bind ?_
  rintro ⟨key, i⟩ hi
  refine (checkAddressable_answers h hi).bind fun _ tagged => ?_
  simp only [networkAround_eq ip hn, liftM_ok, ok_bind]
  refine (Answers.refuseIf _ _).bind fun _ _ => ?_
  have search := Topology.findFirst_ok (l := d.ordered.map Prod.snd) fun other hother =>
    overlapsWith_eq h (.around ip n) i.name ((Device.mem_ordered_values h.interfaces).1 hother)
  simp only [Device.sortedInterfaces_of_table h.interfaces, liftM_ok, ok_bind, search]
  have hsound := h.interfaces.each key i hi
  split
  · exact Answers.refuse _
  · have changed : ({ i with ip := some ip.text, mask := some (Network.around ip n).mask.text } :
        Interface).Sound key := ⟨hsound.name, Or.inr ⟨ip, n, hn, rfl, rfl⟩, hsound.member⟩
    have fits (hpc : d.isA .pc = false) : Interface.FitsTag d.interfaces key
        { i with ip := some ip.text, mask := some (Network.around ip n).mask.text } :=
      ⟨fun hsub _ => tagged hsub, (h.tags hpc key i hi).free⟩
    exact (retagInterface_delivers h hs hi changed fits).rerouting

theorem clearAddress_delivers (h : d.Sound) (hs : d.Seated) (hm : d.mode = .interfaceConfig)
    (address : Option (Address × Address)) : Answers (Delivers d) (clearAddress d address) := by
  unfold clearAddress
  refine (currentInterface_yields hs hm).anyway.bind ?_
  rintro ⟨key, i⟩ hi
  refine (Answers.refuseIf _ _).bind fun _ _ => ?_
  have hsound := h.interfaces.each key i hi
  have changed : ({ i with ip := none, mask := none } : Interface).Sound key :=
    ⟨hsound.name, Or.inl ⟨rfl, rfl⟩, hsound.member⟩
  exact (touchInterface_delivers h hs hi changed (fun hip => by cases hip) rfl).rerouting

/-! ## Filters and switching -/

theorem setFilter_delivers (h : d.Sound) (hs : d.Seated) (hm : d.mode = .interfaceConfig) (acl : String)
    (side : FilterSide) : Answers (Delivers d) (setFilter d acl side) := by
  unfold setFilter
  refine (currentInterface_yields hs hm).anyway.bind ?_
  rintro ⟨key, i⟩ hi
  refine (Answers.refuseIf _ _).bind fun _ _ => ?_
  have hsound := h.interfaces.each key i hi
  cases side <;> exact setInterface_delivers h hs hi ⟨hsound.name, hsound.addressed, hsound.member⟩ rfl

theorem clearFilter_delivers (h : d.Sound) (hs : d.Seated) (hm : d.mode = .interfaceConfig) (acl : String)
    (side : FilterSide) : Answers (Delivers d) (clearFilter d acl side) := by
  unfold clearFilter
  refine (currentInterface_yields hs hm).anyway.bind ?_
  rintro ⟨key, i⟩ hi
  have hsound := h.interfaces.each key i hi
  cases side <;> exact setInterface_delivers h hs hi ⟨hsound.name, hsound.addressed, hsound.member⟩ rfl

theorem setAccessVlan_delivers (h : d.Sound) (hs : d.Seated) (hm : d.mode = .interfaceConfig) (vlan : Int) :
    Answers (Delivers d) (setAccessVlan d vlan) := by
  unfold setAccessVlan
  refine (currentSwitchport_answers h hs hm).bind ?_
  rintro ⟨key, i⟩ hi
  obtain ⟨vlans, heq, hkept, -⟩ := ensureVlan_eq d vlan
  simp only [heq]
  have hsound := h.interfaces.each key i hi
  have touch := touchInterface_delivers (j := { i with accessVlan := vlan }) h hs hi
    ⟨hsound.name, hsound.addressed, hsound.member⟩ id rfl
  have report := touch.toReports.of_vlans vlans
  refine ⟨⟨report.sound, rfl, rfl, report.kept, report.touched, report.wiring, report.routes, rfl,
    report.quiet⟩, touch.seated.of_keeps ?_⟩
  exact ⟨rfl, rfl, rfl, rfl, fun _ hk => hk, fun hi => hi, fun hi => hi, fun _ hk => hk, hkept,
    fun _ hk => hk, fun _ hk => hk⟩

theorem setTrunkVlans_delivers (h : d.Sound) (hs : d.Seated) (hm : d.mode = .interfaceConfig)
    (change : TrunkChange) : Answers (Delivers d) (setTrunkVlans d change) := by
  unfold setTrunkVlans
  refine (currentSwitchport_answers h hs hm).bind ?_
  rintro ⟨key, i⟩ hi
  have hsound := h.interfaces.each key i hi
  exact touchInterface_delivers h hs hi ⟨hsound.name, hsound.addressed, hsound.member⟩ id rfl

theorem securityChange_answers (change : SecurityChange) (name : String) (ps : PortSecurity) :
    Answers (fun _ => True) (change.apply name ps) := by
  unfold SecurityChange.apply
  cases change with
  | enable => trivial
  | maximum count => exact (Answers.refuseIf _ _).bind fun _ _ => trivial
  | violation reaction => trivial
  | sticky => trivial
  | station address =>
    dsimp only
    split
    · trivial
    · exact (Answers.refuseIf _ _).bind fun _ _ => trivial

theorem setPortSecurity_delivers (h : d.Sound) (hs : d.Seated) (hm : d.mode = .interfaceConfig)
    (change : SecurityChange) : Answers (Delivers d) (setPortSecurity d change) := by
  unfold setPortSecurity
  refine (currentSwitchport_answers h hs hm).bind ?_
  rintro ⟨key, i⟩ hi
  refine (Answers.refuseIf _ _).bind fun _ _ => (securityChange_answers change _ _).bind fun ps _ => ?_
  have hsound := h.interfaces.each key i hi
  exact setInterface_delivers h hs hi ⟨hsound.name, hsound.addressed, hsound.member⟩ rfl

theorem hasTag_eq (h : d.Sound) (parent name : String) (vlan : Int) {other : Interface}
    (hother : d.interfaces.get? other.name = some other) :
    hasTag parent name vlan other = .ok (other.name ≠ name &&
      (InterfaceName.parentOf other.name = parent && other.dot1qVlan = some vlan)) := by
  unfold hasTag
  by_cases hname : other.name = name
  · simp [hname]
  · simp [hname, h.interfaces.split_eq hother]

theorem setEncapsulation_delivers (h : d.Sound) (hs : d.Seated) (hm : d.mode = .interfaceConfig)
    (vlan : Int) : Answers (Delivers d) (setEncapsulation d vlan) := by
  unfold setEncapsulation
  refine (currentInterface_yields hs hm).anyway.bind ?_
  rintro ⟨key, i⟩ hi
  simp only [h.interfaces.kind_eq hi, liftM_ok, ok_bind]
  refine (Answers.refuseIf _ _).bind fun _ _ => ?_
  have search := Topology.anyOf_ok (l := d.interfaces.values) fun other hother =>
    hasTag_eq h (InterfaceName.parentOf key) i.name vlan (h.interfaces.get?_of_mem_values hother)
  simp only [h.interfaces.split_eq hi, liftM_ok, ok_bind, search]
  refine (Answers.refuseIf _ _).bind fun _ untaken => ?_
  have hsound := h.interfaces.each key i hi
  refine retagInterface_delivers h hs hi ⟨hsound.name, hsound.addressed, hsound.member⟩
    fun _ => ⟨fun _ _ => rfl, fun v hv k j hj hjv hparent => ?_⟩
  -- The search has come upon no other subinterface of the port with this tag.
  obtain rfl : vlan = v := Option.some.inj hv
  have hname := h.interfaces.name_eq hj
  have searched := List.any_eq_false.1 untaken j (Table.mem_values.2 ⟨k, hj⟩)
  rw [hname, hsound.name] at searched
  simpa [hparent, hjv] using searched

/-! ## Channel groups -/

/-- Every member of a channel group has a known mode. -/
theorem speaksOther_yields (h : d.Sound) (name : String) (group : Int) (protocol : ChannelProtocol)
    {other : Interface} (hother : d.interfaces.get? other.name = some other) :
    Yields (fun _ => True) (speaksOther name group protocol other) := by
  unfold speaksOther
  split
  · rename_i hcond
    have hgroup : other.channelGroup = some group := by simpa using (Bool.and_eq_true_iff.1 hcond).2
    obtain ⟨-, m, hmode⟩ := (h.interfaces.each _ other hother).member group hgroup
    unfold memberProtocol
    rw [hmode]
    trivial
  · trivial

theorem anyOf_yields {α : Type} {check : α → Except Fault Bool} {l : List α}
    (h : ∀ x ∈ l, Yields (fun _ => True) (check x)) : Yields (fun _ => True) (Topology.anyOf check l) := by
  have hok : ∀ x ∈ l, check x = .ok ((check x).toOption.getD false) := by
    intro x hx
    obtain ⟨b, hb, -⟩ := (h x hx).exists_ok
    rw [hb]
    rfl
  rw [Topology.anyOf_ok hok]
  trivial

theorem tags_with_channel (h : TagTable d.interfaces) {name : String} {new : Interface}
    (hnew : new.FitsTag d.interfaces name) : TagTable (d.interfaces.insertIfNew name new) := by
  unfold Table.insertIfNew
  split
  · exact h
  · refine h.put hnew fun k x hx => ?_
    rw [Table.get?_insert] at hx
    split at hx
    · exact Or.inl ⟨‹_›, (Option.some.inj hx).symm⟩
    · exact Or.inr hx

/-- The port channel of a group can be made. -/
theorem table_with_channel (h : InterfaceTable d.interfaces) {group : Int} (low : 1 ≤ group)
    (high : group ≤ 64) {new : Interface} (hnew : new.Sound (InterfaceName.ofGroup group)) :
    InterfaceTable (d.interfaces.insertIfNew (InterfaceName.ofGroup group) new) := by
  obtain ⟨readable, hkind⟩ := InterfaceName.ofGroup_readable low high
  unfold Table.insertIfNew
  split
  · exact h
  · refine h.insert hnew readable ?_ fun hsub => ?_
    · intro hempty
      rw [hempty] at hkind
      exact absurd hkind (by decide)
    · rw [hkind] at hsub
      cases hsub

theorem mem_keys_insertIfNew {κ ν : Type} [DecidableEq κ] (t : Table κ ν) (k : κ) (v : ν) :
    k ∈ (t.insertIfNew k v).keys ∧ ∀ j ∈ t.keys, j ∈ (t.insertIfNew k v).keys := by
  unfold Table.insertIfNew
  split
  · rename_i hcontains
    exact ⟨Table.contains_iff.1 hcontains, fun _ hj => hj⟩
  · exact ⟨Table.mem_keys_insert.2 (Or.inr rfl), fun j hj => Table.mem_keys_insert.2 (Or.inl hj)⟩

theorem joinGroup_delivers (h : d.Sound) (hs : d.Seated) (hm : d.mode = .interfaceConfig) {group : Int}
    (low : 1 ≤ group) (high : group ≤ 64) (mode : ChannelMode) :
    Answers (Delivers d) (joinGroup d group mode) := by
  unfold joinGroup
  refine (currentInterface_yields hs hm).anyway.bind ?_
  rintro ⟨key, i⟩ hi
  simp only [h.interfaces.kind_eq hi, liftM_ok, ok_bind, Device.sortedInterfaces_of_table h.interfaces]
  refine (Answers.refuseIf _ _).bind fun _ hphys => ?_
  have hphys : InterfaceName.kindOf key = .physical := by simpa using hphys
  have search := anyOf_yields (l := d.ordered.map Prod.snd) fun other hother =>
    speaksOther_yields h i.name group mode.protocol ((Device.mem_ordered_values h.interfaces).1 hother)
  refine search.lift.bind fun mismatch _ => (Answers.refuseIf _ _).bind fun _ _ => ?_
  generalize hnew : ({ Interface.factory d.id (InterfaceName.ofGroup group) .routed with
    adminUp := true, mode := i.mode, accessVlan := i.accessVlan } : Interface) = new
  have hchannel : new.Sound (InterfaceName.ofGroup group) := by
    rw [← hnew]
    exact ⟨rfl, Or.inl ⟨rfl, rfl⟩, fun g hg => by cases hg⟩
  have plain : new.FitsTag d.interfaces (InterfaceName.ofGroup group) := by
    rw [← hnew]
    exact .of_plain rfl rfl
  have table := table_with_channel h.interfaces low high hchannel
  obtain ⟨hmem, hkept⟩ := mem_keys_insertIfNew d.interfaces (InterfaceName.ofGroup group) new
  have kept (f : Interface → Interface) : ∀ k ∈ d.interfaces.keys,
      k ∈ ((d.interfaces.insertIfNew (InterfaceName.ofGroup group) new).modify key f).keys := by
    intro k hk
    rw [Table.keys_modify]
    exact hkept k hk
  have hname : i.name = key := h.interfaces.name_eq hi
  refine ⟨⟨?_, rfl, rfl, kept _, ?_, ?_, fun _ _ => Iff.rfl, rfl, fun ht => by cases ht⟩,
    hs.of_keeps (Device.Keeps.of_interfaces (kept _))⟩
  · refine h.with_interfaces (table.modify fun j hj => ?_) fun hpc => ?_
    · have hsound := table.each key j hj
      exact ⟨hsound.name, hsound.addressed, fun g _ => ⟨hphys, mode, rfl⟩⟩
    · refine (tags_with_channel (h.tags hpc) plain).congr fun k x hx => ?_
      rw [Table.get?_modify] at hx
      split at hx
      · obtain ⟨j, hj, rfl⟩ := Option.map_eq_some_iff.1 hx
        exact ⟨j, hj, id, rfl⟩
      · exact ⟨x, hx, id, rfl⟩
  · intro k hk
    rcases (by simpa using hk : k = i.name ∨ k = InterfaceName.ofGroup group) with rfl | rfl
    · rw [hname]
      exact kept _ key (Table.mem_keys_of_get? hi)
    · show _ ∈ (Table.modify _ _ _).keys
      rw [Table.keys_modify]
      exact hmem
  · intro k hk
    have hne : k ≠ key ∧ k ≠ InterfaceName.ofGroup group := by
      rw [← hname]
      simpa using hk
    show ((Table.modify _ _ _).get? k).map _ = _
    rw [Table.get?_modify_of_ne hne.1, Table.get?_insertIfNew, if_neg hne.2]

theorem leaveGroup_delivers (h : d.Sound) (hs : d.Seated) (hm : d.mode = .interfaceConfig) :
    Answers (Delivers d) (leaveGroup d) := by
  unfold leaveGroup
  refine (currentInterface_yields hs hm).anyway.bind ?_
  rintro ⟨key, i⟩ hi
  have hsound := h.interfaces.each key i hi
  refine ⟨@Reports.of_modify d key i h _ _ rfl hi ⟨hsound.name, hsound.addressed, fun g hg => by cases hg⟩
    (fun hpc => (h.tags hpc).fits hi id rfl) ?_ (Or.inl ?_), hs.of_keeps (Device.keeps_modifyInterface key _)⟩
  · intro k hk
    rcases List.mem_cons.1 hk with rfl | hk
    · rw [hsound.name]
      exact Table.mem_keys_of_get? hi
    · split at hk
      · rename_i hcontains
        rw [List.mem_singleton.1 hk]
        rw [← Table.contains_iff, ← Table.contains_modify]
        exact hcontains
      · cases hk
  · rw [← hsound.name]
    exact List.mem_cons_self

/-! ## All commands -/

/-- What a console makes sure of before it gives an interface command to a device. -/
def InterfaceCommand.Admissible : InterfaceCommand → Prop
  | .ipAddress _ mask => mask.isNetmask = true
  | .channelGroup group _ => 1 ≤ group ∧ group ≤ 64
  | _ => True

/-- An interface command is refused or reports in full. -/
theorem interfaceCommand_delivers (h : d.Sound) (hs : d.Seated) (hm : d.mode = .interfaceConfig)
    {c : InterfaceCommand} (ha : c.Admissible) : Answers (Delivers d) (c.apply d) := by
  have current {next : String × Interface → Except Failure Outcome}
      (hnext : ∀ key i, d.interfaces.get? key = some i → i.Sound key →
        Answers (Delivers d) (next (key, i))) :
      Answers (Delivers d) (currentInterface d >>= next) := by
    refine (currentInterface_yields hs hm).anyway.bind ?_
    rintro ⟨key, i⟩ hi
    exact hnext key i hi (h.interfaces.each key i hi)
  have switchport {next : String × Interface → Except Failure Outcome}
      (hnext : ∀ key i, d.interfaces.get? key = some i → i.Sound key →
        Answers (Delivers d) (next (key, i))) :
      Answers (Delivers d) (currentSwitchport d >>= next) := by
    refine (currentSwitchport_answers h hs hm).bind ?_
    rintro ⟨key, i⟩ hi
    exact hnext key i hi (h.interfaces.each key i hi)
  unfold InterfaceCommand.apply
  cases c with
  | description text =>
    exact current fun key i hi hsound =>
      setInterface_delivers h hs hi ⟨hsound.name, hsound.addressed, hsound.member⟩ rfl
  | noDescription =>
    exact current fun key i hi hsound =>
      setInterface_delivers h hs hi ⟨hsound.name, hsound.addressed, hsound.member⟩ rfl
  | shutdown =>
    exact current fun key i hi hsound =>
      touchInterface_delivers h hs hi ⟨hsound.name, hsound.addressed, hsound.member⟩ id rfl
  | noShutdown =>
    exact current fun key i hi hsound =>
      touchInterface_delivers h hs hi ⟨hsound.name, hsound.addressed, hsound.member⟩ id rfl
  | ipAddress ip mask => exact setAddress_delivers h hs hm ip ha
  | noIpAddress address => exact clearAddress_delivers h hs hm address
  | accessGroup acl side => exact setFilter_delivers h hs hm acl side
  | noAccessGroup acl side => exact clearFilter_delivers h hs hm acl side
  | natDirection side =>
    exact current fun key i hi hsound =>
      setInterface_delivers h hs hi ⟨hsound.name, hsound.addressed, hsound.member⟩ rfl
  | noNatDirection side =>
    exact current fun key i hi hsound =>
      setInterface_delivers h hs hi ⟨hsound.name, hsound.addressed, hsound.member⟩ rfl
  | switchportMode mode =>
    exact switchport fun key i hi hsound =>
      touchInterface_delivers h hs hi ⟨hsound.name, hsound.addressed, hsound.member⟩ id rfl
  | switchportAccessVlan vlan => exact setAccessVlan_delivers h hs hm vlan
  | trunkAllowed change => exact setTrunkVlans_delivers h hs hm change
  | trunkNative vlan =>
    exact switchport fun key i hi hsound =>
      touchInterface_delivers h hs hi ⟨hsound.name, hsound.addressed, hsound.member⟩ id rfl
  | portSecurity change => exact setPortSecurity_delivers h hs hm change
  | noPortSecurity =>
    exact switchport fun key i hi hsound =>
      setInterface_delivers h hs hi ⟨hsound.name, hsound.addressed, hsound.member⟩ rfl
  | encapsulation vlan => exact setEncapsulation_delivers h hs hm vlan
  | channelGroup group mode => exact joinGroup_delivers h hs hm ha.1 ha.2 mode
  | noChannelGroup => exact leaveGroup_delivers h hs hm
  | portfast =>
    refine switchport fun key i hi hsound => ?_
    have change := setInterface_delivers (j := { i with portfast := true }) h hs hi
      ⟨hsound.name, hsound.addressed, hsound.member⟩ rfl
    exact change.saying (portfastWarning i)
  | noPortfast =>
    exact switchport fun key i hi hsound =>
      setInterface_delivers h hs hi ⟨hsound.name, hsound.addressed, hsound.member⟩ rfl

end NetRack
