import NetRack.Proofs.Addressing
import NetRack.Proofs.Settings.Line
import NetRack.Proofs.Trunk.Runs

/-!
# Features that agree

Each feature of a device is configured by several commands, which may come in any order: a port channel takes
another member, a secure port another station, an access list another rule, a pool another range.  What each
feature demands of its own data holds however they came.
-/

namespace NetRack

open Outcome

/-! ## What is demanded -/

/-- Two texts are the ends of a range of addresses. -/
def IsRange (first last : String) : Prop :=
  ∃ low high, Address.read first = .ok low ∧ Address.read last = .ok high ∧ low ≤ high

/-- A secure port admits no station twice, and no more than it may. -/
structure PortSecurity.Tidy (s : PortSecurity) : Prop where
  distinct : s.stations.Nodup
  room : (s.stations.length : Int) ≤ s.maximum

/-- The numbers of VLANs that an interface has are numbers of VLANs, and its security is tidy. -/
structure PortFeatures.Tidy (f : PortFeatures) : Prop where
  tag : ∀ v, f.tag = some v → IsVlan v
  access : IsVlan f.accessVlan
  native : IsVlan f.nativeVlan
  trunk : ∀ set, f.trunkVlans = some set → ∀ v ∈ set.ids, IsVlan v
  security : f.security.Tidy

/-- Two members of a channel group speak one protocol. -/
def PortFeatures.Agree (f g : PortFeatures) : Prop :=
  ∃ m n, f.groupMode = some (.known m) ∧ g.groupMode = some (.known n) ∧ m.protocol = n.protocol

/-- An access list has no rule twice, and a standard one rules on sources only. -/
structure AccessList.Tidy (l : AccessList) : Prop where
  distinct : l.rules.Nodup
  standard : l.kind.holds .standard = true → ∀ r ∈ l.rules, r.protocol = .known .ip ∧
    r.destination = "0.0.0.0" ∧ r.destinationWildcard = "255.255.255.255"

/-- No two statements of an OSPF process are about the same addresses. -/
def OspfConfig.Tidy (c : OspfConfig) : Prop :=
  c.networks.Pairwise fun m n => ¬(m.network = n.network ∧ m.wildcard = n.wildcard)

/-- An address has one translation, and a list has one, to the addresses of a pool that there is; pools are
ranges. -/
structure NatConfig.Tidy (n : NatConfig) : Prop where
  statics : n.statics.Pairwise fun s t => s.localAddress ≠ t.localAddress
  dynamics : n.dynamics.Pairwise fun e f => e.acl ≠ f.acl
  pooled : ∀ e ∈ n.dynamics, ∀ name, e.pool = some name → name ∈ n.pools.keys
  ranges : ∀ name p, n.pools.get? name = some p → IsRange p.first p.last

/-- Priorities are those of VLANs, and multiples of 4096. -/
def StpConfig.Tidy (s : StpConfig) : Prop :=
  ∀ v priority, s.vlanPriority.get? v = some priority → IsVlan v ∧ (4096 : Int) ∣ priority

/-- All features of settings are tidy. -/
structure Settings.Tidy (s : Settings) : Prop where
  ports : ∀ k f, s.ports.get? k = some f → f.Tidy
  groups : ∀ k f k' f' group, s.ports.get? k = some f → s.ports.get? k' = some f' → f.group = some group →
    f'.group = some group → f.Agree f'
  vlans : ∀ v name, s.vlans.get? v = some name → IsVlan v ∧ name.length ≤ 32
  lists : ∀ k l, s.lists.get? k = some l → l.Tidy
  ospf : ∀ config, s.ospf = some config → config.Tidy
  excluded : ∀ e ∈ s.excluded, IsRange e.1 e.2
  nat : s.nat.Tidy
  stp : s.stp.Tidy

/-! ## Ports -/

theorem isRange_of_le {low high : Address} (ordered : low ≤ high) : IsRange low.text high.text :=
  ⟨low, high, Address.read_text low, Address.read_text high, ordered⟩

theorem PortSecurity.Tidy.change {s : PortSecurity} (h : s.Tidy) (change : SecurityChange) (name : String) :
    Returns PortSecurity.Tidy (change.apply name s) := by
  cases change with
  | enable => exact ⟨h.distinct, h.room⟩
  | violation reaction => exact ⟨h.distinct, h.room⟩
  | sticky => exact ⟨h.distinct, h.room⟩
  | maximum count => exact (refuseIf_meets _ _).bind fun _ fits => ⟨h.distinct, by simpa using fits⟩
  | station address =>
    refine Meets.ite (fun _ => h) fun unknown => (refuseIf_meets _ _).bind fun _ room => ⟨?_, ?_⟩
    · exact h.distinct.append (List.nodup_singleton _) (List.disjoint_singleton.2 unknown)
    · have room : ¬s.maximum ≤ (s.stations.length : Int) := by simpa using room
      simp only [List.length_append, List.length_singleton]
      omega

/-- A change keeps a trunk to numbers of VLANs. -/
theorem TrunkChange.Bounded.isVlan {change : TrunkChange} (bounded : change.Bounded) {current : VlanSet}
    (h : ∀ v ∈ current.ids, IsVlan v) : ∀ v ∈ (change.apply current).ids, IsVlan v := by
  intro v hv
  cases change with
  | all => exact VlanSet.mem_all.1 hv
  | none => cases hv
  | set vlans => exact bounded v (VlanSet.mem_ofList.1 hv)
  | add vlans =>
    rcases VlanSet.mem_union.1 hv with hv | hv
    · exact h v hv
    · exact bounded v (VlanSet.mem_ofList.1 hv)
  | remove vlans => exact h v (VlanSet.mem_diff.1 hv).1
  | except vlans => exact VlanSet.mem_all.1 (VlanSet.mem_diff.1 hv).1

/-- A port without features but a VLAN is tidy. -/
theorem PortFeatures.tidy_of_access {vlan : Int} (h : IsVlan vlan) :
    ({ accessVlan := vlan } : PortFeatures).Tidy where
  tag := fun v none => by cases none
  access := h
  native := ⟨Int.le_refl 1, (by decide : (1 : Int) ≤ 4094)⟩
  trunk := fun set none => by cases none
  security := ⟨List.nodup_nil, (by decide : ((0 : Nat) : Int) ≤ 1)⟩

theorem PortFeatures.tidy_default : ({} : PortFeatures).Tidy :=
  tidy_of_access ⟨Int.le_refl 1, (by decide : (1 : Int) ≤ 4094)⟩

namespace PortFeatures

variable {d : Device} {c : Command} {f g : PortFeatures}

theorem Tidy.change (h : f.Tidy) (bounded : c.Bounded d) (change : f.Change c g) : g.Tidy := by
  cases change with
  | access vlan => exact ⟨h.tag, bounded, h.native, h.trunk, h.security⟩
  | native vlan => exact ⟨h.tag, h.access, bounded, h.trunk, h.security⟩
  | trunk change given listed =>
    refine ⟨h.tag, h.access, h.native, fun set hset => ?_, h.security⟩
    rw [given set hset]
    exact TrunkChange.Bounded.isVlan bounded (VlanSet.isVlan_getD h.trunk)
  | security given => exact ⟨h.tag, h.access, h.native, h.trunk, (h.security.change _ _).value given⟩
  | noSecurity => exact ⟨h.tag, h.access, h.native, h.trunk, tidy_default.security⟩
  | tag vlan =>
    refine ⟨fun v hv => ?_, h.access, h.native, h.trunk, h.security⟩
    rw [← Option.some.inj hv]
    exact bounded
  | leave => exact ⟨h.tag, h.access, h.native, h.trunk, h.security⟩

theorem Agree.symm (h : f.Agree g) : g.Agree f := by
  obtain ⟨m, n, hm, hn, same⟩ := h
  exact ⟨n, m, hn, hm, same.symm⟩

/-- A change leaves who is in a group in it, with the mode it has. -/
theorem Change.member {group : Int} (change : f.Change c g) (member : g.group = some group) :
    f.group = some group ∧ f.groupMode = g.groupMode := by
  cases change with
  | leave => cases member
  | _ => exact ⟨member, rfl⟩

end PortFeatures

section Ports

variable {t t' : Table String PortFeatures} {d : Device} {c : Command} {k k' : String} {f f' : PortFeatures}

theorem PortStep.tidy (step : PortStep t c t') (bounded : c.Bounded d)
    (h : ∀ k f, t.get? k = some f → f.Tidy) : ∀ k f, t'.get? k = some f → f.Tidy := by
  intro k f hf
  cases step.origin hf with
  | kept hf => exact h k f hf
  | changed hg change => exact (h k _ hg).change bounded change
  | fresh given same => exact same ▸ PortFeatures.tidy_default
  | joined given hg same agree =>
    have tidy := h k _ hg
    subst same
    exact ⟨tidy.tag, tidy.access, tidy.native, tidy.trunk, tidy.security⟩
  | channel given hk new hg same =>
    obtain ⟨j, hj⟩ := hg
    exact same ▸ PortFeatures.tidy_of_access (h j _ hj).access

/-- A member of a group was one before, with the mode it has, or it has just joined. -/
theorem PortStep.Origin.member {group : Int} (origin : PortStep.Origin t c k f) (member : f.group = some group) :
    (∃ g, t.get? k = some g ∧ g.group = some group ∧ g.groupMode = f.groupMode) ∨
      ∃ mode, c = .interface (.channelGroup group mode) ∧ f.groupMode = some (.known mode) ∧
        ∀ j x, t.get? j = some x → j ≠ k → x.group = some group →
          ∃ m, x.groupMode = some (.known m) ∧ m.protocol = mode.protocol := by
  cases origin with
  | kept hf => exact Or.inl ⟨f, hf, member, rfl⟩
  | changed hg change =>
    obtain ⟨same, mode⟩ := change.member member
    exact Or.inl ⟨_, hg, same, mode⟩
  | fresh given same =>
    subst same
    cases member
  | joined given hg same agree =>
    subst same
    cases member
    exact Or.inr ⟨_, given, rfl, agree⟩
  | channel given hk new hg same =>
    subst same
    cases member

theorem PortStep.agree (step : PortStep t c t') (h : ∀ k f k' f' group, t.get? k = some f → t.get? k' = some f' →
      f.group = some group → f'.group = some group → f.Agree f') :
    ∀ k f k' f' group, t'.get? k = some f → t'.get? k' = some f' → f.group = some group →
      f'.group = some group → f.Agree f' := by
  intro k f k' f' group hf hf' member member'
  -- Whoever has joined speaks what the others speak.
  have joins {k k' : String} {f f' g : PortFeatures} {mode : ChannelMode} (apart : k ≠ k')
      (hmode : f.groupMode = some (.known mode))
      (agree : ∀ j x, t.get? j = some x → j ≠ k → x.group = some group →
        ∃ m, x.groupMode = some (.known m) ∧ m.protocol = mode.protocol)
      (hg : t.get? k' = some g) (old : g.group = some group) (same : g.groupMode = f'.groupMode) : f.Agree f' := by
    obtain ⟨m, hm, protocol⟩ := agree k' g hg apart.symm old
    exact ⟨mode, m, hmode, same ▸ hm, protocol.symm⟩
  rcases (step.origin hf).member member with ⟨g, hg, old, same⟩ | ⟨mode, given, hmode, agree⟩ <;>
    rcases (step.origin hf').member member' with ⟨g', hg', old', same'⟩ | ⟨mode', given', hmode', agree'⟩
  · obtain ⟨m, n, hm, hn, protocol⟩ := h k g k' g' group hg hg' old old'
    exact ⟨m, n, same ▸ hm, same' ▸ hn, protocol⟩
  · by_cases apart : k' = k
    · subst apart
      cases hf.symm.trans hf'
      exact ⟨mode', mode', hmode', hmode', rfl⟩
    · exact (joins apart hmode' agree' hg old same).symm
  · by_cases apart : k = k'
    · subst apart
      cases hf.symm.trans hf'
      exact ⟨mode, mode, hmode, hmode, rfl⟩
    · exact joins apart hmode agree hg' old' same'
  · -- A line joins one group in one mode.
    cases given.symm.trans given'
    exact ⟨mode, mode, hmode, hmode', rfl⟩

end Ports

/-! ## VLANs and the spanning tree -/

section Vlans

variable {d : Device} {c : Command}

/-- The name that a VLAN has until it is named is short. -/
theorem length_defaultVlanName {v : Int} (h : IsVlan v) : (defaultVlanName v).length ≤ 32 := by
  obtain ⟨low, high⟩ := h
  obtain ⟨n, rfl⟩ := Int.eq_ofNat_of_zero_le (Int.le_trans (by decide : (0 : Int) ≤ 1) low)
  have digits : (Nat.toDigits 10 n).length ≤ 4 := Nat.toDigits_length 10 n 4 (by decide) (by omega)
  have padded : (Text.zeroPadded 4 n).length ≤ 4 := by
    show (String.ofList _).length ≤ 4
    rw [String.length_ofList, List.length_append, List.length_replicate]
    omega
  unfold defaultVlanName
  rw [String.length_append]
  have word : "VLAN".length = 4 := by decide
  omega

theorem VlanStep.tidy {t t' : Table Int String} (step : VlanStep t c t') (bounded : c.Bounded d)
    (h : ∀ v name, t.get? v = some name → IsVlan v ∧ name.length ≤ 32) :
    ∀ v name, t'.get? v = some name → IsVlan v ∧ name.length ≤ 32 := by
  have created {vlan : Int} (hvlan : IsVlan vlan) :
      ∀ v name, (t.insertIfNew vlan (defaultVlanName vlan)).get? v = some name → IsVlan v ∧ name.length ≤ 32 := by
    intro v name hv
    rw [Table.get?_insertIfNew] at hv
    split at hv
    · rename_i same
      subst same
      cases old : t.get? v with
      | none =>
        rw [old] at hv
        cases hv
        exact ⟨hvlan, length_defaultVlanName hvlan⟩
      | some name' =>
        rw [old] at hv
        cases hv
        exact h v _ old
    · exact h v name hv
  cases step with
  | new vlan => exact created bounded
  | access vlan => exact created bounded
  | remove other =>
    intro v name hv
    rw [Table.get?_erase] at hv
    split at hv
    · cases hv
    · exact h v name hv
  | name known short =>
    intro v name hv
    rw [Table.get?_insert] at hv
    split at hv
    · rename_i same
      cases hv
      obtain ⟨old, hold⟩ := Table.mem_keys.1 known
      exact ⟨same ▸ (h _ old (Table.get?_eq_some.2 hold)).1, short⟩
    · exact h v name hv

theorem StpStep.tidy {s s' : StpConfig} (step : StpStep s c s') (bounded : c.Bounded d) (h : s.Tidy) : s'.Tidy := by
  cases step with
  | mode mode => exact h
  | priority multiple =>
    intro v priority hv
    rw [Table.get?_insert] at hv
    split at hv
    · rename_i same
      cases hv
      exact ⟨same ▸ bounded, Int.dvd_of_fmod_eq_zero multiple⟩
    · exact h v priority hv

end Vlans

/-! ## Access lists, statements and translations -/

section Services

variable {d : Device} {c : Command}

theorem text_zero : Address.zero.text = "0.0.0.0" := by decide +kernel

theorem text_ones : Address.ones.text = "255.255.255.255" := by decide +kernel

theorem AccessList.Tidy.append {l : AccessList} {e : RuleEntry} (h : l.Tidy) (bounded : e.Bounded) :
    Returns AccessList.Tidy (l.append e) := by
  refine (refuseIf_meets _ _).bind fun _ bare => .after fun _ => ?_
  by_cases known : e.rule ∈ l.rules
  · rw [if_pos known]
    exact h
  · rw [if_neg known]
    refine ⟨h.distinct.append (List.nodup_singleton _) (List.disjoint_singleton.2 known), fun standard r hr => ?_⟩
    rcases List.mem_append.1 hr with hr | hr
    · exact h.standard standard r hr
    · -- A rule of a standard list names no protocol, so it has been given no destination.
      have protocol : e.protocol = none := by simpa [show l.kind.holds .standard = true from standard] using bare
      rw [List.mem_singleton.1 hr]
      unfold RuleEntry.rule
      rw [protocol, bounded protocol]
      exact ⟨rfl, text_zero, text_ones⟩

theorem AccessList.tidy_new (name : String) (kind : Stored AclKind) : ({ name, kind } : AccessList).Tidy :=
  ⟨List.nodup_nil, fun _ r hr => by cases hr⟩

theorem ListStep.tidy {t t' : Table String AccessList} (step : ListStep t c t') (bounded : c.Bounded d)
    (h : ∀ k l, t.get? k = some l → l.Tidy) : ∀ k l, t'.get? k = some l → l.Tidy := by
  have known (k : String) (l : AccessList) (hl : l.Tidy) : ((t.get? k).getD l).Tidy := by
    cases hk : t.get? k with
    | none => exact hl
    | some x => exact h k x hk
  intro k l hl
  cases step with
  | new kind name =>
    rw [Table.get?_insertIfNew] at hl
    split at hl
    · cases hl
      exact known name _ (AccessList.tidy_new name _)
    · exact h k l hl
  | numbered append =>
    rw [Table.get?_insert] at hl
    split at hl
    · cases hl
      exact ((known _ _ (AccessList.tidy_new _ _)).append bounded).value append
    · exact h k l hl
  | named hx append =>
    rw [Table.get?_modify] at hl
    split at hl
    · rename_i hk
      rw [hk, hx] at hl
      cases hl
      exact ((h _ _ hx).append bounded).value append
    · exact h k l hl
  | remove name =>
    rw [Table.get?_erase] at hl
    split at hl
    · cases hl
    · exact h k l hl

theorem OspfStep.tidy {names : List String} {o o' : Option OspfConfig} (step : OspfStep names o c o')
    (h : ∀ config, o = some config → config.Tidy) : ∀ config, o' = some config → config.Tidy := by
  intro config hc
  cases step with
  | start process =>
    cases hc
    cases o with
    | none => exact List.Pairwise.nil
    | some config => exact h config rfl
  | stop process => cases hc
  | @statement network wildcard area config' ho single =>
    cases hc
    have tidy := h _ ho
    unfold addOnce
    split
    · exact tidy
    · rename_i unknown
      refine List.pairwise_append.2 ⟨tidy, List.pairwise_singleton _ _, fun m hm n hn => ?_⟩
      rw [List.mem_singleton.1 hn]
      rintro ⟨sameNetwork, sameWildcard⟩
      -- A statement about the same addresses would be in the same area, so it would be this one.
      refine unknown ?_
      have same : m = ⟨network.text, wildcard.text, area⟩ := by
        rw [← single m hm sameNetwork sameWildcard, ← show m.network = network.text from sameNetwork,
          ← show m.wildcard = wildcard.text from sameWildcard]
      exact same ▸ hm
  | noStatement entry ho =>
    cases hc
    exact (h _ ho).sublist List.erase_sublist
  | identify ho =>
    cases hc
    exact (h _ ho :)
  | silence ho known =>
    cases hc
    exact (h _ ho :)

theorem NatStep.tidy {n n' : NatConfig} (step : NatStep n c n') (h : n.Tidy) : n'.Tidy := by
  cases step with
  | fixed free =>
    refine ⟨List.pairwise_append.2 ⟨h.statics, List.pairwise_singleton _ _, fun s hs t ht => ?_⟩,
      h.dynamics, h.pooled, h.ranges⟩
    rw [List.mem_singleton.1 ht]
    exact free s hs
  | dynamic known =>
    refine ⟨h.statics, List.pairwise_append.2 ⟨h.dynamics.filter _, List.pairwise_singleton _ _, ?_⟩, ?_, h.ranges⟩
    · intro e he f hf
      rw [List.mem_singleton.1 hf]
      exact of_decide_eq_true (List.mem_filter.1 he).2
    · intro e he name pool
      rcases List.mem_append.1 he with he | he
      · exact h.pooled e (List.mem_filter.1 he).1 name pool
      · rw [List.mem_singleton.1 he] at pool
        exact known name pool
  | pool ordered =>
    refine ⟨h.statics, h.dynamics, fun e he name pool => Table.mem_keys_insert.2 (Or.inl (h.pooled e he name pool)),
      fun name p hp => ?_⟩
    rw [Table.get?_insert] at hp
    split at hp
    · cases hp
      exact isRange_of_le ordered
    · exact h.ranges name p hp

end Services

/-! ## All features -/

theorem Settings.Tidy.factory (type : DeviceType) (hostname id : String) :
    (Device.factory type hostname id).settings.Tidy where
  ports := fun k f hf => Device.features_factory hf ▸ PortFeatures.tidy_default
  groups := by
    intro k f k' f' group hf hf' member member'
    cases Device.features_factory hf
    cases member
  vlans := by
    intro v name hv
    have one : v = 1 ∧ name = "default" := by
      cases type <;> first | cases hv | skip
      replace hv : (Table.empty.insert (1 : Int) "default").get? v = some name := hv
      rw [Table.get?_insert] at hv
      split at hv
      · rename_i same
        exact ⟨same, (Option.some.inj hv).symm⟩
      · cases hv
    obtain ⟨rfl, rfl⟩ := one
    exact ⟨⟨Int.le_refl 1, by decide⟩, by decide⟩
  lists := fun k l hl => by cases hl
  ospf := fun config hc => by cases hc
  excluded := fun e he => (List.not_mem_nil he).elim
  nat := ⟨List.Pairwise.nil, List.Pairwise.nil, fun e he => (List.not_mem_nil he).elim, fun name p hp => by cases hp⟩
  stp := fun v priority hv => by cases hv

/-- Every command keeps all features tidy. -/
theorem Settings.Tidy.step {d : Device} {c : Command} {s s' : Settings} (h : s.Tidy) (bounded : c.Bounded d)
    (step : s.Step c s') : s'.Tidy where
  ports := step.ofPorts.elim (fun same => same ▸ h.ports) fun step => step.tidy bounded h.ports
  groups := step.ofPorts.elim (fun same => same ▸ h.groups) fun step => step.agree h.groups
  vlans := step.ofVlans.elim (fun same => same ▸ h.vlans) fun step => step.tidy bounded h.vlans
  lists := step.ofLists.elim (fun same => same ▸ h.lists) fun step => step.tidy bounded h.lists
  ospf := step.ofOspf.elim (fun same => same ▸ h.ospf) fun step => step.tidy h.ospf
  excluded := by
    rcases step.ofExcluded with same | ⟨low, high, ordered, same⟩
    · exact same ▸ h.excluded
    · rw [same]
      intro e he
      rcases List.mem_append.1 he with he | he
      · exact h.excluded e he
      · rw [List.mem_singleton.1 he]
        exact isRange_of_le ordered
  nat := step.ofNat.elim (fun same => same ▸ h.nat) fun step => step.tidy h.nat
  stp := step.ofStp.elim (fun same => same ▸ h.stp) fun step => step.tidy bounded h.stp

/-! ## The first VLAN -/

/-- A switch has the first VLAN. -/
def Ports.HasFirst (p : Ports) : Prop := p.isA .switch = true → 1 ∈ p.vlans

theorem Ports.HasFirst.factory (type : DeviceType) (hostname id : String) :
    (Device.factory type hostname id).ports.HasFirst := by
  intro switch
  cases type with
  | switch => exact Table.mem_keys_insert (t := .empty).2 (Or.inr rfl)
  | router => cases switch
  | pc => cases switch

theorem Ports.HasFirst.step {p q : Ports} {focus : Option String} {c : Command} (h : p.HasFirst)
    (step : p.Step focus c q) : q.HasFirst := by
  intro switch
  cases step with
  | vlan vlan => exact mem_withVlan.2 (Or.inl (h switch))
  | accessVlan hi address mode given => exact mem_withVlan.2 (Or.inl (h switch))
  | noVlan other unused => exact List.mem_filter.2 ⟨h switch, by simpa using other.symm⟩
  | _ => exact h switch

/-! ## Devices -/

/-- The features of a device are tidy. -/
structure Device.Tidy (d : Device) : Prop where
  tags : ∀ k i k' i' parent n n' v, d.interfaces.get? k = some i → d.interfaces.get? k' = some i' →
    InterfaceName.split k = .ok (parent, some n) → InterfaceName.split k' = .ok (parent, some n') →
    i.dot1qVlan = some v → i'.dot1qVlan = some v → k = k'
  groups : ∀ k i k' i' group, d.interfaces.get? k = some i → d.interfaces.get? k' = some i' →
    i.channelGroup = some group → i'.channelGroup = some group →
    ∃ m n, i.channelMode = some (.known m) ∧ i'.channelMode = some (.known n) ∧ m.protocol = n.protocol
  ports : ∀ k i, d.interfaces.get? k = some i → i.features.Tidy
  nat : d.nat.Tidy
  excluded : ∀ e ∈ d.dhcpExcluded, IsRange e.1 e.2
  ospf : ∀ config, d.ospf = some config → config.Tidy
  lists : ∀ k l, d.acls.get? k = some l → l.Tidy
  first : d.isA .switch = true → d.vlans.contains 1 = true
  vlans : ∀ v name, d.vlans.get? v = some name → IsVlan v ∧ name.length ≤ 32
  stp : d.stp.Tidy

/-- No two subinterfaces of one port have the same tag. -/
theorem Device.Sound.tags_apart {d : Device} (h : d.Sound) (addressing : d.ports.Addressing) {k k' : String}
    {i i' : Interface} {parent : String} {n n' : Nat} {v : Int} (hi : d.interfaces.get? k = some i)
    (hi' : d.interfaces.get? k' = some i') (sub : InterfaceName.split k = .ok (parent, some n))
    (sub' : InterfaceName.split k' = .ok (parent, some n')) (tag : i.dot1qVlan = some v)
    (tag' : i'.dot1qVlan = some v) : k = k' := by
  cases host : d.isA .pc with
  | true =>
    -- An end host has one port.
    have one := addressing.host host
    rw [Device.keys_ports] at one
    rw [one k (Table.mem_keys_of_get? hi), one k' (Table.mem_keys_of_get? hi')]
  | false =>
    have parents {k : String} {n : Nat} (sub : InterfaceName.split k = .ok (parent, some n)) :
        parent = InterfaceName.parentOf k := congrArg Prod.fst ((InterfaceName.split_meets k).value sub)
    exact (h.tags host k' i' hi').free v tag' k i hi tag ((parents sub).symm.trans (parents sub'))

namespace Topology

/-- The features of all devices are tidy. -/
def Tidy (t : Topology) : Prop := ∀ k d, t.devices.get? k = some d → d.Tidy

/-- However a lab goes on, the features of its devices are tidy. -/
theorem reached_tidy (cs : List Change) : (reached cs).Tidy := by
  intro k d hd
  have sound := (reached_orderly cs).sound.devices k d hd
  have tidy : d.settings.Tidy :=
    reached_settings Settings.Tidy.factory (fun _ _ _ _ _ bounded h s => h.step bounded s) cs hd
  have addressing : d.ports.Addressing :=
    reached_ports Ports.Addressing.factory (fun _ _ _ _ h s => h.step s) cs hd
  have first : d.ports.HasFirst := reached_ports Ports.HasFirst.factory (fun _ _ _ _ h s => h.step s) cs hd
  exact {
    tags := fun _ _ _ _ _ _ _ _ hi hi' sub sub' tag tag' => sound.tags_apart addressing hi hi' sub sub' tag tag'
    groups := fun k i k' i' group hi hi' member member' => tidy.groups k _ k' _ group
      (Device.get?_features_of_get? hi) (Device.get?_features_of_get? hi') member member'
    ports := fun k i hi => tidy.ports k _ (Device.get?_features_of_get? hi)
    nat := tidy.nat
    excluded := tidy.excluded
    ospf := tidy.ospf
    lists := tidy.lists
    first := fun switch => Table.contains_iff.2 (first switch)
    vlans := tidy.vlans
    stp := tidy.stp }

end Topology

end NetRack
