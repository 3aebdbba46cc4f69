import NetRack.Command.Host
import NetRack.Proofs.Name
import NetRack.Proofs.Route
import NetRack.Proofs.Table

/-!
# Sound devices

A device is sound if whatever its records hold can be read by all who read them: its interfaces have
readable names and addresses, its subinterfaces have parents, its routes form a table, and the
addresses in its access lists, OSPF statements and pools are addresses.  On a sound device nothing
that only looks at the interfaces fails.
-/

namespace NetRack

/-- Whether a text is what is written for an address. -/
def IsAddress (s : String) : Prop := ∃ a : Address, s = a.text

theorem IsAddress.read {s : String} (h : IsAddress s) : ∃ a, Address.read s = .ok a := by
  obtain ⟨a, rfl⟩ := h
  exact ⟨a, Address.read_text a⟩

/-! ## Interfaces -/

/-- An interface has neither address nor mask, or both of them as they are written. -/
def Interface.Addressed (i : Interface) : Prop :=
  (i.ip = none ∧ i.mask = none) ∨
    ∃ (a : Address) (n : Nat), n ≤ 32 ∧ i.ip = some a.text ∧ i.mask = some (Address.netmask n).text

/-- What an interface under a key of a table has to be like. -/
structure Interface.Sound (key : String) (i : Interface) : Prop where
  name : i.name = key
  addressed : i.Addressed
  member : ∀ g, i.channelGroup = some g →
    InterfaceName.kindOf key = .physical ∧ ∃ m, i.channelMode = some (.known m)

/-- What a table of interfaces has to be like. -/
structure InterfaceTable (t : Table String Interface) : Prop where
  each : ∀ k i, t.get? k = some i → i.Sound k
  readable : ∀ k ∈ t.keys, InterfaceName.isReadable k = true
  named : ∀ k ∈ t.keys, k ≠ ""
  parents : ∀ k ∈ t.keys, InterfaceName.kindOf k = .subinterface →
    InterfaceName.parentOf k ∈ t.keys ∧ InterfaceName.kindOf (InterfaceName.parentOf k) = .physical
  inhabited : t.keys ≠ []

/-- Whether an interface fits under a key of a table as far as its tag goes: a subinterface with an address
has one, and no other subinterface of its port has the same one. -/
structure Interface.FitsTag (t : Table String Interface) (key : String) (i : Interface) : Prop where
  tagged : InterfaceName.kindOf key = .subinterface → i.hasIp = true → i.dot1qVlan.isSome = true
  free : ∀ v, i.dot1qVlan = some v → ∀ k j, t.get? k = some j → j.dot1qVlan = some v →
    InterfaceName.parentOf k = InterfaceName.parentOf key → k = key

/-- What the tags in a table of interfaces have to be like. -/
def TagTable (t : Table String Interface) : Prop := ∀ k i, t.get? k = some i → i.FitsTag t k

namespace Interface

/-- The network that an interface is in, if it can be read. -/
def net (i : Interface) : Option Network := i.network?.toOption.getD none

namespace Addressed

variable {i : Interface}

theorem cases_of (h : i.Addressed) :
    (i.addressing? = none ∧ i.network? = .ok none ∧ i.hasIp = false) ∨
      ∃ (a : Address) (n : Nat), n ≤ 32 ∧ i.ip = some a.text ∧ i.mask = some (Address.netmask n).text ∧
        i.addressing? = some (a.text, (Address.netmask n).text) ∧
        i.network? = .ok (some (.around a n)) ∧ i.hasIp = true := by
  rcases h with ⟨hip, hmask⟩ | ⟨a, n, hn, hip, hmask⟩
  · have hnone : i.addressing? = none := by simp [addressing?, hip, Text.present?]
    refine Or.inl ⟨hnone, ?_, ?_⟩
    · simp [network?, hnone]
    · simp [hasIp, hnone]
  · have hsome : i.addressing? = some (a.text, (Address.netmask n).text) := by
      simp [addressing?, hip, hmask, Text.present?]
    refine Or.inr ⟨a, n, hn, hip, hmask, hsome, ?_, ?_⟩
    · simp [network?, hsome, networkOf, Network.readAround_text a hn]
    · simp [hasIp, hsome]

theorem network?_eq (h : i.Addressed) : i.network? = .ok i.net := by
  rcases h.cases_of with ⟨-, hnet, -⟩ | ⟨a, n, -, -, -, -, hnet, -⟩ <;> rw [net, hnet] <;> rfl

theorem net_short (h : i.Addressed) {n : Network} (hn : i.net = some n) : n.length ≤ 32 := by
  rcases h.cases_of with ⟨-, hnet, -⟩ | ⟨a, m, hm, -, -, -, hnet, -⟩
  · rw [net, hnet] at hn
    cases hn
  · rw [net, hnet] at hn
    cases hn
    exact hm

theorem net_isSome (h : i.Addressed) : i.net.isSome = i.hasIp := by
  rcases h.cases_of with ⟨-, hnet, hip⟩ | ⟨a, n, -, -, -, -, hnet, hip⟩ <;> rw [net, hnet, hip] <;> rfl

theorem ip_of_hasIp (h : i.Addressed) (hi : i.hasIp = true) : ∃ a : Address, i.ip = some a.text := by
  rcases h.cases_of with ⟨-, -, hip⟩ | ⟨a, n, -, hip, -⟩
  · rw [hip] at hi
    cases hi
  · exact ⟨a, hip⟩

theorem eq_none_of_not_hasIp (h : i.Addressed) (hi : i.hasIp = false) : i.ip = none ∧ i.mask = none := by
  rcases h with hnone | ⟨a, n, -, hip, hmask⟩
  · exact hnone
  · simp [hasIp, addressing?, hip, hmask, Text.present?] at hi

theorem ip_cases (h : i.Addressed) : i.ip = none ∨ ∃ a : Address, i.ip = some a.text := by
  rcases h with ⟨hip, -⟩ | ⟨a, n, -, hip, -⟩
  · exact Or.inl hip
  · exact Or.inr ⟨a, hip⟩

end Addressed

end Interface

/-! ## Other records -/

/-- The addresses of a rule can be read. -/
structure AclRule.Readable (r : AclRule) : Prop where
  source : IsAddress r.source
  sourceWildcard : IsAddress r.sourceWildcard
  destination : IsAddress r.destination
  destinationWildcard : IsAddress r.destinationWildcard

/-- The addresses of a statement can be read. -/
structure OspfNetwork.Readable (n : OspfNetwork) : Prop where
  network : IsAddress n.network
  wildcard : IsAddress n.wildcard

/-- The network of a pool can be read. -/
def DhcpPool.Readable (p : DhcpPool) : Prop :=
  p.network = none ∨
    ∃ n : Network, n.length ≤ 32 ∧ p.network = some n.base.text ∧ p.mask = some n.mask.text

/-- Every rule of every access list can be read. -/
def ReadableLists (acls : Table String AccessList) : Prop :=
  ∀ k l, acls.get? k = some l → ∀ r ∈ l.rules, r.Readable

/-- Every pool can be read. -/
def ReadablePools (pools : Table String DhcpPool) : Prop := ∀ k p, pools.get? k = some p → p.Readable

/-- Whatever the records of a device hold can be read.  OSPF runs on routers only, and the tags of
subinterfaces are as they should be wherever interfaces are configured. -/
structure Device.Sound (d : Device) : Prop where
  typed : ∃ t, d.type = .known t
  interfaces : InterfaceTable d.interfaces
  routes : RouteTable d.routes
  lists : ReadableLists d.acls
  statements : ∀ c, d.ospf = some c → ∀ n ∈ c.networks, n.Readable
  pools : ReadablePools d.dhcpPools
  process : d.ospf.isSome = true → d.isA .router = true
  tags : d.isA .pc = false → TagTable d.interfaces

/-- Where the console is does not matter. -/
theorem Device.Sound.with_mode {d : Device} (h : d.Sound) (mode : Mode) : { d with mode }.Sound :=
  ⟨h.typed, h.interfaces, h.routes, h.lists, h.statements, h.pools, h.process, h.tags⟩

/-- An interface is replaced by what comes of it. -/
theorem Device.modifyInterface_at {d : Device} {key : String} {i : Interface} (hi : d.interfaces.get? key = some i)
    (f : Interface → Interface) : d.modifyInterface key f = d.modifyInterface key fun _ => f i := by
  unfold Device.modifyInterface
  rw [Table.modify_at hi f]

/-- A device is of one type. -/
theorem Device.isA_of_ne {d : Device} {a b : DeviceType} (h : d.isA a = true) (hne : a ≠ b) : d.isA b = false := by
  unfold Device.isA Stored.holds at h ⊢
  rw [of_decide_eq_true h]
  simpa using hne

theorem matchesWildcard_yields {base wildcard ip : String} (hb : IsAddress base)
    (hw : IsAddress wildcard) (hi : IsAddress ip) :
    Yields (fun _ => True) (matchesWildcard base wildcard ip) := by
  obtain ⟨b, rfl⟩ := hb
  obtain ⟨w, rfl⟩ := hw
  obtain ⟨a, rfl⟩ := hi
  unfold matchesWildcard
  rw [Address.read_text, Address.read_text, Address.read_text]
  trivial

/-! ## Tables of tags -/

/-- An interface without address and tag fits everywhere. -/
theorem Interface.FitsTag.of_plain {t : Table String Interface} {key : String} {i : Interface}
    (hip : i.hasIp = false) (htag : i.dot1qVlan = none) : i.FitsTag t key where
  tagged := by
    intro _ h
    rw [hip] at h
    cases h
  free := by
    intro v hv
    rw [htag] at hv
    cases hv

namespace TagTable

variable {t t' : Table String Interface} (h : TagTable t)

include h

/-- An interface that has got neither an address nor another tag still fits. -/
theorem fits {key : String} {i j : Interface} (hi : t.get? key = some i)
    (hip : j.hasIp = true → i.hasIp = true) (htag : j.dot1qVlan = i.dot1qVlan) : j.FitsTag t key where
  tagged := by
    rw [htag]
    exact fun hk hj => (h key i hi).tagged hk (hip hj)
  free := by
    rw [htag]
    exact (h key i hi).free

/-- One interface is put in place of another, or is new. -/
theorem put {key : String} {j : Interface} (hj : j.FitsTag t key)
    (same : ∀ k x, t'.get? k = some x → k = key ∧ x = j ∨ t.get? k = some x) : TagTable t' := by
  intro k x hx
  rcases same k x hx with ⟨rfl, rfl⟩ | hold
  · refine ⟨hj.tagged, fun v hv k' y hy hyv hparent => ?_⟩
    rcases same k' y hy with ⟨rfl, -⟩ | hy
    · rfl
    · exact hj.free v hv k' y hy hyv hparent
  · refine ⟨(h k x hold).tagged, fun v hv k' y hy hyv hparent => ?_⟩
    rcases same k' y hy with ⟨rfl, rfl⟩ | hy
    · exact (hj.free v hyv k x hold hv hparent.symm).symm
    · exact (h k x hold).free v hv k' y hy hyv hparent

/-- No interface has got an address or another tag. -/
theorem congr (same : ∀ k x, t'.get? k = some x →
    ∃ i, t.get? k = some i ∧ (x.hasIp = true → i.hasIp = true) ∧ x.dot1qVlan = i.dot1qVlan) : TagTable t' := by
  intro k x hx
  obtain ⟨i, hi, hip, htag⟩ := same k x hx
  refine ⟨(h.fits hi hip htag).tagged, fun v hv k' y hy hyv hparent => ?_⟩
  obtain ⟨i', hi', -, htag'⟩ := same k' y hy
  exact (h k i hi).free v (htag ▸ hv) k' i' hi' (htag' ▸ hyv) hparent

end TagTable

/-! ## Looking at the interfaces of a sound device -/

namespace InterfaceTable

variable {t : Table String Interface} (h : InterfaceTable t) {k : String} {i : Interface}

include h

theorem name_eq (hi : t.get? k = some i) : i.name = k := (h.each k i hi).name

theorem readable_of_get? (hi : t.get? k = some i) : InterfaceName.isReadable k = true :=
  h.readable k (Table.mem_keys_of_get? hi)

theorem kind_eq (hi : t.get? k = some i) : i.kind = .ok (InterfaceName.kindOf k) := by
  unfold Interface.kind
  rw [h.name_eq hi]
  exact InterfaceName.kind_of_readable (h.readable_of_get? hi)

theorem split_eq (hi : t.get? k = some i) :
    InterfaceName.split i.name = .ok (InterfaceName.parentOf k, InterfaceName.subOf k) := by
  rw [h.name_eq hi]
  exact InterfaceName.split_of_readable (h.readable_of_get? hi)

theorem get?_of_mem_values (hi : i ∈ t.values) : t.get? i.name = some i := by
  obtain ⟨k, hk⟩ := Table.mem_values.1 hi
  rw [h.name_eq hk]
  exact hk

end InterfaceTable

namespace Device

/-- The entries of the interface table in the order of their names, if those can be read. -/
def ordered (d : Device) : List (String × Interface) :=
  sortBy (fun a b => (compare (InterfaceName.sortKey a.1) (InterfaceName.sortKey b.1)).isLE)
    d.interfaces.entries

theorem mem_ordered {d : Device} {k : String} {i : Interface} :
    (k, i) ∈ d.ordered ↔ d.interfaces.get? k = some i := by
  rw [Table.get?_eq_some]
  exact mem_sortBy

theorem mem_ordered_values {d : Device} (h : InterfaceTable d.interfaces) {i : Interface} :
    i ∈ d.ordered.map Prod.snd ↔ d.interfaces.get? i.name = some i := by
  constructor
  · intro hi
    obtain ⟨⟨k, j⟩, hmem, rfl⟩ := List.mem_map.1 hi
    have hget := mem_ordered.1 hmem
    rw [h.name_eq hget]
    exact hget
  · intro hi
    exact List.mem_map.2 ⟨(i.name, i), mem_ordered.2 hi, rfl⟩

theorem sortedEntries_eq {d : Device} (h : ∀ k ∈ d.interfaces.keys, InterfaceName.isSortable k = true) :
    d.sortedEntries = .ok d.ordered := by
  have keyed : (d.interfaces.entries.mapM fun e => do return (← InterfaceName.readSortKey e.1, e)) =
      .ok (d.interfaces.entries.map fun e => (InterfaceName.sortKey e.1, e)) := by
    refine mapM_ok fun e he => ?_
    have hsort := h e.1 (Table.mem_keys_of_mem (v := e.2) he)
    unfold InterfaceName.readSortKey
    rw [if_pos hsort]
    rfl
  unfold sortedEntries
  rw [keyed, ok_bind, sortBy_map]
  simp only [List.map_map]
  exact congrArg Except.ok (List.map_id _)

theorem sortedEntries_of_table {d : Device} (h : InterfaceTable d.interfaces) :
    d.sortedEntries = .ok d.ordered :=
  sortedEntries_eq fun k hk => InterfaceName.sortable_of_readable (h.readable k hk)

theorem sortedInterfaces_of_table {d : Device} (h : InterfaceTable d.interfaces) :
    d.sortedInterfaces = .ok (d.ordered.map Prod.snd) := by
  unfold sortedInterfaces
  rw [sortedEntries_of_table h]
  rfl

section Mapped

variable {d d' : Device} {f : Interface → Interface}
  (h : d'.interfaces = d.interfaces.mapValues fun _ i => f i)

include h

/-- The order of interfaces is told by their names. -/
theorem sortedEntries_map : d'.sortedEntries = List.map (fun e => (e.1, f e.2)) <$> d.sortedEntries := by
  have keyed := mapM_map_of (f := fun e : String × Interface => do
      return (← InterfaceName.readSortKey e.1, e))
    (p := fun e : String × Interface => do return (← InterfaceName.readSortKey e.1, e))
    (g := fun e => (e.1, f e.2)) (q := fun e => (e.1, e.2.1, f e.2.2))
    (fun e => by cases InterfaceName.readSortKey e.1 <;> rfl) d.interfaces.entries
  unfold sortedEntries
  rw [h, Table.entries_mapValues, keyed]
  cases d.interfaces.entries.mapM fun e : String × Interface => do
      return (← InterfaceName.readSortKey e.1, e) with
  | error f => rfl
  | ok es =>
    simp only [map_ok, ok_bind, pure_eq_ok, sortBy_map, List.map_map]
    rfl

theorem sortedInterfaces_map : d'.sortedInterfaces = List.map f <$> d.sortedInterfaces := by
  unfold sortedInterfaces
  rw [sortedEntries_map h]
  cases d.sortedEntries with
  | error f => rfl
  | ok es =>
    simp only [map_ok, ok_bind, pure_eq_ok, List.map_map]
    rfl

end Mapped

end Device

/-! ## Devices from the factory -/

theorem factoryPorts_readable (type : DeviceType) :
    ∀ p ∈ Device.factoryPorts type, InterfaceName.isReadable p.1 = true ∧ p.1 ≠ "" ∧
      InterfaceName.kindOf p.1 = .physical := by
  cases type <;> decide +kernel

theorem factory_interface_sound {id name : String} {mode : PortMode} :
    (Interface.factory id name mode).Sound name where
  name := rfl
  addressed := Or.inl ⟨rfl, rfl⟩
  member := by
    intro g hg
    cases hg

theorem mem_factory_keys {type : DeviceType} {hostname id k : String} :
    k ∈ (Device.factory type hostname id).interfaces.keys ↔ ∃ p ∈ Device.factoryPorts type, p.1 = k := by
  rw [Device.factory, Table.mem_keys_ofList, List.map_map, List.mem_map]
  rfl

/-- The interfaces of a new device are physical and do not work. -/
theorem factory_interface {type : DeviceType} {hostname id k : String} {i : Interface}
    (hi : (Device.factory type hostname id).interfaces.get? k = some i) :
    i.Sound k ∧ i.operUp = false ∧ InterfaceName.kindOf k = .physical := by
  obtain ⟨p, hmem, hp⟩ := List.mem_map.1 (Table.mem_of_get?_ofList hi)
  obtain ⟨rfl, rfl⟩ := Prod.mk.inj hp
  exact ⟨factory_interface_sound, rfl, (factoryPorts_readable type p hmem).2.2⟩

theorem factory_interfaces (type : DeviceType) (hostname id : String) :
    InterfaceTable (Device.factory type hostname id).interfaces where
  each := fun k i hi => (factory_interface hi).1
  readable := by
    intro k hk
    obtain ⟨p, hp, rfl⟩ := mem_factory_keys.1 hk
    exact (factoryPorts_readable type p hp).1
  named := by
    intro k hk
    obtain ⟨p, hp, rfl⟩ := mem_factory_keys.1 hk
    exact (factoryPorts_readable type p hp).2.1
  parents := by
    intro k hk hsub
    obtain ⟨p, hp, rfl⟩ := mem_factory_keys.1 hk
    rw [(factoryPorts_readable type p hp).2.2] at hsub
    cases hsub
  inhabited := by
    have some_port : ∃ p, p ∈ Device.factoryPorts type := by
      cases type
      · exact ⟨_, List.mem_cons_self⟩
      · exact ⟨_, List.mem_append_right _ List.mem_cons_self⟩
      · exact ⟨_, List.mem_cons_self⟩
    obtain ⟨p, hp⟩ := some_port
    exact List.ne_nil_of_mem (mem_factory_keys.2 ⟨p, hp, rfl⟩)

/-- A device is sound as it leaves the factory. -/
theorem factory_sound (type : DeviceType) (hostname id : String) :
    (Device.factory type hostname id).Sound where
  typed := ⟨type, rfl⟩
  interfaces := factory_interfaces type hostname id
  routes := RouteTable.nil
  lists := by
    intro k l hl
    cases hl
  statements := by
    intro c hc
    cases hc
  pools := by
    intro k p hp
    cases hp
  process := by
    intro hospf
    cases hospf
  tags := by
    intro _ k i hi
    obtain ⟨p, -, hp⟩ := List.mem_map.1 (Table.mem_of_get?_ofList hi)
    obtain ⟨-, rfl⟩ := Prod.mk.inj hp
    exact .of_plain rfl rfl

end NetRack
