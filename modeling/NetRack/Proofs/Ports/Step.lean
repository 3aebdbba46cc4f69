import NetRack.Proofs.Frame.Interface

/-!
# Ports

The ports of a device are its interfaces, apart from what propagation derives, with its type and the numbers
of its VLANs.  Few commands change them, and what each makes of them is said here once, as a step from ports
to ports.
-/

namespace NetRack

/-! ## Ports -/

/-- A type of device, interfaces, and the numbers of VLANs. -/
structure Ports where
  type : Stored DeviceType
  interfaces : Table String Interface
  vlans : List Int

/-- The ports of a device. -/
def Device.ports (d : Device) : Ports := ⟨d.type, d.frame.interfaces, d.vlans.keys⟩

/-- Whether ports are those of a device of a type. -/
def Ports.isA (p : Ports) (type : DeviceType) : Bool := p.type.holds type

namespace Device

variable {d d' : Device}

theorem ports_of_frame (h : d'.frame = d.frame) : d'.ports = d.ports := by
  have type : d'.type = d.type := congrArg (·.type) h
  have vlans : d'.vlans = d.vlans := congrArg (·.vlans) h
  unfold ports
  rw [type, vlans, h]

theorem ports_with_interfaces (d : Device) (interfaces : Table String Interface) :
    ({ d with interfaces } : Device).ports =
      { d.ports with interfaces := interfaces.mapValues fun _ => Interface.frame } := rfl

theorem ports_with_vlans (d : Device) (vlans : Table Int String) :
    ({ d with vlans } : Device).ports = { d.ports with vlans := vlans.keys } := rfl

theorem get?_ports (d : Device) (k : String) :
    d.ports.interfaces.get? k = (d.interfaces.get? k).map Interface.frame := get?_frame d k

theorem keys_ports (d : Device) : d.ports.interfaces.keys = d.interfaces.keys := Table.keys_mapValues ..

end Device

/-! ## Steps -/

namespace Interface

/-- Interfaces agree in their addresses. -/
structure SameAddress (i j : Interface) : Prop where
  ip : j.ip = i.ip
  mask : j.mask = i.mask

/-- Interfaces agree in how they take part in switching, as far as it goes for one VLAN. -/
structure SameSwitching (i j : Interface) : Prop where
  mode : j.mode = i.mode
  accessVlan : j.accessVlan = i.accessVlan

end Interface

namespace Ports

/-- Ports with another interface in the place of one. -/
def put (p : Ports) (key : String) (j : Interface) : Ports :=
  { p with interfaces := p.interfaces.modify key fun _ => j }

/-- Ports with a VLAN, which is new unless it is there. -/
def withVlan (p : Ports) (vlan : Int) : Ports :=
  { p with vlans := if vlan ∈ p.vlans then p.vlans else p.vlans ++ [vlan] }

section Changed

variable {p : Ports} {key k : String} {i j x : Interface} {vlan v : Int}

theorem of_get?_put (h : (p.put key j).interfaces.get? k = some x) :
    (k = key ∧ x = j) ∨ (k ≠ key ∧ p.interfaces.get? k = some x) := by
  unfold put at h
  dsimp only at h
  rw [Table.get?_modify] at h
  split at h
  · obtain ⟨i, -, rfl⟩ := Option.map_eq_some_iff.1 h
    exact Or.inl ⟨‹_›, rfl⟩
  · exact Or.inr ⟨‹_›, h⟩

theorem keys_put (p : Ports) (key : String) (j : Interface) :
    (p.put key j).interfaces.keys = p.interfaces.keys := Table.keys_modify ..

theorem mem_withVlan : v ∈ (p.withVlan vlan).vlans ↔ v ∈ p.vlans ∨ v = vlan := by
  unfold withVlan
  dsimp only
  split
  · refine ⟨Or.inl, fun h => h.elim id fun hv => ?_⟩
    rwa [hv]
  · simp

/-- An interface of a table with a port channel, one of whose interfaces has been changed, was there or is the
port channel, as it was or as it has been changed. -/
theorem of_get?_channel {t : Table String Interface} {channel : String} {new : Interface}
    {f : Interface → Interface} (h : ((t.insertIfNew channel new).modify key f).get? k = some x) :
    ∃ y, (x = y ∨ x = f y) ∧ (t.get? k = some y ∨ k = channel ∧ y = new) := by
  have found {y : Interface} (hy : (t.insertIfNew channel new).get? k = some y) :
      t.get? k = some y ∨ k = channel ∧ y = new := by
    unfold Table.insertIfNew at hy
    split at hy
    · exact Or.inl hy
    · rw [Table.get?_insert] at hy
      split at hy
      · exact Or.inr ⟨‹_›, (Option.some.inj hy).symm⟩
      · exact Or.inl hy
  rw [Table.get?_modify] at h
  split at h
  · obtain ⟨y, hy, rfl⟩ := Option.map_eq_some_iff.1 h
    exact ⟨y, Or.inr rfl, found hy⟩
  · exact ⟨x, Or.inl rfl, found h⟩

end Changed

/-- What a command makes of ports, given the interface that is under configuration. -/
inductive Step (p : Ports) (focus : Option String) : Command → Ports → Prop where
  | same (c : Command) : p.Step focus c p
  | interface {raw name : String} {i : Interface} (written : InterfaceName.normalize? raw = some name)
      (host : p.isA .pc = false) (new : name ∉ p.interfaces.keys)
      (virtual : InterfaceName.kindOf name ≠ .physical) (ip : i.ip = none) (mask : i.mask = none)
      (access : i.mode.holds .access = true → p.isA .switch = true ∧ i.accessVlan = 1)
      (noTrunk : i.mode.holds .trunk = false) :
      p.Step focus (.global (.interface name)) { p with interfaces := p.interfaces.insert name i }
  | vlan (vlan : Int) : p.Step focus (.global (.vlan vlan)) (p.withVlan vlan)
  | noVlan {vlan : Int} (other : vlan ≠ 1)
      (unused : ∀ k i, p.interfaces.get? k = some i → i.mode.holds .access = true → i.accessVlan ≠ vlan) :
      p.Step focus (.global (.noVlan vlan)) { p with vlans := p.vlans.filter (· ≠ vlan) }
  | set {c : Command} {key : String} {i j : Interface} (hi : p.interfaces.get? key = some i)
      (address : i.SameAddress j) (switching : i.SameSwitching j) : p.Step focus c (p.put key j)
  | noAddress {c : Command} {key : String} {i j : Interface} (hi : p.interfaces.get? key = some i)
      (ip : j.ip = none) (mask : j.mask = none) (switching : i.SameSwitching j) : p.Step focus c (p.put key j)
  | address {c : Command} {key : String} {i j : Interface} {a : Address} {n : Nat}
      (hi : p.interfaces.get? key = some i) (short : n ≤ 32) (ip : j.ip = some a.text)
      (mask : j.mask = some (Address.netmask n).text) (free : isReserved (.around a n) a = false)
      (apart : p.isA .pc = false → ∀ k x m, p.interfaces.get? k = some x → k ≠ key → x.net = some m →
        m.overlaps (.around a n) = false)
      (routed : p.isA .switch = true →
        InterfaceName.kindOf key ≠ .physical ∧ InterfaceName.kindOf key ≠ .portChannel)
      (switching : i.SameSwitching j) : p.Step focus c (p.put key j)
  | mode {mode : PortMode} {key : String} {i j : Interface} (focused : focus = some key)
      (hi : p.interfaces.get? key = some i) (switch : p.isA .switch = true)
      (kind : InterfaceName.kindOf key = .physical ∨ InterfaceName.kindOf key = .portChannel)
      (address : i.SameAddress j) (given : j.mode = .known mode) (accessVlan : j.accessVlan = i.accessVlan) :
      p.Step focus (.interface (.switchportMode mode)) (p.put key j)
  | accessVlan {vlan : Int} {key : String} {i j : Interface} (hi : p.interfaces.get? key = some i)
      (address : i.SameAddress j) (mode : j.mode = i.mode) (given : j.accessVlan = vlan) :
      p.Step focus (.interface (.switchportAccessVlan vlan)) ((p.put key j).withVlan vlan)
  | channel {group : Int} {mode : ChannelMode} {key : String} {i new : Interface} {f : Interface → Interface}
      (low : 1 ≤ group) (high : group ≤ 64) (host : p.isA .pc = false) (hi : p.interfaces.get? key = some i)
      (ip : new.ip = none) (mask : new.mask = none) (copied : i.SameSwitching new)
      (address : ∀ x : Interface, x.SameAddress (f x)) (switching : ∀ x : Interface, x.SameSwitching (f x)) :
      p.Step focus (.interface (.channelGroup group mode))
        { p with interfaces := (p.interfaces.insertIfNew (InterfaceName.ofGroup group) new).modify key f }

/-- A name may come to the interfaces of a device: one that was asked for or that of a channel group, and not
that of a physical port. -/
structure MayGain (p : Ports) (name : String) : Prop where
  host : p.isA .pc = false
  virtual : InterfaceName.kindOf name ≠ .physical
  written : (∃ raw, InterfaceName.normalize? raw = some name) ∨ ∃ group, 1 ≤ group ∧ name = InterfaceName.ofGroup group

/-- The type stays as it is, and so do the names of interfaces but for one that may come. -/
theorem Step.names {p q : Ports} {focus : Option String} {c : Command} (s : p.Step focus c q) :
    q.type = p.type ∧ ∀ k ∈ q.interfaces.keys, k ∈ p.interfaces.keys ∨ p.MayGain k := by
  have put (key : String) (j : Interface) : (p.put key j).type = p.type ∧
      ∀ k ∈ (p.put key j).interfaces.keys, k ∈ p.interfaces.keys ∨ p.MayGain k :=
    ⟨rfl, fun k hk => Or.inl (keys_put p key j ▸ hk)⟩
  cases s with
  | same => exact ⟨rfl, fun k hk => Or.inl hk⟩
  | interface written host new virtual =>
    refine ⟨rfl, fun k hk => ?_⟩
    rcases Table.mem_keys_insert.1 hk with hk | rfl
    · exact Or.inl hk
    · exact Or.inr ⟨host, virtual, Or.inl ⟨_, written⟩⟩
  | vlan => exact ⟨rfl, fun k hk => Or.inl hk⟩
  | noVlan => exact ⟨rfl, fun k hk => Or.inl hk⟩
  | set => exact put ..
  | noAddress => exact put ..
  | address => exact put ..
  | mode => exact put ..
  | accessVlan => exact put ..
  | channel low high host =>
    refine ⟨rfl, fun k hk => ?_⟩
    dsimp only at hk
    rw [Table.keys_modify] at hk
    unfold Table.insertIfNew at hk
    split at hk
    · exact Or.inl hk
    · rcases Table.mem_keys_insert.1 hk with hk | rfl
      · exact Or.inl hk
      · refine Or.inr ⟨host, ?_, Or.inr ⟨_, low, rfl⟩⟩
        rw [(InterfaceName.ofGroup_readable low high).2]
        decide

end Ports

/-! ## Changes of a device -/

section Tables

variable {d : Device} {key : String} {i : Interface}

theorem isA_ports (d : Device) (type : DeviceType) : d.ports.isA type = d.isA type := rfl

theorem ports_put (d : Device) (key : String) (j : Interface) :
    (d.modifyInterface key fun _ => j).ports = d.ports.put key j.frame := by
  unfold Device.ports
  rw [Device.frame_modifyInterface (g := fun _ => j.frame) fun _ => rfl]
  rfl

theorem ports_ensureVlan (d : Device) (vlan : Int) : (d.ensureVlan vlan).1.ports = d.ports.withVlan vlan := by
  unfold Device.ensureVlan Ports.withVlan Device.ports
  by_cases known : vlan ∈ d.vlans.keys
  · rw [if_pos (Table.contains_iff.2 known), if_pos known]
  · rw [if_neg (by rwa [Table.contains_iff]), if_neg known]
    simp only [Table.keys_insert, if_neg known]
    rfl

theorem get?_ports_of_get? (hi : d.interfaces.get? key = some i) : d.ports.interfaces.get? key = some i.frame := by
  rw [Device.get?_ports, hi]
  rfl

theorem get?_of_get?_ports {x : Interface} (hx : d.ports.interfaces.get? key = some x) :
    ∃ i, d.interfaces.get? key = some i ∧ i.frame = x := by
  rw [Device.get?_ports] at hx
  exact Option.map_eq_some_iff.1 hx

theorem ports_joined {f : Interface → Interface} (hf : ∀ i, (f i).frame = f i.frame) (key channel : String)
    (new : Interface) :
    (({ d with interfaces := d.interfaces.insertIfNew channel new } : Device).modifyInterface key f).ports =
      { d.ports with interfaces := (d.ports.interfaces.insertIfNew channel new.frame).modify key f } := by
  unfold Device.ports
  rw [frame_joined hf]
  rfl

end Tables

end NetRack
