import NetRack.Proofs.Ports.Line

/-!
# Ports without their VLAN

A port of a switch in access mode is stranded if the switch does not have its access VLAN.  A VLAN that a port
in access mode is in cannot be deleted, and one that a port is given is created.  But a trunk keeps its access
VLAN, which may be deleted meanwhile, and a port that is no trunk any more is in that VLAN again.  This is the
only way in which a port is stranded.
-/

namespace NetRack

open Console

/-! ## Stranded ports -/

/-- An interface takes part in switching, as a port or as a port channel. -/
def Interface.IsSwitchport (i : Interface) : Prop := i.kind = .ok .physical ∨ i.kind = .ok .portChannel

/-- A switch does not have the access VLAN of one of its ports. -/
structure Device.Lacks (d : Device) (key : String) (i : Interface) : Prop where
  switch : d.isA .switch = true
  port : d.interfaces.get? key = some i
  kind : i.IsSwitchport
  missing : d.vlans.contains i.accessVlan = false

/-- A port of a switch is configured where the console is at it. -/
theorem currentSwitchport_eq {d : Device} {key : String} {i : Interface} (switch : d.isA .switch = true)
    (focus : d.context.interface = some key) (port : d.interfaces.get? key = some i) (kind : i.IsSwitchport) :
    currentSwitchport d = .ok (key, i) := by
  have required : Outcome.requireSwitch d = .ok () := by
    unfold Outcome.requireSwitch
    rw [switch]
    rfl
  unfold currentSwitchport
  rw [required, currentInterface_eq focus port]
  simp only [ok_bind]
  rcases kind with kind | kind <;> rw [kind] <;> rfl

namespace Topology

/-- A port of some switch is in access mode, in a VLAN that the switch does not have. -/
def Strands (t : Topology) : Prop :=
  ∃ k d key i, t.devices.get? k = some d ∧ d.Lacks key i ∧ i.mode.holds .access = true

/-- A line puts a port into access mode although its switch does not have its access VLAN. -/
inductive Readmits (t : Topology) : Change → Prop where
  | line {explainer : Option Explainer} {device line key : String} {d : Device} {i : Interface}
      (hd : t.device device = .ok d) (asks : Asks d line (.interface (.switchportMode .access)))
      (focus : d.context.interface = some key) (lacks : d.Lacks key i) :
      t.Readmits (.command explainer device line)

end Topology

/-! ## What steps keep -/

/-- Every interface in access mode is in a VLAN that is there, and a switch has the first one. -/
structure Ports.Housed (p : Ports) : Prop where
  access : ∀ k i, p.interfaces.get? k = some i → i.mode.holds .access = true → i.accessVlan ∈ p.vlans
  first : p.isA .switch = true → 1 ∈ p.vlans

namespace Ports.Housed

variable {p q : Ports} {focus : Option String} {c : Command} {key : String} {i j : Interface}

/-- Ports of a new device are in the first VLAN. -/
theorem factory (type : DeviceType) (hostname id : String) : (Device.factory type hostname id).ports.Housed := by
  have first (switch : type = .switch) : 1 ∈ (Device.factory type hostname id).ports.vlans := by
    rw [switch]
    show (1 : Int) ∈ (Table.empty.insert (1 : Int) "default").keys
    exact Table.mem_keys_insert.2 (Or.inr rfl)
  have accessPort : ∀ port ∈ Device.factoryPorts type, port.2 = .access → type = .switch := by
    cases type <;> decide
  refine ⟨fun k i hi access => ?_, fun switch => first (Stored.known.inj (of_decide_eq_true switch))⟩
  obtain ⟨x, hx, rfl⟩ := get?_of_get?_ports hi
  obtain ⟨port, hport, heq⟩ := List.mem_map.1 (Table.mem_of_get?_ofList hx)
  obtain ⟨rfl, rfl⟩ := Prod.mk.inj heq
  exact first (accessPort port hport (Stored.known.inj (of_decide_eq_true access)))

/-- A step from ports that are housed comes to such ports, unless a port is readmitted. -/
theorem step (h : p.Housed) (s : p.Step focus c q)
    (calm : ∀ key i, c = .interface (.switchportMode .access) → focus = some key → p.isA .switch = true →
      (InterfaceName.kindOf key = .physical ∨ InterfaceName.kindOf key = .portChannel) →
      p.interfaces.get? key = some i → i.accessVlan ∈ p.vlans) : q.Housed := by
  have put {key : String} {i j : Interface} (hi : p.interfaces.get? key = some i)
      (same : i.SameSwitching j) : (p.put key j).Housed := by
    refine ⟨fun k x hx access => ?_, h.first⟩
    rcases of_get?_put hx with ⟨rfl, rfl⟩ | ⟨-, hx⟩
    · rw [same.accessVlan]
      exact h.access k i hi (same.mode ▸ access)
    · exact h.access k x hx access
  cases s with
  | same => exact h
  | interface written host new virtual ip mask given =>
    refine ⟨fun k x hx access => ?_, h.first⟩
    rw [Table.get?_insert] at hx
    split at hx
    · cases hx
      obtain ⟨switch, hv⟩ := given access
      rw [hv]
      exact h.first switch
    · exact h.access k x hx access
  | vlan vlan =>
    exact ⟨fun k x hx access => mem_withVlan.2 (Or.inl (h.access k x hx access)),
      fun switch => mem_withVlan.2 (Or.inl (h.first switch))⟩
  | noVlan other unused =>
    refine ⟨fun k x hx access => ?_, fun switch => ?_⟩
    · exact List.mem_filter.2 ⟨h.access k x hx access, by simpa using unused k x hx access⟩
    · exact List.mem_filter.2 ⟨h.first switch, by simpa using other.symm⟩
  | set hi _ switching => exact put hi switching
  | noAddress hi _ _ switching => exact put hi switching
  | address hi _ _ _ _ _ _ switching => exact put hi switching
  | mode focused hi switch kind _ given accessVlan =>
    refine ⟨fun k x hx access => ?_, h.first⟩
    rcases of_get?_put hx with ⟨rfl, rfl⟩ | ⟨-, hx⟩
    · rw [given] at access
      obtain rfl := Stored.known.inj (of_decide_eq_true access)
      rw [accessVlan]
      exact calm k _ rfl focused switch kind hi
    · exact h.access k x hx access
  | accessVlan hi _ mode given =>
    refine ⟨fun k x hx access => mem_withVlan.2 ?_, fun switch => mem_withVlan.2 (Or.inl (h.first switch))⟩
    rcases of_get?_put hx with ⟨rfl, rfl⟩ | ⟨-, hx⟩
    · exact Or.inr given
    · exact Or.inl (h.access k x hx access)
  | channel low high host hi ip mask copied address switching =>
    refine ⟨fun k x hx access => ?_, h.first⟩
    obtain ⟨y, hxy, hy⟩ := of_get?_channel hx
    -- The port channel, if it is new, is in the VLAN of the port.
    have housed (access : y.mode.holds .access = true) : y.accessVlan ∈ p.vlans := by
      rcases hy with hy | ⟨-, rfl⟩
      · exact h.access k y hy access
      · rw [copied.accessVlan]
        exact h.access _ _ hi (copied.mode ▸ access)
    rcases hxy with rfl | rfl
    · exact housed access
    · rw [(switching y).accessVlan]
      exact housed ((switching y).mode ▸ access)

end Ports.Housed

/-! ## Histories -/

namespace Topology

/-- The ports of all devices are housed. -/
def Housed (t : Topology) : Prop := ∀ k d, t.devices.get? k = some d → d.ports.Housed

variable {t : Topology} {k key : String} {d : Device} {i : Interface}

theorem Sound.switchport_iff (h : t.Sound) (hd : t.devices.get? k = some d) (hi : d.interfaces.get? key = some i) :
    i.IsSwitchport ↔ InterfaceName.kindOf key = .physical ∨ InterfaceName.kindOf key = .portChannel := by
  unfold Interface.IsSwitchport
  rw [(h.table hd).kind_eq hi, Except.ok.injEq, Except.ok.injEq]

/-- Where nothing is readmitted, what is housed stays so. -/
theorem Orderly.housed_next (h : t.Orderly) (housed : t.Housed) {change : Change} (calm : ¬t.Readmits change) :
    (t.next change).Housed := by
  intro k d hd
  cases h.makes change hd with
  | new type hostname id same => exact same ▸ .factory type hostname id
  | kept hd same => exact same ▸ housed k _ hd
  | @step explainer device line x c given hx hk asks made =>
    have hget := device_eq_ok.1 hx
    refine (housed _ x hget).step made fun key i hc focus switch kind hi => ?_
    subst hc
    obtain ⟨j, hj, rfl⟩ := get?_of_get?_ports hi
    by_contra missing
    have absent : x.vlans.contains j.accessVlan = false := by
      rw [← Bool.not_eq_true, Table.contains_iff]
      exact missing
    refine calm (given ▸ .line hx asks focus ⟨switch, hj, ?_, absent⟩)
    exact (h.sound.switchport_iff hget hj).2 kind

/-- A port that is readmitted is stranded. -/
theorem Orderly.strands_next (h : t.Orderly) {change : Change} (readmits : t.Readmits change) :
    (t.next change).Strands := by
  cases readmits with
  | @line explainer device line key d i hd asks focus lacks =>
    have made : made t d line = d.withInterface key { i with mode := .known .access } := by
      rw [made_command asks]
      show left d (currentSwitchport d >>= _) = _
      rw [currentSwitchport_eq lacks.switch focus lacks.port lacks.kind]
      rfl
    have frame := next_frame h explainer hd (asks.not_trips trivial)
    rw [made] at frame
    obtain ⟨x, hx, same⟩ := device_of_frame frame.symm (get?_replaced_self (device_eq_ok.1 hd) _)
    have ports : x.ports = d.ports.put key (Interface.frame { i with mode := .known .access }) :=
      (Device.ports_of_frame same.symm).trans (ports_put d key _)
    have hy : x.ports.interfaces.get? key = some (Interface.frame { i with mode := .known .access }) := by
      rw [ports]
      show (Table.modify _ _ _).get? key = _
      rw [Table.get?_modify_self, get?_ports_of_get? lacks.port]
      rfl
    obtain ⟨y, hy, heq⟩ := get?_of_get?_ports hy
    have accessVlan : y.accessVlan = i.accessVlan := congrArg (·.accessVlan) heq
    have kind : y.kind = i.kind := congrArg (·.kind) heq
    have mode : y.mode = .known .access := congrArg (·.mode) heq
    refine ⟨_, x, key, y, hx, ⟨?_, hy, ?_, ?_⟩, by rw [mode]; rfl⟩
    · rw [← isA_ports, ports]
      exact lacks.switch
    · unfold Interface.IsSwitchport
      rw [kind]
      exact lacks.kind
    · have vlans : x.vlans.keys = d.vlans.keys := congrArg Ports.vlans ports
      rw [accessVlan, ← Bool.not_eq_true, Table.contains_iff, vlans, ← Table.contains_iff, lacks.missing]
      decide

/-- Where all ports are housed, none is stranded. -/
theorem Housed.not_strands (h : t.Housed) : ¬t.Strands := by
  rintro ⟨k, d, key, i, hd, lacks, access⟩
  have there := (h k d hd).access key i.frame (get?_ports_of_get? lacks.port) access
  have contains : d.vlans.contains i.accessVlan = true := Table.contains_iff.2 there
  rw [lacks.missing] at contains
  cases contains

/-- No port is stranded at any time in the history of a lab, unless one is readmitted at some time. -/
theorem reached_strands_iff (cs : List Change) :
    (∃ before, before <+: cs ∧ (reached before).Strands) ↔
      ∃ before c, before ++ [c] <+: cs ∧ (reached before).Readmits c := by
  have start : Housed {} := fun k d hd => by cases hd
  refine reached_ever_iff start ?_ ?_ ?_ cs
  · exact fun t c ordered housed calm => ordered.housed_next housed calm
  · exact fun t housed _ => housed.not_strands
  · exact fun t c ordered readmits => ordered.strands_next readmits

end Topology

end NetRack
