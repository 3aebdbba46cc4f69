import NetRack.Proofs.History
import NetRack.Proofs.Reach

/-!
# VLANs are kept apart

A switch port sends the frames of a VLAN without a tag only if it puts untagged frames into that VLAN itself.
So if both ends of every link between switch ports agree on the VLAN of untagged frames, a frame never
changes its VLAN on the way, however many switches it passes, and a broadcast domain stays within one VLAN.
-/

namespace NetRack

open InterfaceName (kindOf parentOf subOf vlanNumber)

/-- The VLAN of the untagged frames at a switch port. -/
def Interface.untaggedVlan (i : Interface) : Int :=
  if i.mode.holds .access then i.accessVlan else i.nativeVlan

namespace InterfaceName

end InterfaceName

namespace Topology

variable {t : Topology} {vlan : Int}

/-- The VLAN of the untagged frames at a port, if it is a switch port. -/
def untagged? (t : Topology) (e : LinkEnd) : Option Int := (t.switchPort? e).map (·.untaggedVlan)

/-- Whether both ends of every link between switch ports have one VLAN for untagged frames. -/
def UntaggedAgree (t : Topology) : Prop :=
  ∀ l ∈ t.links, ∀ v ∈ t.untagged? l.a, ∀ w ∈ t.untagged? l.b, v = w

instance : Decidable t.UntaggedAgree :=
  inferInstanceAs (Decidable (∀ l ∈ t.links, ∀ v ∈ t.untagged? l.a, ∀ w ∈ t.untagged? l.b, v = w))

/-- Whether a frame is of a VLAN: by its tag or, without one, by the switch port where it arrives or, where it
arrives at none, by the one that it comes from. -/
def IsOf (t : Topology) (vlan : Int) (f : Frame) : Prop :=
  f.tag = some vlan ∨
    f.tag = none ∧ (t.untagged? f.place = some vlan ∨
      t.untagged? f.place = none ∧ ∃ q, t.peerOf f.place = some q ∧ t.untagged? q = some vlan)

theorem UntaggedAgree.joined (h : t.UntaggedAgree) {a b : LinkEnd} (joined : t.Joined a b) {v w : Int}
    (hv : t.untagged? a = some v) (hw : t.untagged? b = some w) : v = w := by
  obtain ⟨l, hl, -, ⟨rfl, rfl⟩ | ⟨rfl, rfl⟩⟩ := joined
  · exact h l hl v hv w hw
  · exact (h l hl w hw v hv).symm

theorem classify_none {i : Interface} {v : Int} (h : classify i none = some v) : v = i.untaggedVlan := by
  unfold classify at h
  unfold Interface.untaggedVlan
  split at h
  · rename_i access
    simpa [access, eq_comm] using h
  · rename_i access
    simp only [Option.getD_none] at h
    split at h
    · simpa [access, eq_comm] using h
    · cases h

theorem classify_some {i : Interface} {tag v : Int} (h : classify i (some tag) = some v) : v = tag := by
  unfold classify at h
  split at h
  · split at h
    · rename_i own
      simp only [reduceCtorEq, decide_false, Bool.false_or, decide_eq_true_eq, Option.some.injEq] at own h
      rw [← h, own]
    · cases h
  · simp only [Option.getD_some] at h
    split at h
    · exact (Option.some.inj h).symm
    · cases h

/-- An untagged frame is taken by the port itself, if it works and has an address. -/
theorem Receives.untagged {p e : LinkEnd} (h : t.Receives p none e) : e = p ∧ t.Active p := by
  obtain ⟨hdevice, d, hd, hr⟩ := h
  unfold receiver at hr
  obtain ⟨i, hi, hr⟩ := bind_eq_ok.1 hr
  simp only [pure_eq_ok, Except.ok.injEq] at hr
  have hget := need_eq_ok.1 hi
  split at hr
  · rename_i active
    refine ⟨?_, i, (port?_of_get? hd).trans hget, active⟩
    cases e
    cases p
    simp only at hdevice hr
    rw [hdevice, Option.some.inj hr]
  · cases hr

/-- A tagged frame is taken by a working subinterface of the port with that tag. -/
theorem Receives.tagged (h : t.Sound) {p e : LinkEnd} {v : Int} (hr : t.Receives p (some v) e) :
    ∃ i, t.port? e = some i ∧ parentOf e.port = p.port ∧ kindOf e.port = .subinterface ∧
      i.dot1qVlan = some v ∧ i.isActive = true := by
  obtain ⟨hdevice, d, hd, hr⟩ := hr
  have table := h.table hd
  rw [receiver_some table] at hr
  obtain ⟨i, hi, hname⟩ := Option.map_eq_some_iff.1 (Except.ok.inj hr)
  have hget := (Device.mem_ordered_values table).1 (List.mem_of_find?_eq_some hi)
  have takes := List.find?_some hi
  simp only [takesTag, Bool.and_eq_true, decide_eq_true_eq, InterfaceName.subOf_isSome] at takes
  obtain ⟨⟨⟨parent, kind⟩, tag⟩, active⟩ := takes
  rw [hname] at hget parent kind
  exact ⟨i, (port?_of_get? (hdevice ▸ hd)).trans hget, parent, kind, tag, active⟩

/-- A port that works and has an address takes the untagged frames itself. -/
theorem Receives.of_untagged {p : LinkEnd} (active : t.Active p) : t.Receives p none p := by
  obtain ⟨i, hi, active⟩ := active
  obtain ⟨d, hd, hget⟩ := device_of_port? hi
  refine ⟨rfl, d, hd, ?_⟩
  unfold receiver
  rw [hget]
  simp [need, active]

/-- A working subinterface takes the frames with its tag, since no other of its port could be found first. -/
theorem Receives.of_tagged (h : t.Sound) {p e : LinkEnd} {d : Device} {i : Interface} {v : Int}
    (hd : t.devices.get? p.device = some d) (host : d.isA .pc = false) (device : e.device = p.device)
    (parent : parentOf e.port = p.port) (kind : kindOf e.port = .subinterface) (hi : t.port? e = some i)
    (tag : i.dot1qVlan = some v) (active : i.isActive = true) : t.Receives p (some v) e := by
  have table := h.table hd
  have hget : d.interfaces.get? e.port = some i := (port?_of_get? (device ▸ hd)).symm.trans hi
  have hname := table.name_eq hget
  have mine : takesTag p.port v i = true := by
    simp [takesTag, hname, parent, InterfaceName.subOf_isSome, kind, tag, active]
  refine ⟨device, d, hd, ?_⟩
  rw [receiver_some table]
  cases hf : (d.ordered.map Prod.snd).find? (takesTag p.port v) with
  | none =>
    have hmem := (Device.mem_ordered_values table).2 (hname.symm ▸ hget)
    exact absurd mine (List.find?_eq_none.1 hf i hmem)
  | some x =>
    have hx := (Device.mem_ordered_values table).1 (List.mem_of_find?_eq_some hf)
    have takes := List.find?_some hf
    simp only [takesTag, Bool.and_eq_true, decide_eq_true_eq] at takes
    have same : x.name = e.port :=
      ((h.devices _ d hd).tags host _ i hget).free v tag x.name x hx takes.1.2 (takes.1.1.1.trans parent.symm)
    rw [Option.map_some, same]

end Topology

end NetRack
