import NetRack.Proofs.History

/-!
# What a line changes elsewhere

A line that is given to a device changes the other devices and the cabling in what is derived only.  No
device comes or goes, links stay where they are, and on every other device only the states of interfaces,
the OSPF neighbors and the routes that are connected or computed by OSPF may be others.
-/

namespace NetRack

namespace Topology

variable {t u : Topology} {key : String}

/-- Nothing differs but on one device, or in what is derived. -/
structure ChangedAt (t : Topology) (key : String) (u : Topology) : Prop where
  devices : u.devices.keys = t.devices.keys
  links : (u.links.map fun l => { l with up := false }) = t.links.map fun l => { l with up := false }
  nextLinkId : u.nextLinkId = t.nextLinkId
  others : ∀ k, k ≠ key → (u.devices.get? k).map Device.frame = (t.devices.get? k).map Device.frame

theorem ChangedAt.refl (t : Topology) (key : String) : t.ChangedAt key t :=
  ⟨rfl, rfl, rfl, fun _ _ => rfl⟩

/-- A topology with the frame of one in which a device is another. -/
theorem ChangedAt.of_frame {d : Device} (h : u.frame = (t.replaced key d).frame) : t.ChangedAt key u where
  devices := by
    have keys : u.frame.devices.keys = (t.replaced key d).frame.devices.keys := by rw [h]
    simpa [frame, replaced, modifyDevice] using keys
  links := by
    show u.frame.links = (t.replaced key d).frame.links
    rw [h]
  nextLinkId := by
    show u.frame.nextLinkId = (t.replaced key d).frame.nextLinkId
    rw [h]
  others := by
    intro k hk
    rw [← get?_frame, h, get?_frame, get?_replaced_of_ne hk]

theorem Orderly.next_changedAt (h : t.Orderly) (explainer : Option Explainer) (device line : String) :
    t.ChangedAt (deviceKey device) (t.next (.command explainer device line)) := by
  cases hd : t.device device with
  | error f =>
    rw [next_command_unknown explainer hd]
    exact .refl t _
  | ok d =>
    rw [next_command h explainer hd]
    rcases attempted_cases h (device_eq_ok.1 hd) line with ⟨heq, -⟩ | ⟨o, u, d', hx, -, carried⟩
    · rw [heq]
      exact .refl t _
    · rw [hx]
      exact .of_frame carried.frame

/-- Whatever was done to a lab, a line that is given to a device changes nothing elsewhere but what is
derived. -/
theorem reached_next_changedAt (cs : List Change) (explainer : Option Explainer) (device line : String) :
    (reached cs).ChangedAt (deviceKey device) ((reached cs).next (.command explainer device line)) :=
  (reached_orderly cs).next_changedAt explainer device line

end Topology

end NetRack
