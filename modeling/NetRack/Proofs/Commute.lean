import NetRack.Proofs.Elsewhere
import NetRack.Proofs.Frame.Line
import NetRack.Proofs.ReadOnly

/-!
# Lines on different devices

What a line makes of the frame of its device depends on that frame only, and the rest of a lab's frame stays
as it is.  So two lines that are given to different devices come to the same frame in either order, and what
is derived, but for OSPF, is determined by the frame.
-/

namespace NetRack

namespace Topology

variable {t u : Topology} {key : String} {d d' : Device}

theorem frame_replaced (t : Topology) (key : String) (d : Device) :
    (t.replaced key d).frame = t.frame.replaced key d.frame := by
  refine eq_of_parts (Table.ext ?_ fun k => ?_) rfl rfl
  · simp [frame, replaced, modifyDevice]
  · unfold replaced
    rw [get?_frame, get?_modifyDevice, get?_modifyDevice, get?_frame]
    by_cases hk : k = key
    · simp only [if_pos hk, Option.map_map]
      rfl
    · simp only [if_neg hk]

theorem replaced_comm (t : Topology) {k k' : String} (apart : k ≠ k') (d d' : Device) :
    (t.replaced k d).replaced k' d' = (t.replaced k' d').replaced k d := by
  refine eq_of_parts (Table.ext ?_ fun j => ?_) rfl rfl
  · simp [replaced, modifyDevice]
  · unfold replaced
    simp only [get?_modifyDevice]
    by_cases hk : j = k
    · have hk' : j ≠ k' := fun h => apart (hk.symm.trans h)
      simp [hk, apart]
    · simp [hk]

end Topology

namespace Console

variable {t u : Topology} {key : String} {d d' : Device} {line : String}

/-- The frame of a lab after a line that does not trip has what the line made of its device. -/
theorem attempted_frame (h : t.Orderly) (hd : t.devices.get? key = some d) (ht : ¬Trips d line 0) :
    (attempted t (attempt t key d line)).frame = t.frame.replaced key (made t d line).frame := by
  have delivered := run_answers h hd ht
  have kept : t.frame = t.frame.replaced key d.frame := by
    rw [← Topology.frame_replaced, Topology.replaced_self hd]
  unfold attempt made
  cases hr : run t d line with
  | error f => exact kept
  | ok x =>
    cases x with
    | none => exact kept
    | some o =>
      obtain ⟨r, hok, carried⟩ := (Topology.settle_yields h hd (delivered.value hr o rfl)).exists_ok
      rw [ok_bind]
      dsimp only
      rw [hok, ← Topology.frame_replaced]
      exact carried.frame

/-- What a line makes of the frame of its device is told by that frame, whatever else the lab is like. -/
theorem attempted_alike (ht : t.Orderly) (hu : u.Orderly) (hd : t.devices.get? key = some d)
    (hd' : u.devices.get? key = some d') (same : d'.frame = d.frame) (line : String) :
    ∃ f, (attempted t (attempt t key d line)).frame = t.frame.replaced key f ∧
      (attempted u (attempt u key d' line)).frame = u.frame.replaced key f := by
  have trips : Trips d' line 0 ↔ Trips d line 0 := by rw [← trips_frame, same, trips_frame]
  by_cases htrip : Trips d line 0
  · refine ⟨d.frame, ?_, ?_⟩
    · rw [attempt_trips ht hd htrip, ← Topology.frame_replaced, Topology.replaced_self hd]
      rfl
    · rw [attempt_trips hu hd' (trips.2 htrip), ← same, ← Topology.frame_replaced, Topology.replaced_self hd']
      rfl
  · refine ⟨(made t d line).frame, attempted_frame ht hd htrip, ?_⟩
    rw [attempted_frame hu hd' fun h => htrip (trips.1 h), ← made_frame u u (hu.sound.devices key d' hd'), same,
      made_frame t u (ht.sound.devices key d hd)]

end Console

namespace Topology

variable {t u : Topology}

/-- A device that is not there has not come with a line. -/
theorem ChangedAt.device_unknown {key : String} (h : t.ChangedAt key u) {name : String} {f : Fault}
    (hd : t.device name = .error f) : u.device name = .error f := by
  have absent (v : Topology) (hv : deviceKey name ∉ v.devices.keys) :
      v.device name = .error (.unknownDevice name) := by
    unfold Topology.device
    rw [Table.get?_eq_none.2 hv]
  have gone : deviceKey name ∉ t.devices.keys := by
    intro hmem
    obtain ⟨d, hget⟩ := Table.get?_of_contains (Table.contains_iff.2 hmem)
    rw [device_eq_ok.2 hget] at hd
    cases hd
  rw [absent u (h.devices ▸ gone), ← absent t gone, hd]

/-- A device that is not concerned keeps its frame. -/
theorem ChangedAt.device_elsewhere {key : String} (h : t.ChangedAt key u) {name : String} {d : Device}
    (apart : deviceKey name ≠ key) (hd : t.device name = .ok d) :
    ∃ d', u.device name = .ok d' ∧ d'.frame = d.frame := by
  have same := h.others (deviceKey name) apart
  rw [device_eq_ok.1 hd, Option.map_some] at same
  obtain ⟨d', hd', hframe⟩ := Option.map_eq_some_iff.1 same
  exact ⟨d', device_eq_ok.2 hd', hframe⟩

/-- Two lines that are given to different devices come to the same frame in either order. -/
theorem Orderly.frame_commute (h : t.Orderly) (e₁ e₂ : Option Explainer) {a b : String}
    (apart : deviceKey a ≠ deviceKey b) (la lb : String) :
    ((t.next (.command e₁ a la)).next (.command e₂ b lb)).frame =
      ((t.next (.command e₂ b lb)).next (.command e₁ a la)).frame := by
  have first := h.next_changedAt e₁ a la
  have second := h.next_changedAt e₂ b lb
  cases ha : t.device a with
  | error f => rw [next_command_unknown e₁ ha, next_command_unknown e₁ (second.device_unknown ha)]
  | ok d =>
    cases hb : t.device b with
    | error f => rw [next_command_unknown e₂ hb, next_command_unknown e₂ (first.device_unknown hb)]
    | ok x =>
      obtain ⟨x', hb', hx⟩ := first.device_elsewhere apart.symm hb
      obtain ⟨d', ha', hd⟩ := second.device_elsewhere apart ha
      have ordered₁ := h.next (.command e₁ a la)
      have ordered₂ := h.next (.command e₂ b lb)
      obtain ⟨f, hf, hf'⟩ := Console.attempted_alike h ordered₂ (device_eq_ok.1 ha) (device_eq_ok.1 ha') hd la
      obtain ⟨g, hg, hg'⟩ := Console.attempted_alike h ordered₁ (device_eq_ok.1 hb) (device_eq_ok.1 hb') hx lb
      rw [← next_command h e₁ ha] at hf
      rw [← next_command h e₂ hb] at hg
      rw [next_command ordered₁ e₂ hb', next_command ordered₂ e₁ ha', hf', hg', hf, hg]
      exact replaced_comm t.frame apart f g

theorem Orderly.next_commute (h : t.Orderly) (e₁ e₂ : Option Explainer) {a b : String}
    (apart : deviceKey a ≠ deviceKey b) (la lb : String) :
    ((t.next (.command e₁ a la)).next (.command e₂ b lb)).withoutOspf =
      ((t.next (.command e₂ b lb)).next (.command e₁ a la)).withoutOspf := by
  have ordered := (h.next (.command e₁ a la)).next (.command e₂ b lb)
  have ordered' := (h.next (.command e₂ b lb)).next (.command e₁ a la)
  exact withoutOspf_of_frame ordered'.sound ordered.sound ordered'.settled ordered.settled
    (h.frame_commute e₁ e₂ apart la lb)

/-- Whatever was done to a lab, two lines that are given to different devices come to the same in either
order, but for what OSPF computed. -/
theorem reached_next_commute (cs : List Change) (e₁ e₂ : Option Explainer) (a b la lb : String)
    (apart : deviceKey a ≠ deviceKey b) :
    (((reached cs).next (.command e₁ a la)).next (.command e₂ b lb)).withoutOspf =
      (((reached cs).next (.command e₂ b lb)).next (.command e₁ a la)).withoutOspf :=
  (reached_orderly cs).next_commute e₁ e₂ apart la lb

/-- Two routers leave user mode, one first or the other. -/
theorem next_commute_enable :
    deviceKey "R1" ≠ deviceKey "R2" ∧
      (((reached [.addDevice "R1" "router" none, .addDevice "R2" "router" none]).next
          (.command none "R1" "enable")).next (.command none "R2" "enable")).withoutOspf =
        (((reached [.addDevice "R1" "router" none, .addDevice "R2" "router" none]).next
          (.command none "R2" "enable")).next (.command none "R1" "enable")).withoutOspf := by
  have apart : deviceKey "R1" ≠ deviceKey "R2" := by decide +kernel
  exact ⟨apart, reached_next_commute [.addDevice "R1" "router" none, .addDevice "R2" "router" none] none none
    "R1" "R2" "enable" "enable" apart⟩

end Topology

end NetRack
