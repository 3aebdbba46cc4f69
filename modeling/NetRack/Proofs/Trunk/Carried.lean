import NetRack.Proofs.AccessList.Entering
import NetRack.Proofs.AccessVlan
import NetRack.Proofs.Features
import NetRack.Proofs.Trunk.Wording
import Mathlib.Data.Set.Basic

/-!
# What trunks carry

A trunk carries all VLANs unless some are listed for it.  A change of them is an operation on the set of the VLANs that
the trunk carries.  So whatever changes are entered one after the other, the trunk carries what the operations come to,
and none are listed for it exactly if that is all of them.
-/

namespace NetRack

open Console

/-! ## Trunks are ports of switches -/

/-- Only ports of switches are trunks. -/
def Ports.TrunksSwitch (p : Ports) : Prop :=
  ∀ k i, p.interfaces.get? k = some i → i.mode.holds .trunk = true →
    p.isA .switch = true ∧ (InterfaceName.kindOf k = .physical ∨ InterfaceName.kindOf k = .portChannel)

namespace Ports.TrunksSwitch

variable {p q : Ports} {focus : Option String} {c : Command}

/-- No port of a new device is a trunk. -/
theorem factory (type : DeviceType) (hostname id : String) : (Device.factory type hostname id).ports.TrunksSwitch := by
  have noTrunk : ∀ port ∈ Device.factoryPorts type, port.2 ≠ .trunk := by cases type <;> decide
  intro k i hi trunk
  obtain ⟨x, hx, rfl⟩ := get?_of_get?_ports hi
  obtain ⟨port, hport, heq⟩ := List.mem_map.1 (Table.mem_of_get?_ofList hx)
  obtain ⟨rfl, rfl⟩ := Prod.mk.inj heq
  exact absurd (Stored.known.inj (of_decide_eq_true trunk)) (noTrunk port hport)

theorem step (h : p.TrunksSwitch) (s : p.Step focus c q) : q.TrunksSwitch := by
  have put {key : String} {i j : Interface} (hi : p.interfaces.get? key = some i) (same : j.mode = i.mode) :
      (p.put key j).TrunksSwitch := by
    intro k x hx trunk
    rcases of_get?_put hx with ⟨rfl, rfl⟩ | ⟨-, hx⟩
    · exact h k i hi (same ▸ trunk)
    · exact h k x hx trunk
  cases s with
  | same => exact h
  | vlan => exact h
  | noVlan => exact h
  | set hi _ switching => exact put hi switching.mode
  | noAddress hi _ _ switching => exact put hi switching.mode
  | address hi _ _ _ _ _ _ switching => exact put hi switching.mode
  | accessVlan hi _ mode => exact put hi mode
  | interface _ _ _ _ _ _ _ noTrunk =>
    intro k x hx trunk
    rw [Table.get?_insert] at hx
    split at hx
    · cases hx
      rw [noTrunk] at trunk
      cases trunk
    · exact h k x hx trunk
  | mode _ _ switch kind =>
    intro k x hx trunk
    rcases of_get?_put hx with ⟨rfl, -⟩ | ⟨-, hx⟩
    · exact ⟨switch, kind⟩
    · exact h k x hx trunk
  | channel low high _ hi _ _ copied _ switching =>
    intro k x hx trunk
    obtain ⟨y, hxy, hy⟩ := of_get?_channel hx
    have same : y.mode.holds .trunk = true := by
      rcases hxy with rfl | rfl
      · exact trunk
      · rw [← (switching y).mode]
        exact trunk
    -- A new port channel is a trunk only if the port is.
    rcases hy with hy | ⟨rfl, rfl⟩
    · exact h k y hy same
    · exact ⟨(h _ _ hi (copied.mode ▸ same)).1, Or.inr (InterfaceName.ofGroup_readable low high).2⟩

end Ports.TrunksSwitch

/-! ## What is listed -/

/-- A set of VLANs as it is listed for a trunk: all of them need not be. -/
def VlanSet.listing (s : VlanSet) : Option VlanSet := if s = .all then none else some s

/-- What is listed for a trunk are VLANs, and not all of them. -/
structure IsListing (listed : Option VlanSet) : Prop where
  vlans : ∀ s, listed = some s → ∀ v ∈ s.ids, IsVlan v
  notAll : listed ≠ some .all

section Listing

variable {s : VlanSet} {listed : Option VlanSet}

theorem VlanSet.getD_listing (s : VlanSet) : s.listing.getD .all = s := by
  unfold listing
  split
  · rename_i all
    exact all.symm
  · rfl

theorem VlanSet.isListing (vlans : ∀ v ∈ s.ids, IsVlan v) : IsListing s.listing := by
  unfold listing
  split
  · exact ⟨nofun, nofun⟩
  · rename_i notAll
    exact ⟨fun _ same => Option.some.inj same ▸ vlans, fun all => notAll (Option.some.inj all)⟩

theorem IsListing.listing_getD (h : IsListing listed) : (listed.getD .all).listing = listed := by
  cases listed with
  | none => exact if_pos rfl
  | some s => exact if_neg fun all => h.notAll (congrArg some all)

end Listing

/-- The VLANs of no port are listed if they are all of them. -/
def Settings.ListNotAll (s : Settings) : Prop := ∀ k f, s.ports.get? k = some f → f.trunkVlans ≠ some .all

theorem Settings.ListNotAll.step {s s' : Settings} {c : Command} (h : s.ListNotAll) (step : s.Step c s') :
    s'.ListNotAll := by
  rcases step.ofPorts with same | step
  · unfold Settings.ListNotAll
    rw [same]
    exact h
  · intro k f hf
    cases step.origin hf with
    | kept hf => exact h k f hf
    | changed hg change =>
      have before := h k _ hg
      cases change with
      | trunk change given listed => exact listed
      | _ => exact before
    | fresh given same =>
      rw [same]
      nofun
    | joined given hg same =>
      have before := h k _ hg
      rw [same]
      exact before
    | channel given hk new hg same =>
      rw [same]
      nofun

/-! ## Sets of VLANs -/

/-- The VLANs that an interface carries. -/
def Interface.carried (i : Interface) : Set Int := {v | IsVlan v ∧ i.carries v = true}

/-- What a change makes of the VLANs that a trunk carries. -/
def TrunkChange.carried (now : Set Int) : TrunkChange → Set Int
  | all => {v | IsVlan v}
  | none => ∅
  | set vlans => {v | v ∈ vlans}
  | add vlans => now ∪ {v | v ∈ vlans}
  | remove vlans => now \ {v | v ∈ vlans}
  | except vlans => {v | IsVlan v} \ {v | v ∈ vlans}

section Sets

variable {i j : Interface} {c : TrunkChange}

theorem TrunkChange.mem_apply (c : TrunkChange) (s : VlanSet) :
    {v | v ∈ (c.apply s).ids} = c.carried {v | v ∈ s.ids} := by
  ext v
  unfold TrunkChange.apply TrunkChange.carried
  cases c <;> simp [VlanSet.empty, VlanSet.mem_all, VlanSet.mem_ofList, VlanSet.mem_union, VlanSet.mem_diff]

/-- A trunk carries what is listed for it, or all VLANs. -/
theorem Interface.carried_eq (trunk : i.mode.holds .trunk = true) (listing : IsListing i.trunkVlans) :
    i.carried = {v | v ∈ (i.trunkVlans.getD .all).ids} := by
  have mode : i.mode = .known .trunk := of_decide_eq_true trunk
  ext v
  show IsVlan v ∧ i.carries v = true ↔ _
  unfold Interface.carries
  rw [mode]
  cases listed : i.trunkVlans with
  | none => simp [VlanSet.mem_all]
  | some s =>
    show IsVlan v ∧ s.ids.contains v = true ↔ v ∈ s.ids
    rw [List.contains_iff_mem]
    exact and_iff_right_of_imp (listing.vlans s listed v)

/-- A trunk that no VLANs are listed for is one that carries all of them. -/
theorem Interface.trunkVlans_eq_none_iff (trunk : i.mode.holds .trunk = true) (listing : IsListing i.trunkVlans) :
    i.trunkVlans = none ↔ i.carried = {v | IsVlan v} := by
  rw [Interface.carried_eq trunk listing]
  constructor
  · intro none
    rw [none, Option.getD_none]
    simp only [VlanSet.mem_all]
  · intro all
    have same : i.trunkVlans.getD .all = .all :=
      VlanSet.ext_mem fun v => (Set.ext_iff.1 all v).trans VlanSet.mem_all.symm
    rw [← listing.listing_getD, same]
    exact if_pos rfl

/-- A trunk carries what a change has made of what another one carries, if this is listed for it. -/
theorem Interface.carried_of_change (trunk : i.mode.holds .trunk = true) (listing : IsListing i.trunkVlans)
    (trunk' : j.mode.holds .trunk = true) (listing' : IsListing j.trunkVlans)
    (made : j.trunkVlans = (c.apply (i.trunkVlans.getD .all)).listing) : j.carried = c.carried i.carried := by
  rw [Interface.carried_eq trunk' listing', made, VlanSet.getD_listing, TrunkChange.mem_apply,
    Interface.carried_eq trunk listing]

end Sets

/-! ## Entering changes -/

namespace Device

/-- The console of a device configures a trunk. -/
structure ConfiguresTrunk (d : Device) (key : String) (i : Interface) : Prop where
  mode : d.mode = .interfaceConfig
  focus : d.context.interface = some key
  port : d.interfaces.get? key = some i
  trunk : i.mode.holds .trunk = true

/-- The console of a device configures a trunk, and the trunk is as it should be. -/
structure ChangesTrunk (d : Device) (key : String) (i : Interface) : Prop extends ConfiguresTrunk d key i where
  switch : d.isA .switch = true
  kind : i.IsSwitchport
  listing : IsListing i.trunkVlans

/-- An interface of a device that has the frame of another with an interface changed. -/
theorem get?_of_frame_modified {d d' : Device} {key : String} {i j : Interface}
    (frame : d'.frame = (d.modifyInterface key fun _ => j).frame) (hi : d.interfaces.get? key = some i) :
    ∃ i', d'.interfaces.get? key = some i' ∧ i'.frame = j.frame := by
  have same := get?_frame d' key
  rw [frame, get?_frame] at same
  have changed : (d.modifyInterface key fun _ => j).interfaces.get? key = some j := by
    show (Table.modify _ _ _).get? key = _
    rw [Table.get?_modify_self, hi]
    rfl
  rw [changed] at same
  exact Option.map_eq_some_iff.1 same.symm

end Device

open Device

namespace Topology

variable {device key : String} {d : Device} {i : Interface}

/-- A trunk is a port of a switch, and what is listed for it is as it should be. -/
theorem reached_trunk (cs : List Change) {k : String} (hd : (reached cs).devices.get? k = some d)
    (hi : d.interfaces.get? key = some i) (trunk : i.mode.holds .trunk = true) :
    d.isA .switch = true ∧ i.IsSwitchport ∧ IsListing i.trunkVlans := by
  have trunks : d.ports.TrunksSwitch :=
    reached_ports Ports.TrunksSwitch.factory (fun _ _ _ _ h s => h.step s) cs hd
  have tidy : d.settings.Tidy :=
    reached_settings Settings.Tidy.factory (fun _ _ _ _ _ bounded h s => h.step bounded s) cs hd
  have notAll : d.settings.ListNotAll := by
    refine reached_settings (P := Settings.ListNotAll) (fun _ _ _ k f hf => ?_) (fun _ _ _ _ _ _ h s => h.step s) cs hd
    rw [features_factory hf]
    nofun
  have features := get?_features_of_get? hi
  obtain ⟨switch, kind⟩ := trunks key i.frame (get?_ports_of_get? hi) trunk
  exact ⟨switch, ((reached_orderly cs).sound.switchport_iff hd hi).2 kind, (tidy.ports key _ features).trunk,
    notAll key _ features⟩

/-- The trunk that a console configures is as it should be. -/
theorem reached_changesTrunk (cs : List Change) (hd : (reached cs).device device = .ok d)
    (h : d.ConfiguresTrunk key i) : d.ChangesTrunk key i := by
  obtain ⟨switch, kind, listing⟩ := reached_trunk cs (device_eq_ok.1 hd) h.port h.trunk
  exact ⟨h, switch, kind, listing⟩

end Topology

namespace Device.ChangesTrunk

variable {explainer : Option Explainer} {device line key : String} {lines : List String} {t : Topology} {d : Device}
  {i : Interface} {c : TrunkChange} {changes : List TrunkChange}

/-- A change is entered, and what it makes of the VLANs of the trunk is listed for it then. -/
theorem next (h : d.ChangesTrunk key i) (ordered : t.Orderly) (hd : t.device device = .ok d)
    (worded : c.WordedBy line) : LeadTo explainer device t [line] fun d' => ∃ i', d'.ChangesTrunk key i' ∧
      i'.trunkVlans = (c.apply (i.trunkVlans.getD .all)).listing := by
  have asks := (asks_trunkAllowed_iff h.mode (isA_of_ne h.switch (by decide))).2 worded
  have bounded : c.Bounded := asks.bounded
  let j : Interface := { i with trunkVlans := (c.apply (i.trunkVlans.getD .all)).listing }
  have done : setTrunkVlans d c = .ok (touchInterface d key j) := by
    unfold setTrunkVlans
    rw [currentSwitchport_eq h.switch h.focus h.port h.kind]
    rfl
  obtain ⟨accepted, d', hd', frame⟩ := ordered.next_done hd asks trivial done
  obtain ⟨i', hi', same⟩ := get?_of_frame_modified frame h.port
  have listed : i'.trunkVlans = j.trunkVlans := congrArg (·.trunkVlans) same
  have name : i'.name = i.name := congrArg (·.name) same
  refine ⟨_, d', .single accepted, hd', i', ?_, listed⟩
  exact {
    mode := (congrArg (·.mode) frame).trans h.mode
    focus := (congrArg (·.context.interface) frame).trans h.focus
    port := hi'
    trunk := (congrArg (·.mode.holds .trunk) same).trans h.trunk
    switch := (congrArg (·.isA .switch) frame).trans h.switch
    kind := by
      unfold Interface.IsSwitchport Interface.kind
      rw [name]
      exact h.kind
    listing := listed ▸ VlanSet.isListing (bounded.isVlan (VlanSet.isVlan_getD h.listing.vlans)) }

/-- Changes are entered one after the other, and the trunk carries what they come to. -/
theorem run (h : d.ChangesTrunk key i) (ordered : t.Orderly) (hd : t.device device = .ok d)
    (worded : List.Forall₂ TrunkChange.WordedBy changes lines) :
    LeadTo explainer device t lines fun d' => ∃ i', d'.ChangesTrunk key i' ∧
      i'.carried = changes.foldl TrunkChange.carried i.carried := by
  induction worded generalizing t d i with
  | nil => exact ⟨t, d, .nil t, hd, i, h, rfl⟩
  | @cons c line changes lines first rest ih =>
    refine (h.next ordered hd first).append ordered fun u d' ordered hd' ⟨i', h', made⟩ => ?_
    rw [List.foldl_cons, ← Interface.carried_of_change h.trunk h.listing h'.trunk h'.listing made]
    exact ih h' ordered hd'

end Device.ChangesTrunk

end NetRack
