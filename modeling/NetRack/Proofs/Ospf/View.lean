import NetRack.Proofs.Topology
import NetRack.Topology.Ospf

/-!
# What OSPF sees

OSPF looks at the types of devices, at what their interfaces are and how they are wired, at which
VLANs are known, at connected routes and at the links.  The view of a topology holds this and nothing
else.  A frame fares in the view as it does in the topology.
-/

namespace NetRack

/-- An interface without what frames and OSPF do not depend on. -/
def Interface.wiring (i : Interface) : Interface :=
  { i with description := none, portSecurity := {}, portfast := false, aclIn := none, aclOut := none,
           nat := none }

/-- A device without what frames and OSPF do not depend on. -/
def Device.view (d : Device) : Device where
  id := d.id
  type := d.type
  hostname := ""
  interfaces := d.interfaces.mapValues fun _ i => i.wiring
  vlans := d.vlans.mapValues fun _ _ => ""
  routes := d.routes.filter (·.isFrom .connected)
  ospf := d.ospf

/-- A topology without what frames and OSPF do not depend on. -/
def Topology.view (t : Topology) : Topology where
  devices := t.devices.mapValues fun _ d => d.view
  links := t.links

/-! ## Interfaces in order -/

namespace Device

variable (d : Device)

theorem get?_view (k : String) : d.view.interfaces.get? k = (d.interfaces.get? k).map Interface.wiring :=
  Table.get?_mapValues d.interfaces _ k

theorem contains_vlans_view (v : Int) : d.view.vlans.contains v = d.vlans.contains v := by
  simp [Table.contains, view]

theorem sortedInterfaces_view :
    d.view.sortedInterfaces = List.map Interface.wiring <$> d.sortedInterfaces := sortedInterfaces_map rfl

end Device

namespace Topology

variable (t : Topology)

theorem get?_devices_view (k : String) : t.view.devices.get? k = (t.devices.get? k).map Device.view :=
  Table.get?_mapValues t.devices _ k

theorem entry_view (k : String) : t.view.entry k = Device.view <$> t.entry k := by
  unfold entry
  rw [get?_devices_view]
  cases t.devices.get? k <;> rfl

/-! ## Frames -/

theorem leave_view (e : LinkEnd) (tag : Option Int) : t.view.leave e tag = t.leave e tag := rfl

theorem mapM_floodPort_view (switch : String) (vlan : Int) (ingress : Option String)
    (is : List Interface) :
    (is.map Interface.wiring).mapM (t.view.floodPort switch vlan ingress) =
      is.mapM (t.floodPort switch vlan ingress) := by
  rw [List.mapM_map]
  rfl

theorem flood_view (switch : String) (vlan : Int) (ingress : Option String) :
    t.view.flood switch vlan ingress = t.flood switch vlan ingress := by
  unfold flood
  rw [entry_view]
  cases t.entry switch with
  | error f => rfl
  | ok d =>
    simp only [map_ok, ok_bind, Device.sortedInterfaces_view, Device.get?_view]
    cases d.interfaces.get? (InterfaceName.ofVlan vlan) <;> cases d.sortedInterfaces <;>
      simp only [map_ok, map_error, ok_bind, error_bind, mapM_floodPort_view] <;> rfl

theorem receiver_view (d : Device) (port : String) (tag : Option Int) :
    receiver d.view port tag = receiver d port tag := by
  unfold receiver
  cases tag with
  | none =>
    simp only [Device.get?_view]
    cases d.interfaces.get? port <;> rfl
  | some v =>
    simp only [Device.sortedInterfaces_view]
    cases d.sortedInterfaces with
    | error f => rfl
    | ok is =>
      have found : findFirst (isReceiver port v) (is.map Interface.wiring) =
          Option.map Interface.wiring <$> findFirst (isReceiver port v) is :=
        findFirst_map (fun _ => rfl) is
      simp only [map_ok, ok_bind, found]
      cases findFirst (isReceiver port v) is with
      | error f => rfl
      | ok i => cases i <;> rfl

theorem arrive_view (f : Frame) : t.view.arrive f = t.arrive f := by
  unfold arrive
  rw [entry_view]
  cases t.entry f.place.device with
  | error e => rfl
  | ok d =>
    simp only [map_ok, ok_bind, Device.get?_view]
    cases d.interfaces.get? f.place.port with
    | none => rfl
    | some i =>
      simp only [Option.map_some, need, ok_bind, receiver_view, Device.contains_vlans_view, flood_view]
      rfl

theorem follow_view (fuel : Nat) (visited : List Frame) (s : Spread) :
    t.view.follow fuel visited s = t.follow fuel visited s := by
  induction fuel generalizing visited s with
  | zero => rfl
  | succ fuel ih =>
    unfold follow
    simp only [arrive_view, ih]

theorem frameBound_view : t.view.frameBound = t.frameBound := by
  unfold frameBound
  have sizes (d : Device) : d.view.interfaces.size = d.interfaces.size := Table.size_mapValues _ _
  rw [view, Table.values_mapValues, Table.values, List.map_map, List.map_map]
  simp only [Function.comp_def, sizes]

theorem depart_view (start : LinkEnd) : t.view.depart start = t.depart start := by
  unfold depart
  rw [entry_view]
  cases t.entry start.device with
  | error f => rfl
  | ok d =>
    simp only [map_ok, ok_bind, Device.get?_view, flood_view, leave_view]
    have svi : isSwitchSvi d.view start.port = isSwitchSvi d start.port := rfl
    rw [svi]
    cases d.interfaces.get? start.port <;> rfl

/-- The broadcast domains of a topology are those of its view. -/
theorem domain_view (start : LinkEnd) : t.view.domain start = t.domain start := by
  unfold domain
  simp only [depart_view, follow_view, frameBound_view]

end Topology

end NetRack
