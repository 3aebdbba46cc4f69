import NetRack.Command.Exec
import NetRack.Proofs.Order
import NetRack.Proofs.Result
import NetRack.Proofs.Table

/-!
# What does not look at consoles

Where the consoles of a lab stand is of no concern to what is shown of a device and to where a packet goes.
Either is the same for the lab without its consoles: each function gives the same for the topology in which
all of them are put away, and a function that gives devices gives the same ones with theirs put away.
-/

namespace NetRack

/-- A device with its console put away. -/
def Device.unseated (d : Device) : Device := { d with mode := .user, modeStack := {}, context := {} }

/-- A topology with all consoles put away. -/
def Topology.unseated (t : Topology) : Topology :=
  { t with devices := t.devices.mapValues fun _ => Device.unseated }

namespace Topology

theorem unseated_unseated (t : Topology) : t.unseated.unseated = t.unseated := by
  unfold unseated
  rw [Table.mapValues_mapValues]
  rfl

/-! ## Looking up -/

theorem get?_unseated (t : Topology) (key : String) :
    t.unseated.devices.get? key = (t.devices.get? key).map Device.unseated :=
  Table.get?_mapValues t.devices _ key

theorem entry_unseated (t : Topology) (key : String) :
    t.unseated.entry key = Device.unseated <$> t.entry key := by
  unfold entry
  rw [get?_unseated]
  cases t.devices.get? key <;> rfl

theorem device_unseated (t : Topology) (name : String) :
    t.unseated.device name = Device.unseated <$> t.device name := by
  unfold device
  rw [get?_unseated]
  cases t.devices.get? (deviceKey name) <;> rfl

theorem interface_unseated (t : Topology) (e : LinkEnd) : t.unseated.interface e = t.interface e := by
  unfold interface
  rw [entry_unseated]
  cases t.entry e.device <;> rfl

theorem findDevice_unseated (t : Topology) (name : String) :
    t.unseated.findDevice name = (t.findDevice name).map Device.unseated := by
  unfold findDevice
  rw [get?_unseated]
  cases t.devices.get? name with
  | some d => rfl
  | none =>
    have keys : t.unseated.devices.keys = t.devices.keys := Table.keys_mapValues t.devices _
    have found : t.unseated.devices.get? = fun key => (t.devices.get? key).map Device.unseated :=
      funext (get?_unseated t)
    simp only [Option.map_none, keys, found]
    rw [← List.map_filterMap, List.find?_map]
    rfl

/-! ## Broadcast domains -/

theorem flood_unseated (t : Topology) (switch : String) (vlan : Int) (ingress : Option String) :
    t.unseated.flood switch vlan ingress = t.flood switch vlan ingress := by
  unfold flood
  rw [entry_unseated]
  cases t.entry switch <;> rfl

theorem arrive_unseated (t : Topology) (f : Frame) : t.unseated.arrive f = t.arrive f := by
  unfold arrive
  simp only [flood_unseated]
  rw [entry_unseated]
  cases t.entry f.place.device <;> rfl

theorem follow_unseated (t : Topology) (fuel : Nat) (visited : List Frame) (s : Spread) :
    t.unseated.follow fuel visited s = t.follow fuel visited s := by
  induction fuel generalizing visited s with
  | zero => rfl
  | succ fuel ih =>
    unfold follow
    simp only [arrive_unseated, ih]

theorem frameBound_unseated (t : Topology) : t.unseated.frameBound = t.frameBound := by
  have values : t.unseated.devices.values = t.devices.values.map Device.unseated := by
    simp [Table.values, unseated]
  unfold frameBound
  rw [values, List.map_map]
  rfl

theorem depart_unseated (t : Topology) (start : LinkEnd) : t.unseated.depart start = t.depart start := by
  unfold depart
  simp only [flood_unseated]
  rw [entry_unseated]
  cases t.entry start.device <;> rfl

theorem domain_unseated (t : Topology) (start : LinkEnd) : t.unseated.domain start = t.domain start := by
  unfold domain
  simp only [depart_unseated, frameBound_unseated, follow_unseated]

/-! ## Packets -/

theorem resolveEgress_unseated (d : Device) (dst : Address) (fuel : Nat) (egress nextHop : Option String) :
    resolveEgress d.unseated dst fuel egress nextHop = resolveEgress d dst fuel egress nextHop := by
  induction fuel generalizing egress nextHop with
  | zero => cases egress <;> rfl
  | succ fuel ih =>
    cases egress with
    | some egress => rfl
    | none =>
      unfold resolveEgress
      simp only [ih]
      rfl

theorem forwardingDecision_unseated (d : Device) (dst : Address) :
    forwardingDecision d.unseated dst = forwardingDecision d dst := by
  unfold forwardingDecision
  simp only [resolveEgress_unseated]
  rfl

theorem hasAddress_unseated (t : Topology) (address : String) (e : LinkEnd) :
    t.unseated.hasAddress address e = t.hasAddress address e := by
  unfold hasAddress
  rw [interface_unseated]

theorem handOver_unseated (t : Topology) (p : Packet) (number : Nat) (source egress nextHop : String) :
    t.unseated.handOver p number source egress nextHop = t.handOver p number source egress nextHop := by
  unfold handOver
  simp only [domain_unseated, interface_unseated, funext (hasAddress_unseated t nextHop)]
  refine bind_congr fun reached => ?_
  refine bind_congr fun arrival => ?_
  cases arrival with
  | none => rfl
  | some arrival =>
    refine bind_congr fun i => ?_
    rw [entry_unseated]
    cases t.entry arrival.device <;> rfl

theorem forward_unseated (t : Topology) (p : Packet) (number : Nat) (d : Device) :
    t.unseated.forward p number d.unseated = t.forward p number d := by
  unfold forward
  simp only [forwardingDecision_unseated, handOver_unseated]
  rfl

theorem step_unseated (t : Topology) (p : Packet) (number : Nat) : t.unseated.step p number = t.step p number := by
  unfold step
  rw [entry_unseated]
  cases t.entry p.current with
  | error f => rfl
  | ok d =>
    rw [map_ok, ok_bind, ok_bind, forward_unseated]
    rfl

theorem followPacket_unseated (t : Topology) (fuel number : Nat) (p : Packet) :
    t.unseated.followPacket fuel number p = t.followPacket fuel number p := by
  induction fuel generalizing number p with
  | zero => rfl
  | succ fuel ih =>
    unfold followPacket
    simp only [step_unseated, ih]

/-- Where a packet goes does not depend on consoles. -/
theorem trace_unseated (t : Topology) (source target : String) (sourceInterface : Option String) :
    t.unseated.trace source target sourceInterface = t.trace source target sourceInterface := by
  unfold trace
  simp only [followPacket_unseated]
  rw [device_unseated]
  cases t.device source <;> rfl

theorem resolveTarget_unseated (t : Topology) (text : String) :
    t.unseated.resolveTarget text = t.resolveTarget text := by
  unfold resolveTarget
  rw [findDevice_unseated]
  cases Address.read? text with
  | some a => rfl
  | none => cases t.findDevice text <;> rfl

/-! ## Neighbors -/

/-- A neighbor with its console put away. -/
def Neighbor.unseated (n : Neighbor) : Neighbor := { n with device := n.device.unseated }

theorem neighborAt_unseated (t : Topology) (id : String) (l : Link) (e : LinkEnd) :
    t.unseated.neighborAt id l e = Option.map Neighbor.unseated <$> t.neighborAt id l e := by
  unfold neighborAt
  split
  · rfl
  · cases l.other? e with
    | none => rfl
    | some peer =>
      dsimp only
      rw [entry_unseated]
      cases t.entry peer.device with
      | error f => rfl
      | ok d =>
        show Except.ok (if d.isA .pc then none else some _) = Except.ok (Option.map _ (if d.isA .pc then none else some _))
        split <;> rfl

theorem neighbors_unseated (t : Topology) (id : String) :
    t.unseated.neighbors id = List.map Neighbor.unseated <$> t.neighbors id := by
  have link (l : Link) : l.ends.mapM (t.unseated.neighborAt id l) =
      List.map (Option.map Neighbor.unseated) <$> l.ends.mapM (t.neighborAt id l) := by
    have ends := mapM_map_of (g := fun e => e) (neighborAt_unseated t id l) l.ends
    rwa [List.map_id'] at ends
  have links := mapM_map_of (g := fun l => l) link (t.links.filter (·.up))
  rw [List.map_id'] at links
  unfold neighbors
  rw [show t.unseated.links = t.links from rfl, links]
  cases (t.links.filter (·.up)).mapM fun l => l.ends.mapM (t.neighborAt id l) with
  | error f => rfl
  | ok found =>
    refine congrArg Except.ok ?_
    rw [← List.map_flatten, List.filterMap_map]
    exact (List.map_filterMap ..).symm

end Topology

/-! ## What is shown -/

theorem Show.cdpNeighbors_unseated (t : Topology) (d : Device) :
    Show.cdpNeighbors t.unseated d.unseated = Show.cdpNeighbors t d := by
  unfold Show.cdpNeighbors
  rw [show d.unseated.id = d.id from rfl, Topology.neighbors_unseated]
  cases t.neighbors d.id with
  | error f => rfl
  | ok ns =>
    have sorted : sortBy (keyLe Topology.Neighbor.localPort) (ns.map Topology.Neighbor.unseated) =
        (sortBy (keyLe Topology.Neighbor.localPort) ns).map Topology.Neighbor.unseated :=
      sortBy_map Topology.Neighbor.unseated _ ns
    simp only [map_ok, ok_bind, sorted, List.map_map]
    rfl

theorem ShowItem.render_unseated (t : Topology) (d : Device) (item : ShowItem) :
    item.render t.unseated d.unseated = item.render t d := by
  cases item with
  | cdpNeighbors =>
    show liftM (Show.cdpNeighbors t.unseated d.unseated) = (liftM (Show.cdpNeighbors t d) : Except Failure String)
    rw [Show.cdpNeighbors_unseated]
  | portSecurity name => cases name <;> rfl
  | _ => rfl

end NetRack
