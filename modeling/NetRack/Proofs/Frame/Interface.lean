import NetRack.Proofs.Frame.Device

/-!
# Interface commands and the frame

An interface command does to the frame of a device what it does to the device.  It looks at names,
addresses, modes, tags and groups of interfaces, and never at which of them work.
-/

namespace NetRack

open Outcome

variable {d : Device}

/-! ## The interface under configuration -/

/-- An entry of the interface table without the state that propagation derives. -/
def entryFrame (e : String × Interface) : String × Interface := (e.1, e.2.frame)

theorem currentInterface_frame : currentInterface d.frame = entryFrame <$> currentInterface d := by
  have found : (d.context.interface.bind fun key => (d.frame.interfaces.get? key).map fun i => (key, i)) =
      (d.context.interface.bind fun key => (d.interfaces.get? key).map fun i => (key, i)).map entryFrame := by
    cases d.context.interface with
    | none => rfl
    | some key =>
      rw [Option.bind_some, Option.bind_some, Device.get?_frame, Option.map_map, Option.map_map]
      rfl
  unfold currentInterface
  rw [show d.frame.context = d.context from rfl, found]
  cases d.context.interface.bind fun key => (d.interfaces.get? key).map fun i => (key, i) <;> rfl

theorem currentSwitchport_frame : currentSwitchport d.frame = entryFrame <$> currentSwitchport d := by
  unfold currentSwitchport
  rw [currentInterface_frame]
  show (requireSwitch d >>= fun _ => _) = _
  cases requireSwitch d with
  | error f => rfl
  | ok _ =>
    cases currentInterface d with
    | error f => rfl
    | ok e =>
      simp only [map_ok, ok_bind]
      show ((liftM e.2.kind : Except Failure PortKind) >>= fun _ => _) = _
      cases e.2.kind with
      | error f => rfl
      | ok kind =>
        simp only [liftM_ok, ok_bind]
        show (refuseIf _ (.notSwitchPort e.2.name) >>= fun _ => _) = _
        cases refuseIf _ (.notSwitchPort e.2.name) <;> rfl

/-- An outcome in which an interface is changed, and its frame in the same way. -/
theorem framed_modify (key : String) {g g' : Interface → Interface} (hg : ∀ i, (g i).frame = g' i.frame)
    {f : Device → Outcome} (h : ∀ d, f d.frame = (f d).framed) :
    (pure (f (d.frame.modifyInterface key g')) : Except Failure Outcome) =
      framed <$> pure (f (d.modifyInterface key g)) := by
  rw [← Device.frame_modifyInterface hg, h]
  rfl

/-- An outcome in which an interface is another, and its frame the frame of that one. -/
theorem framed_assign (key : String) (i : Interface) {f : Device → Outcome} (h : ∀ d, f d.frame = (f d).framed) :
    (pure (f (d.frame.modifyInterface key fun _ => i.frame)) : Except Failure Outcome) =
      framed <$> pure (f (d.modifyInterface key fun _ => i)) :=
  framed_modify key (g := fun _ => i) (fun _ => rfl) h

theorem framed_set (key : String) (i : Interface) :
    (pure (setInterface d.frame key i.frame) : Except Failure Outcome) = framed <$> pure (setInterface d key i) :=
  framed_assign key i (f := ofDevice) fun _ => rfl

theorem framed_touch (key : String) (i : Interface) :
    (pure (touchInterface d.frame key i.frame) : Except Failure Outcome) =
      framed <$> pure (touchInterface d key i) :=
  framed_assign key i (f := fun d => touching d [i.name]) fun _ => rfl

/-- As before, where routes may change as well. -/
theorem framed_reroute (key : String) (i : Interface) :
    (pure { touchInterface d.frame key i.frame with routing := true } : Except Failure Outcome) =
      framed <$> pure { touchInterface d key i with routing := true } :=
  framed_assign key i (f := fun d => { touching d [i.name] with routing := true }) fun _ => rfl

/-! ## Addresses, filters and switching -/

theorem setAddress_frame (ip mask : Address) : setAddress d.frame ip mask = framed <$> setAddress d ip mask := by
  unfold setAddress
  refine framed_bind currentInterface_frame ?_
  rintro ⟨key, i⟩
  refine framed_step fun _ => framed_step fun n => framed_step fun _ => ?_
  rw [Device.sortedInterfaces_frame]
  refine framed_bind (liftM_map _ _) fun is => ?_
  have found : Topology.findFirst (overlapsWith n i.name) (is.map Interface.frame) =
      Option.map Interface.frame <$> Topology.findFirst (overlapsWith n i.name) is :=
    Topology.findFirst_map (fun _ => rfl) is
  refine framed_bind (k := Option.map Interface.frame) ?_ fun other => ?_
  · rw [← liftM_map, ← found]
    rfl
  · cases other with
    | some other => rfl
    | none => exact framed_reroute key { i with ip := some ip.text, mask := some n.mask.text }

theorem clearAddress_frame (address : Option (Address × Address)) :
    clearAddress d.frame address = framed <$> clearAddress d address := by
  unfold clearAddress
  refine framed_bind currentInterface_frame ?_
  rintro ⟨key, i⟩
  exact framed_step fun _ => framed_reroute key { i with ip := none, mask := none }

theorem setFilter_frame (acl : String) (side : FilterSide) :
    setFilter d.frame acl side = framed <$> setFilter d acl side := by
  unfold setFilter
  refine framed_bind currentInterface_frame ?_
  rintro ⟨key, i⟩
  refine framed_step fun _ => ?_
  cases side with
  | inbound => exact framed_set key { i with aclIn := some acl }
  | outbound => exact framed_set key { i with aclOut := some acl }

theorem clearFilter_frame (acl : String) (side : FilterSide) :
    clearFilter d.frame acl side = framed <$> clearFilter d acl side := by
  unfold clearFilter
  refine framed_bind currentInterface_frame ?_
  rintro ⟨key, i⟩
  cases side with
  | inbound => exact framed_set key { i with aclIn := if i.aclIn = some acl then none else i.aclIn }
  | outbound => exact framed_set key { i with aclOut := if i.aclOut = some acl then none else i.aclOut }

theorem setAccessVlan_frame (vlan : Int) : setAccessVlan d.frame vlan = framed <$> setAccessVlan d vlan := by
  have ensured : d.frame.ensureVlan vlan = ((d.ensureVlan vlan).1.frame, (d.ensureVlan vlan).2) := by
    unfold Device.ensureVlan
    rw [show d.frame.vlans = d.vlans from rfl]
    split <;> rfl
  unfold setAccessVlan
  refine framed_bind currentSwitchport_frame ?_
  rintro ⟨key, i⟩
  rw [ensured]
  obtain ⟨d', new⟩ := d.ensureVlan vlan
  exact framed_assign key { i with accessVlan := vlan } (f := fun d => { touching d [i.name] with
    output :=
      if new then "% Access VLAN does not exist. Creating vlan " ++ Text.intText vlan else "" }) fun _ => rfl

theorem setTrunkVlans_frame (change : TrunkChange) :
    setTrunkVlans d.frame change = framed <$> setTrunkVlans d change := by
  unfold setTrunkVlans
  refine framed_bind currentSwitchport_frame ?_
  rintro ⟨key, i⟩
  exact framed_touch key { i with
    trunkVlans := if change.apply (i.trunkVlans.getD .all) = .all then none
      else some (change.apply (i.trunkVlans.getD .all)) }

theorem setPortSecurity_frame (change : SecurityChange) :
    setPortSecurity d.frame change = framed <$> setPortSecurity d change := by
  unfold setPortSecurity
  refine framed_bind currentSwitchport_frame ?_
  rintro ⟨key, i⟩
  exact framed_step fun _ => framed_step fun portSecurity => framed_set key { i with portSecurity }

theorem setEncapsulation_frame (vlan : Int) :
    setEncapsulation d.frame vlan = framed <$> setEncapsulation d vlan := by
  unfold setEncapsulation
  refine framed_bind currentInterface_frame ?_
  rintro ⟨key, i⟩
  refine framed_step fun kind => framed_step fun _ => framed_step fun ⟨parent, number⟩ => ?_
  have taken : Topology.anyOf (hasTag parent i.name vlan) d.frame.interfaces.values =
      Topology.anyOf (hasTag parent i.name vlan) d.interfaces.values := by
    rw [Device.values_frame]
    exact Topology.anyOf_map (fun _ => rfl) _
  refine framed_same (congrArg liftM taken) fun _ => framed_step fun _ => ?_
  exact framed_touch key { i with dot1qVlan := some vlan }

/-! ## Channel groups -/

theorem frame_joined {f : Interface → Interface} (hf : ∀ i, (f i).frame = f i.frame) (key channel : String)
    (new : Interface) :
    (({ d with interfaces := d.interfaces.insertIfNew channel new } : Device).modifyInterface key f).frame =
      ({ d.frame with interfaces := d.frame.interfaces.insertIfNew channel new.frame }).modifyInterface key f := by
  rw [Device.frame_modifyInterface hf]
  unfold Device.frame
  rw [Table.mapValues_insertIfNew]
  rfl

theorem joinGroup_frame (group : Int) (mode : ChannelMode) :
    joinGroup d.frame group mode = framed <$> joinGroup d group mode := by
  unfold joinGroup
  refine framed_bind currentInterface_frame ?_
  rintro ⟨key, i⟩
  refine framed_step fun kind => framed_step fun _ => ?_
  rw [Device.sortedInterfaces_frame]
  refine framed_bind (liftM_map _ _) fun is => ?_
  have mismatch : Topology.anyOf (speaksOther i.name group mode.protocol) (is.map Interface.frame) =
      Topology.anyOf (speaksOther i.name group mode.protocol) is := Topology.anyOf_map (fun _ => rfl) is
  refine framed_same (congrArg liftM mismatch) fun _ => framed_step fun _ => ?_
  have joined := frame_joined (d := d)
    (f := fun i => { i with channelGroup := some group, channelMode := some (.known mode) }) (fun _ => rfl) key
  show Except.ok _ = Except.ok (framed _)
  unfold framed
  rw [joined, Device.contains_frame]
  rfl

theorem leaveGroup_frame : leaveGroup d.frame = framed <$> leaveGroup d := by
  unfold leaveGroup
  refine framed_bind currentInterface_frame ?_
  rintro ⟨key, i⟩
  let channel := "Port-channel" ++ ((i.channelGroup.map Text.intText).getD "None")
  refine framed_modify key (g := fun i => { i with channelGroup := none, channelMode := none }) (fun _ => rfl)
    (f := fun d => touching d (i.name :: if d.interfaces.contains channel then [channel] else [])) fun d => ?_
  rw [Device.contains_frame]
  rfl

/-! ## All commands -/

/-- An interface command does to the frame of a device what it does to the device. -/
theorem interfaceCommand_frame (c : InterfaceCommand) : c.apply d.frame = framed <$> c.apply d := by
  cases c with
  | description text =>
    exact framed_bind currentInterface_frame fun ⟨key, i⟩ => framed_set key { i with description := some text }
  | noDescription =>
    exact framed_bind currentInterface_frame fun ⟨key, i⟩ => framed_set key { i with description := none }
  | shutdown =>
    exact framed_bind currentInterface_frame fun ⟨key, i⟩ => framed_touch key { i with adminUp := false }
  | noShutdown =>
    exact framed_bind currentInterface_frame fun ⟨key, i⟩ => framed_touch key { i with adminUp := true }
  | ipAddress ip mask => exact setAddress_frame ip mask
  | noIpAddress address => exact clearAddress_frame address
  | accessGroup acl side => exact setFilter_frame acl side
  | noAccessGroup acl side => exact clearFilter_frame acl side
  | natDirection side =>
    exact framed_bind currentInterface_frame fun ⟨key, i⟩ => framed_set key { i with nat := some (.known side) }
  | noNatDirection side =>
    exact framed_bind currentInterface_frame fun ⟨key, i⟩ =>
      framed_set key { i with nat := if i.nat = some (.known side) then none else i.nat }
  | switchportMode mode =>
    exact framed_bind currentSwitchport_frame fun ⟨key, i⟩ => framed_touch key { i with mode := .known mode }
  | switchportAccessVlan vlan => exact setAccessVlan_frame vlan
  | trunkAllowed change => exact setTrunkVlans_frame change
  | trunkNative vlan =>
    exact framed_bind currentSwitchport_frame fun ⟨key, i⟩ => framed_touch key { i with nativeVlan := vlan }
  | portSecurity change => exact setPortSecurity_frame change
  | noPortSecurity =>
    exact framed_bind currentSwitchport_frame fun ⟨key, i⟩ => framed_set key { i with portSecurity := {} }
  | encapsulation vlan => exact setEncapsulation_frame vlan
  | channelGroup group mode => exact joinGroup_frame group mode
  | noChannelGroup => exact leaveGroup_frame
  | portfast =>
    exact framed_bind currentSwitchport_frame fun ⟨key, i⟩ => framed_assign key { i with portfast := true }
      (f := fun d => { ofDevice d with output := portfastWarning i }) fun _ => rfl
  | noPortfast =>
    exact framed_bind currentSwitchport_frame fun ⟨key, i⟩ => framed_set key { i with portfast := false }

end NetRack
