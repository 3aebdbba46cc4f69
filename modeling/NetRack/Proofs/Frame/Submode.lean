import NetRack.Proofs.Frame.Interface

/-!
# Commands of the other submodes and the frame

A command of any other submode, and the address of an end host, do to the frame of a device what they do
to the device.
-/

namespace NetRack

open Outcome

variable {d : Device}

/-! ## Routing processes and terminal lines -/

theorem addOspfNetwork_frame (entry : OspfNetwork) :
    addOspfNetwork d.frame entry = framed <$> addOspfNetwork d entry := by
  unfold addOspfNetwork
  refine framed_step fun c => ?_
  dsimp only
  split <;> rfl

theorem removeNetwork_frame (network : Address) (tail : Option (Address × Int)) :
    removeNetwork d.frame network tail = framed <$> removeNetwork d network tail := by
  unfold removeNetwork
  refine framed_step fun c => ?_
  cases c with
  | some c =>
    cases tail with
    | none => rfl
    | some p => exact framed_step fun _ => rfl
  | none =>
    refine framed_step fun c => ?_
    cases c <;> rfl

theorem addPassiveInterface_frame (name : String) :
    addPassiveInterface d.frame name = framed <$> addPassiveInterface d name := by
  have ospf : d.frame.ospf = d.ospf := rfl
  have rip : d.frame.rip = d.rip := rfl
  have which : configures d.frame .ospf = configures d .ospf := rfl
  unfold addPassiveInterface
  rw [Device.contains_frame, ospf, rip, which]
  refine framed_step fun _ => ?_
  cases configures d .ospf with
  | true => cases d.ospf <;> rfl
  | false => cases d.rip <;> rfl

theorem routerCommand_frame (c : RouterCommand) : c.apply d.frame = framed <$> c.apply d := by
  cases c with
  | ospfNetwork network wildcard area => exact addOspfNetwork_frame _
  | ripNetwork network => exact framed_step fun _ => rfl
  | noNetwork network tail => exact removeNetwork_frame network tail
  | routerId id => exact framed_step fun _ => rfl
  | ripVersion version => exact framed_step fun _ => rfl
  | noAutoSummary => exact framed_step fun _ => rfl
  | passiveInterface name => exact addPassiveInterface_frame name

theorem lineCommand_frame (c : LineCommand) : c.apply d.frame = framed <$> c.apply d := by
  unfold LineCommand.apply
  refine framed_step fun e => ?_
  cases c with
  | login method =>
    dsimp only
    split <;> rfl
  | transportInput transport => exact framed_step fun _ => rfl
  | password secret => rfl
  | noLogin => rfl
  | execTimeout minutes seconds => rfl
  | loggingSynchronous => rfl

/-! ## VLANs, access lists and pools -/

theorem nameVlan_frame (name : String) : nameVlan d.frame name = framed <$> nameVlan d name := by
  have context : d.frame.context = d.context := rfl
  have vlans : d.frame.vlans = d.vlans := rfl
  unfold nameVlan
  rw [context]
  cases d.context.vlan with
  | none => rfl
  | some vlan =>
    dsimp only
    rw [vlans]
    split
    · rfl
    · exact framed_step fun _ => rfl

theorem addRule_frame (e : RuleEntry) : addRule d.frame e = framed <$> addRule d e := by
  have context : d.frame.context = d.context := rfl
  have acls : d.frame.acls = d.acls := rfl
  unfold addRule
  rw [context, acls]
  cases d.context.acl.bind fun key => (d.acls.get? key).map fun l => (key, l) with
  | none => rfl
  | some found => exact framed_step fun _ => rfl

theorem poolCommand_frame (c : PoolCommand) : c.apply d.frame = framed <$> c.apply d := by
  unfold PoolCommand.apply
  exact framed_step fun e => framed_step fun _ => rfl

/-! ## End hosts -/

theorem withoutStaticDefault_frame (h : RouteTable d.routes) :
    withoutStaticDefault d.frame.routes =
      (List.filter fun r => !r.isDerived) <$> withoutStaticDefault d.routes := by
  have table : RouteTable d.frame.routes := h.filter _
  rw [withoutStaticDefault_eq h, withoutStaticDefault_eq table, map_ok, List.filter_comm]
  rfl

theorem setHostAddress_frame (h : d.Sound) (ip mask : Address) (gateway : Option Address) :
    setHostAddress d.frame ip mask gateway = framed <$> setHostAddress d ip mask gateway := by
  -- An address is given to a port, and what routes there are to be then is settled before.
  have addressed (routes : List Route) (key : String) (i : Interface) := framed_touch
    (d := { d with defaultGateway := gateway.map (·.text), routes }) key i
  unfold setHostAddress
  rw [Device.sortedEntries_frame]
  refine framed_bind (liftM_map _ _) fun es => ?_
  cases es with
  | nil => rfl
  | cons e es =>
    refine framed_step fun n => framed_step fun _ => framed_step fun _ => ?_
    rw [withoutStaticDefault_frame h.routes, withoutStaticDefault_eq h.routes, map_ok, liftM_ok, liftM_ok,
      ok_bind, ok_bind]
    have done := fun routes => addressed routes e.1 { e.2 with
      ip := some ip.text, mask := some n.mask.text, adminUp := true }
    cases gateway with
    | none => exact done _
    | some g =>
      have put := insertRoute_filter (h.routes.filter fun r => !(r.isFrom .static && r.net.length = 0))
        (defaultRoute_isRoute g) (apart_without_default h.routes g) (p := fun r => !r.isDerived) rfl
      refine framed_bind (k := List.filter fun r => !r.isDerived) ?_ fun routes => ?_
      · rw [← liftM_map, ← put]
      · exact done routes

end NetRack
