import NetRack.Proofs.Ospf.View

/-!
# What OSPF computes

For every router with a process, OSPF computes its neighbors and its routes.  These are computed from
the view of a topology alone, so they are the same for topologies of one view.
-/

namespace NetRack

/-- What OSPF computes for a router. -/
structure OspfResult where
  key : String
  neighbors : List OspfNeighbor
  routes : List Route

namespace Topology

/-- The routes that OSPF computes for a router. -/
def ospfRoutesOf (edges : EdgeTable) (stubs : List (String × List (Network × Nat))) (r : OspfRouter) :
    Except Fault (List Route) :=
  match r.id with
  | none => .ok []
  | some _ => do
    let connected ← (r.device.routes.filter (·.isFrom .connected)).mapM (·.destination)
    return (bestRoutes connected stubs (shortestPaths edges r.key)).map Prod.snd

/-- What OSPF computes for all routers. -/
def ospfResults (t : Topology) : Except Fault (List OspfResult) := do
  let routers ← t.ospfRouters
  let found ← (sortBy (keyLe OspfRouter.key) routers).mapM fun r => do
    return (r, ← t.adjacencies routers r)
  let stubs ← routers.mapM fun r => do return (r.key, ← advertised r)
  let edges : EdgeTable := found.map fun e => (e.1.key, e.2.map Prod.snd)
  found.mapM fun e => do return ⟨e.1.key, e.2.map Prod.fst, ← ospfRoutesOf edges stubs e.1⟩

/-! ## Routers in a view -/

/-- A router with the view of its device. -/
def OspfRouter.view (r : OspfRouter) : OspfRouter := { r with device := r.device.view }

@[simp] theorem OspfRouter.key_view (r : OspfRouter) : r.view.key = r.key := rfl

theorem effectiveRouterId_view (d : Device) : d.view.effectiveRouterId = d.effectiveRouterId := by
  have active : d.view.interfaces.values.filter (·.isActive) =
      (d.interfaces.values.filter (·.isActive)).map Interface.wiring := by
    rw [Device.view, Table.values_mapValues, Table.values, List.filter_map, List.filter_map,
      List.map_map]
    rfl
  unfold Device.effectiveRouterId
  simp only [active, List.mapM_map]
  rfl

theorem ospfRouters_view (t : Topology) :
    t.view.ospfRouters = List.map OspfRouter.view <$> t.ospfRouters := by
  have configured : (t.view.devices.entries.filterMap fun e => e.2.ospf.map fun c => (e.1, e.2, c)) =
      (t.devices.entries.filterMap fun e => e.2.ospf.map fun c => (e.1, e.2, c)).map
        fun e => (e.1, e.2.1.view, e.2.2) := by
    rw [view, Table.entries_mapValues, List.filterMap_map, List.map_filterMap]
    refine List.filterMap_congr fun e _ => ?_
    show (e.2.ospf.map fun c => (e.1, e.2.view, c)) = _
    cases e.2.ospf <;> rfl
  unfold ospfRouters
  rw [configured]
  refine mapM_map_of (fun e => ?_) _
  show (do return (⟨e.1, e.2.1.view, e.2.2, ← e.2.1.view.effectiveRouterId⟩ : OspfRouter)) = _
  rw [effectiveRouterId_view]
  show _ = OspfRouter.view <$> do
    return (⟨e.1, e.2.1, e.2.2, ← e.2.1.effectiveRouterId⟩ : OspfRouter)
  cases e.2.1.effectiveRouterId <;> rfl

theorem find?_view (routers : List OspfRouter) (key : String) :
    (routers.map OspfRouter.view).find? (·.key = key) =
      (routers.find? (·.key = key)).map OspfRouter.view := by
  rw [List.find?_map]
  rfl

theorem adjacency?_view (routers : List OspfRouter) (r : OspfRouter) (id : String) (i : Interface)
    (area : Int) (e : LinkEnd) :
    adjacency? (routers.map OspfRouter.view) r.view id i.wiring area e =
      adjacency? routers r id i area e := by
  unfold adjacency?
  rw [find?_view]
  cases routers.find? (·.key = e.device) with
  | none => rfl
  | some p =>
    simp only [Option.map_some]
    have port : p.view.device.interfaces.get? e.port =
        (p.device.interfaces.get? e.port).map Interface.wiring := Device.get?_view p.device e.port
    rw [port]
    cases p.device.interfaces.get? e.port <;> rfl

theorem adjacenciesAt_view (t : Topology) (routers : List OspfRouter) (r : OspfRouter) (id : String)
    (i : Interface) :
    t.view.adjacenciesAt (routers.map OspfRouter.view) r.view id i.wiring =
      t.adjacenciesAt routers r id i := by
  unfold adjacenciesAt
  have each : adjacency? (routers.map OspfRouter.view) r.view id i.wiring =
      adjacency? routers r id i := by
    funext area e
    exact adjacency?_view routers r id i area e
  simp only [domain_view, each]
  rfl

theorem adjacencies_view (t : Topology) (routers : List OspfRouter) (r : OspfRouter) :
    t.view.adjacencies (routers.map OspfRouter.view) r.view = t.adjacencies routers r := by
  unfold adjacencies
  have id : r.view.id = r.id := rfl
  have interfaces : r.view.device.sortedInterfaces =
      List.map Interface.wiring <$> r.device.sortedInterfaces := Device.sortedInterfaces_view r.device
  rw [id, interfaces]
  cases r.id with
  | none => rfl
  | some id =>
    cases r.device.sortedInterfaces with
    | error f => rfl
    | ok is =>
      simp only [map_ok, ok_bind, List.mapM_map, Function.comp_def, adjacenciesAt_view]

theorem advertised_view (r : OspfRouter) : advertised r.view = advertised r := by
  unfold advertised
  have interfaces : r.view.device.sortedInterfaces =
      List.map Interface.wiring <$> r.device.sortedInterfaces := Device.sortedInterfaces_view r.device
  rw [interfaces]
  cases r.device.sortedInterfaces with
  | error f => rfl
  | ok is =>
    simp only [map_ok, ok_bind, List.mapM_map, Function.comp_def]
    rfl

theorem ospfRoutesOf_view (edges : EdgeTable) (stubs : List (String × List (Network × Nat)))
    (r : OspfRouter) : ospfRoutesOf edges stubs r.view = ospfRoutesOf edges stubs r := by
  have connected : r.view.device.routes.filter (·.isFrom .connected) =
      r.device.routes.filter (·.isFrom .connected) := by
    show (r.device.routes.filter (·.isFrom .connected)).filter (·.isFrom .connected) = _
    rw [List.filter_filter]
    simp only [Bool.and_self]
  unfold ospfRoutesOf
  rw [connected]
  rfl

/-- What OSPF computes for a topology is what it computes for its view. -/
theorem ospfResults_view (t : Topology) : t.view.ospfResults = t.ospfResults := by
  unfold ospfResults
  rw [ospfRouters_view]
  cases t.ospfRouters with
  | error f => simp only [map_error, error_bind]
  | ok routers =>
    have found := mapM_map_of (f := fun r => do return (r, ← t.adjacencies routers r))
      (p := fun r => do return (r, ← t.view.adjacencies (routers.map OspfRouter.view) r))
      (g := OspfRouter.view) (q := fun e => (e.1.view, e.2))
      (fun r => by
        rw [adjacencies_view]
        cases t.adjacencies routers r <;> rfl)
      (sortBy (keyLe OspfRouter.key) routers)
    have ordered : sortBy (keyLe OspfRouter.key) (routers.map OspfRouter.view) =
        (sortBy (keyLe OspfRouter.key) routers).map OspfRouter.view := sortBy_map _ _ _
    have stubs : ((routers.map OspfRouter.view).mapM fun r => do return (r.key, ← advertised r)) =
        routers.mapM fun r => do return (r.key, ← advertised r) := by
      simp only [List.mapM_map, Function.comp_def, advertised_view, OspfRouter.key_view]
    simp only [map_ok, ok_bind, ordered, found, stubs]
    cases (sortBy (keyLe OspfRouter.key) routers).mapM fun r => do
        return (r, ← t.adjacencies routers r) with
    | error f => simp only [map_error, error_bind]
    | ok adjacent =>
      simp only [map_ok, ok_bind, List.mapM_map, List.map_map, Function.comp_def, ospfRoutesOf_view,
        OspfRouter.key_view]

/-- Topologies of one view have the same results. -/
theorem ospfResults_of_view {t u : Topology} (h : u.view = t.view) : u.ospfResults = t.ospfResults := by
  rw [← ospfResults_view u, h, ospfResults_view]

end Topology

end NetRack
