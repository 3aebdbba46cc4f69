import NetRack.Proofs.Ospf.Neighbors
import NetRack.Proofs.Propagation.Connected

/-!
# Recomputing OSPF

Recomputing gives every router the neighbors and routes that OSPF computes for it, takes those away
from every other device, and changes nothing else.  It changes nothing at all exactly if every device
has what OSPF computes for it already, and what it computes depends on the view of a topology alone.
-/

namespace NetRack

/-- What OSPF computes for the device under a key; nothing if it is no router. -/
def resultFor (results : List OspfResult) (key : String) : OspfResult :=
  (results.find? (·.key = key)).getD ⟨key, [], []⟩

namespace Topology

variable {t : Topology}

/-! ## Changing many devices -/

theorem get?_foldl_modifyDevice {α : Type} {key : α → String} {f : α → Device → Device} {es : List α}
    (nodup : (es.map key).Nodup) (t : Topology) (k : String) :
    (es.foldl (fun t e => t.modifyDevice (key e) (f e)) t).devices.get? k =
      match es.find? (key · = k) with
      | some e => (t.devices.get? k).map (f e)
      | none => t.devices.get? k := by
  induction es generalizing t with
  | nil => rfl
  | cons e es ih =>
    rw [List.map_cons, List.nodup_cons] at nodup
    rw [List.foldl_cons, ih nodup.2, get?_modifyDevice, List.find?_cons]
    by_cases hk : key e = k
    · have later : es.find? (key · = k) = none := by
        rw [List.find?_eq_none]
        intro x hx heq
        exact nodup.1 (hk ▸ of_decide_eq_true heq ▸ List.mem_map_of_mem hx)
      rw [later, if_pos hk.symm]
      simp [hk]
    · rw [if_neg fun heq => hk heq.symm]
      simp [hk]

theorem foldl_modifyDevice_keeps {α : Type} {k : α → String} {f : α → Device → Device} (es : List α)
    (t : Topology) :
    (es.foldl (fun t e => t.modifyDevice (k e) (f e)) t).links = t.links ∧
      (es.foldl (fun t e => t.modifyDevice (k e) (f e)) t).nextLinkId = t.nextLinkId ∧
      (es.foldl (fun t e => t.modifyDevice (k e) (f e)) t).devices.keys = t.devices.keys := by
  induction es generalizing t with
  | nil => exact ⟨rfl, rfl, rfl⟩
  | cons e es ih =>
    obtain ⟨hlinks, hnext, hkeys⟩ := ih (t.modifyDevice (k e) (f e))
    exact ⟨hlinks, hnext, hkeys.trans (Table.keys_modify t.devices _ _)⟩

theorem foldlM_modifyDevice {α : Type} {key : α → String} {f : α → Device → Except Fault Device}
    {g : α → Device → Device} {es : List α} (nodup : (es.map key).Nodup)
    (h : ∀ e ∈ es, ∃ d, t.devices.get? (key e) = some d ∧ f e d = .ok (g e d)) :
    (es.foldlM (fun (t : Topology) e => do
        let d ← f e (← t.entry (key e))
        return t.modifyDevice (key e) fun _ => d) t) =
      .ok (es.foldl (fun t e => t.modifyDevice (key e) (g e)) t) := by
  induction es generalizing t with
  | nil => rfl
  | cons e es ih =>
    rw [List.map_cons, List.nodup_cons] at nodup
    obtain ⟨d, hd, hf⟩ := h e (by simp)
    have here : (t.modifyDevice (key e) fun _ => g e d) = t.modifyDevice (key e) (g e) := by
      unfold modifyDevice
      rw [Table.modify_at hd (g e)]
    rw [List.foldlM_cons, entry_eq hd, ok_bind, hf, ok_bind, pure_eq_ok, ok_bind, here,
      List.foldl_cons]
    refine ih nodup.2 fun x hx => ?_
    have hne : key x ≠ key e := fun heq => nodup.1 (heq ▸ List.mem_map_of_mem hx)
    obtain ⟨d', hd', hf'⟩ := h x (by simp [hx])
    exact ⟨d', by rw [get?_modifyDevice, if_neg hne, hd'], hf'⟩

/-! ## Installing routes -/

/-- Routes that OSPF computed can be put into a table without any. -/
theorem installed_yields {routes new : List Route} (table : RouteTable routes)
    (hroutes : ∀ r ∈ routes, ∀ s ∈ new, r.isFrom .ospf = true → r.net ≠ s.net) (hnew : OspfRoutes new) :
    Yields (fun result => RouteTable result ∧ ∀ s, s ∈ result ↔ s ∈ routes ∨ s ∈ new)
      (new.foldlM insertRoute routes) := by
  induction new generalizing routes with
  | nil => exact ⟨table, by simp⟩
  | cons r rest ih =>
    obtain ⟨hr, hospf⟩ := hnew.each r (by simp)
    obtain ⟨hfirst, hrest⟩ := List.pairwise_cons.1 hnew.apart
    have apart : ∀ s ∈ routes, s.key = r.key → s = r := by
      intro s hs heq
      have way := IsRoute.sameWay_of_key_eq (table.each s hs) hr heq
      simp only [Route.sameWay, Bool.and_eq_true, decide_eq_true_eq] at way
      have hsospf : s.isFrom .ospf = true := by
        rw [← hospf]
        unfold Route.isFrom
        rw [way.1.1.1.1]
      have hnet : s.net = r.net := by
        unfold Route.net Route.destination
        rw [way.1.1.1.2, way.1.1.2]
      exact absurd hnet (hroutes s hs r (by simp) hsospf)
    rw [List.foldlM_cons]
    refine (insertRoute_yields table hr apart).bind ?_
    rintro routes' ⟨table', hmem⟩
    refine (ih table' ?_ ⟨fun s hs => hnew.each s (by simp [hs]), hrest⟩).imp ?_
    · intro s hs u hu hsospf
      rcases (hmem s).1 hs with hs | rfl
      · exact hroutes s hs u (by simp [hu]) hsospf
      · exact hfirst u hu
    · rintro result ⟨hres, hiff⟩
      refine ⟨hres, fun s => ?_⟩
      rw [hiff, hmem, List.mem_cons, or_assoc]

/-- The device with what OSPF computed for it. -/
structure Updated (d : Device) (result : OspfResult) (d' : Device) : Prop where
  same : d' = { d with routes := d'.routes, ospfNeighbors := result.neighbors }
  table : RouteTable d'.routes
  routes : ∀ r, r ∈ d'.routes ↔ (r ∈ d.routes ∧ r.isFrom .ospf = false) ∨ r ∈ result.routes
  real : ∀ r ∈ result.routes, r.isFrom .ospf = true

/-- The topology with what OSPF computed. -/
structure Recomputed (t : Topology) (results : List OspfResult) (u : Topology) : Prop where
  rerouted : Rerouted t u
  updated : ∀ k d, t.devices.get? k = some d →
    ∃ d', u.devices.get? k = some d' ∧ Updated d (resultFor results k) d'

theorem connected_clearOspf (d : Device) :
    (clearOspf d).routes.filter (·.isFrom .connected) = d.routes.filter (·.isFrom .connected) :=
  filter_filter_of_imp (fun r connected => by simp [r.isFrom_of_ne connected (by decide : _ ≠ RouteSource.ospf)])
    d.routes

theorem clearOspf_updated {d : Device} (h : RouteTable d.routes) (key : String) :
    Updated d ⟨key, [], []⟩ (clearOspf d) where
  same := rfl
  table := h.filter _
  routes := by
    intro r
    simp [clearOspf, List.mem_filter]
  real := fun _ hr => (List.not_mem_nil hr).elim

/-! ## The parts of a computation -/

/-- The edges that leave routers with the given adjacencies. -/
def edgesOf (adjacent : OspfRouter → List (OspfNeighbor × Edge)) (routers : List OspfRouter) : EdgeTable :=
  (sortBy (keyLe OspfRouter.key) routers).map fun r => (r.key, (adjacent r).map Prod.snd)

/-- The networks of routers that advertise the given ones. -/
def stubsOf (networks : OspfRouter → List (Network × Nat)) (routers : List OspfRouter) :
    List (String × List (Network × Nat)) := routers.map fun r => (r.key, networks r)

/-- What a computation comes upon: the routers, with their adjacencies, networks and routes. -/
structure OspfParts (t : Topology) (routers : List OspfRouter)
    (adjacent : OspfRouter → List (OspfNeighbor × Edge)) (networks : OspfRouter → List (Network × Nat))
    (routes : OspfRouter → List Route) : Prop where
  found : t.ospfRouters = .ok routers
  apart : (routers.map OspfRouter.key).Nodup
  within : ∀ r ∈ routers, r.Within t
  adjacencies : ∀ r ∈ routers, t.adjacencies routers r = .ok (adjacent r)
  advertised : ∀ r ∈ routers, advertised r = .ok (networks r)
  computed : ∀ r ∈ routers,
    ospfRoutesOf (edgesOf adjacent routers) (stubsOf networks routers) r = .ok (routes r)
  real : ∀ r ∈ routers, OspfRoutes (routes r)

theorem ospfParts_exist (h : t.Sound) :
    ∃ routers adjacent networks routes, OspfParts t routers adjacent networks routes := by
  obtain ⟨routers, hrouters, apart, within⟩ := (ospfRouters_yields h).exists_ok
  have adjacent : ∀ r ∈ routers, ∃ found, t.adjacencies routers r = .ok found ∧
      ∀ x ∈ found, x.2.hop.Real := by
    intro r hr
    obtain ⟨found, hfound, learned⟩ := (adjacencies_spec h apart within hr).exists_ok
    refine ⟨found, hfound, fun x hx => ?_⟩
    obtain ⟨a, i, learns⟩ := (learned x).1 hx
    exact learns.real h within hr
  have networks : ∀ r ∈ routers, ∃ found, advertised r = .ok found ∧
      ∀ n cost, (n, cost) ∈ found ↔ r.Advertises n cost :=
    fun r hr => (advertised_spec h (within r hr)).exists_ok
  classical
  choose! adjacent hadjacent using adjacent
  choose! networks hnetworks using networks
  have hedges : ∀ p ∈ edgesOf adjacent routers, ∀ e ∈ p.2, e.hop.Real := by
    intro p hp e he
    obtain ⟨r, hr, rfl⟩ := List.mem_map.1 hp
    obtain ⟨x, hx, rfl⟩ := List.mem_map.1 he
    exact (hadjacent r (mem_sortBy.1 hr)).2 x hx
  have hstubs : ∀ s ∈ stubsOf networks routers, ∀ e ∈ s.2, e.1.length ≤ 32 := by
    intro s hs e he
    obtain ⟨r, hr, rfl⟩ := List.mem_map.1 hs
    exact (((hnetworks r hr).2 e.1 e.2).1 he).short h (within r hr)
  have routes : ∀ r ∈ routers, ∃ found,
      ospfRoutesOf (edgesOf adjacent routers) (stubsOf networks routers) r = .ok found ∧
        OspfRoutes found :=
    fun r hr => (ospfRoutesOf_yields h hedges hstubs (within r hr)).exists_ok
  choose! routes hroutes using routes
  exact ⟨routers, adjacent, networks, routes, hrouters, apart, within, fun r hr => (hadjacent r hr).1,
    fun r hr => (hnetworks r hr).1, fun r hr => (hroutes r hr).1, fun r hr => (hroutes r hr).2⟩

section Parts

variable {routers : List OspfRouter} {adjacent : OspfRouter → List (OspfNeighbor × Edge)}
  {networks : OspfRouter → List (Network × Nat)} {routes : OspfRouter → List Route}
  (p : OspfParts t routers adjacent networks routes)

include p

theorem OspfParts.mapM_adjacencies :
    (sortBy (keyLe OspfRouter.key) routers).mapM (fun r => do return (r, ← t.adjacencies routers r)) =
      .ok ((sortBy (keyLe OspfRouter.key) routers).map fun r => (r, adjacent r)) := by
  refine mapM_ok fun r hr => ?_
  rw [p.adjacencies r (mem_sortBy.1 hr)]
  rfl

theorem OspfParts.mapM_advertised :
    (routers.mapM fun r => do return (r.key, ← Topology.advertised r)) = .ok (stubsOf networks routers) := by
  refine mapM_ok fun r hr => ?_
  rw [p.advertised r hr]
  rfl

/-- The results in order of the routers. -/
def resultsOf (routers : List OspfRouter) (adjacent : OspfRouter → List (OspfNeighbor × Edge))
    (routes : OspfRouter → List Route) : List OspfResult :=
  (sortBy (keyLe OspfRouter.key) routers).map fun r => ⟨r.key, (adjacent r).map Prod.fst, routes r⟩

theorem OspfParts.results : t.ospfResults = .ok (resultsOf routers adjacent routes) := by
  unfold ospfResults
  simp only [p.found, ok_bind, p.mapM_adjacencies, p.mapM_advertised, List.map_map, List.mapM_map]
  refine mapM_ok fun r hr => ?_
  have hroutes := p.computed r (mem_sortBy.1 hr)
  simp only [edgesOf] at hroutes
  simp only [Function.comp_def, hroutes, ok_bind]
  rfl

/-! ## Recomputing gives what OSPF computes -/

/-- What installing does to a device: its OSPF routes are put into its table. -/
def installed (routes : OspfRouter → List Route) (r : OspfRouter) (d : Device) : Device :=
  { d with routes := ((routes r).foldlM insertRoute d.routes).toOption.getD [] }

theorem OspfParts.installRoutes {r : OspfRouter} (hr : r ∈ routers) {d : Device}
    (table : RouteTable d.routes) (none_yet : ∀ s ∈ d.routes, s.isFrom .ospf = false)
    (hc : d.routes.filter (·.isFrom .connected) = r.device.routes.filter (·.isFrom .connected)) :
    installRoutes (edgesOf adjacent routers) (stubsOf networks routers) r d = .ok (installed routes r d) ∧
      RouteTable (installed routes r d).routes ∧
      ∀ s, s ∈ (installed routes r d).routes ↔ s ∈ d.routes ∨ s ∈ routes r := by
  have put : Yields _ ((routes r).foldlM insertRoute d.routes) := installed_yields table
    (fun s hs u _ hospf => by rw [none_yet s hs] at hospf; cases hospf) (p.real r hr)
  obtain ⟨result, hput, htable, hmem⟩ := put.exists_ok
  have heq : installed routes r d = { d with routes := result } := by
    unfold installed
    rw [hput]
    rfl
  refine ⟨?_, by rw [heq]; exact htable, by rw [heq]; exact hmem⟩
  have computed := p.computed r hr
  unfold ospfRoutesOf at computed
  unfold Topology.installRoutes
  cases hid : r.id with
  | none =>
    simp only [hid, Except.ok.injEq] at computed
    rw [← computed] at hput
    cases hput
    rw [heq]
  | some id =>
    simp only [hid] at computed
    rw [← hc] at computed
    obtain ⟨nets, hnets, hbest⟩ := bind_eq_ok.1 computed
    simp only [pure_eq_ok, Except.ok.injEq] at hbest
    simp only [hnets, ok_bind, hbest, hput, heq, pure_eq_ok]

/-- The topology once OSPF has been recomputed. -/
def afterOspf (t : Topology) (routers : List OspfRouter) (adjacent : OspfRouter → List (OspfNeighbor × Edge))
    (routes : OspfRouter → List Route) : Topology :=
  let ordered := sortBy (keyLe OspfRouter.key) routers
  ordered.foldl (fun t r => t.modifyDevice r.key (installed routes r)) <|
    ordered.foldl (fun t r => t.modifyDevice r.key fun d =>
      { d with ospfNeighbors := (adjacent r).map Prod.fst })
      { t with devices := t.devices.mapValues fun _ d => clearOspf d }

theorem OspfParts.ordered_apart : ((sortBy (keyLe OspfRouter.key) routers).map OspfRouter.key).Nodup :=
  ((sortBy_perm _ _).map OspfRouter.key).nodup_iff.2 p.apart

theorem OspfParts.recomputeOspf (h : t.Sound) :
    t.recomputeOspf = .ok (afterOspf t routers adjacent routes) := by
  unfold Topology.recomputeOspf
  simp only [p.found, ok_bind, p.mapM_adjacencies, p.mapM_advertised, List.foldl_map, List.map_map]
  split
  · rename_i hempty
    rw [List.isEmpty_iff] at hempty
    subst hempty
    rfl
  · refine foldlM_modifyDevice p.ordered_apart fun r hr => ?_
    have hmem := mem_sortBy.1 hr
    obtain ⟨hd, -⟩ := p.within r hmem
    have hfind : ∃ r', (sortBy (keyLe OspfRouter.key) routers).find? (OspfRouter.key · = r.key) = some r' := by
      rw [← Option.isSome_iff_exists, List.find?_isSome]
      exact ⟨r, hr, by simp⟩
    obtain ⟨r', hr'⟩ := hfind
    refine ⟨{ clearOspf r.device with ospfNeighbors := (adjacent r').map Prod.fst }, ?_, ?_⟩
    · rw [get?_foldl_modifyDevice p.ordered_apart, hr']
      simp only [Table.get?_mapValues, hd, Option.map_some]
    · refine (p.installRoutes hmem ?_ ?_ ?_).1
      · exact (h.devices _ _ hd).routes.filter _
      · intro s hs
        simpa using (List.mem_filter.1 hs).2
      · exact connected_clearOspf r.device

omit p in
theorem resultFor_resultsOf (key : String) :
    resultFor (resultsOf routers adjacent routes) key =
      match (sortBy (keyLe OspfRouter.key) routers).find? (OspfRouter.key · = key) with
      | some r => ⟨r.key, (adjacent r).map Prod.fst, routes r⟩
      | none => ⟨key, [], []⟩ := by
  unfold resultFor resultsOf
  rw [List.find?_map]
  show (((sortBy (keyLe OspfRouter.key) routers).find? (OspfRouter.key · = key)).map _).getD _ = _
  cases (sortBy (keyLe OspfRouter.key) routers).find? (OspfRouter.key · = key) <;> rfl

omit p in
/-- Only for routers routes are computed. -/
theorem mem_resultFor {key : String} {s : Route}
    (computed : s ∈ (resultFor (resultsOf routers adjacent routes) key).routes) :
    ∃ r ∈ routers, r.key = key ∧ s ∈ routes r := by
  rw [resultFor_resultsOf] at computed
  cases hf : (sortBy (keyLe OspfRouter.key) routers).find? (OspfRouter.key · = key) with
  | none =>
    rw [hf] at computed
    cases computed
  | some r =>
    rw [hf] at computed
    exact ⟨r, mem_sortBy.1 (List.mem_of_find?_eq_some hf), by simpa using List.find?_some hf, computed⟩

theorem OspfParts.afterOspf_updated (h : t.Sound) {k : String} {d : Device}
    (hd : t.devices.get? k = some d) :
    ∃ d', (afterOspf t routers adjacent routes).devices.get? k = some d' ∧
      Updated d (resultFor (resultsOf routers adjacent routes) k) d' := by
  have hroutes := (h.devices _ _ hd).routes
  unfold afterOspf
  rw [get?_foldl_modifyDevice p.ordered_apart, get?_foldl_modifyDevice p.ordered_apart,
    resultFor_resultsOf]
  simp only [Table.get?_mapValues, hd, Option.map_some]
  cases hf : (sortBy (keyLe OspfRouter.key) routers).find? (OspfRouter.key · = k) with
  | none => exact ⟨clearOspf d, rfl, clearOspf_updated hroutes k⟩
  | some r =>
    have hr : r ∈ routers := mem_sortBy.1 (List.mem_of_find?_eq_some hf)
    have hkey : r.key = k := by simpa using List.find?_some hf
    have hdev : r.device = d := by
      have hget := (p.within r hr).1
      rw [hkey, hd] at hget
      exact (Option.some.inj hget).symm
    have cleared := clearOspf_updated hroutes k
    obtain ⟨-, htable, hmem⟩ := p.installRoutes hr
      (d := { clearOspf d with ospfNeighbors := (adjacent r).map Prod.fst }) cleared.table
      (fun s hs => by simpa using (List.mem_filter.1 hs).2) (by rw [hdev]; exact connected_clearOspf d)
    refine ⟨_, rfl, rfl, htable, fun s => (hmem s).trans ?_, fun s hs => ((p.real r hr).each s hs).2⟩
    show s ∈ (clearOspf d).routes ∨ _ ↔ _
    rw [cleared.routes s]
    simp

end Parts

/-- Recomputing gives every device what OSPF computes for it, and changes nothing else. -/
theorem recomputeOspf_yields (h : t.Sound) :
    ∃ results, t.ospfResults = .ok results ∧ Yields (Recomputed t results) t.recomputeOspf := by
  obtain ⟨routers, adjacent, networks, routes, p⟩ := ospfParts_exist h
  refine ⟨resultsOf routers adjacent routes, p.results, ?_⟩
  rw [p.recomputeOspf h]
  have keeps : (afterOspf t routers adjacent routes).links = t.links ∧
      (afterOspf t routers adjacent routes).nextLinkId = t.nextLinkId ∧
      (afterOspf t routers adjacent routes).devices.keys = t.devices.keys := by
    unfold afterOspf
    obtain ⟨hl, hn, hk⟩ := foldl_modifyDevice_keeps (k := OspfRouter.key) (f := installed routes)
      (sortBy (keyLe OspfRouter.key) routers) <|
        (sortBy (keyLe OspfRouter.key) routers).foldl (fun t r => t.modifyDevice r.key fun d =>
          { d with ospfNeighbors := (adjacent r).map Prod.fst })
          { t with devices := t.devices.mapValues fun _ d => clearOspf d }
    obtain ⟨hl', hn', hk'⟩ := foldl_modifyDevice_keeps (k := OspfRouter.key)
      (f := fun r d => { d with ospfNeighbors := (adjacent r).map Prod.fst })
      (sortBy (keyLe OspfRouter.key) routers)
      { t with devices := t.devices.mapValues fun _ d => clearOspf d }
    exact ⟨hl.trans hl', hn.trans hn', (hk.trans hk').trans (Table.keys_mapValues _ _)⟩
  refine ⟨⟨keeps.1, keeps.2.1, keeps.2.2, fun k d' hd' => ?_⟩, fun k d hd => p.afterOspf_updated h hd⟩
  have hk : k ∈ t.devices.keys := keeps.2.2 ▸ Table.mem_keys_of_get? hd'
  obtain ⟨d, hmem⟩ := Table.mem_keys.1 hk
  have hd : t.devices.get? k = some d := Table.get?_eq_some.2 hmem
  obtain ⟨d'', hd'', hup⟩ := p.afterOspf_updated h hd
  rw [hd'] at hd''
  cases hd''
  refine ⟨d, hd, ?_⟩
  rw [hup.same]

/-! ## Being up to date -/

/-- Every device has what OSPF computes for it. -/
def Current (t : Topology) : Prop :=
  ∃ results, t.ospfResults = .ok results ∧ ∀ k d, t.devices.get? k = some d →
    d.ospfNeighbors = (resultFor results k).neighbors ∧
      ∀ r : Route, r.isFrom .ospf = true → (r ∈ d.routes ↔ r ∈ (resultFor results k).routes)

/-- A change that the view does not show, nor neighbors nor routes of OSPF, leaves OSPF up to date. -/
theorem Current.of_view {u : Topology} (h : t.Current) (hview : u.view = t.view)
    (same : ∀ k d', u.devices.get? k = some d' → ∃ d, t.devices.get? k = some d ∧
      d'.ospfNeighbors = d.ospfNeighbors ∧
      ∀ r : Route, r.isFrom .ospf = true → (r ∈ d'.routes ↔ r ∈ d.routes)) : u.Current := by
  obtain ⟨results, hresults, hdevices⟩ := h
  refine ⟨results, (ospfResults_of_view hview).trans hresults, fun k d' hd' => ?_⟩
  obtain ⟨d, hd, hneighbors, hroutes⟩ := same k d' hd'
  obtain ⟨hn, hr⟩ := hdevices k d hd
  exact ⟨hneighbors.trans hn, fun r hospf => (hroutes r hospf).trans (hr r hospf)⟩

/-- A device keeps its connected routes. -/
theorem Updated.connected_eq {d d' : Device} {result : OspfResult} (h : Updated d result d')
    (table : RouteTable d.routes) :
    d'.routes.filter (·.isFrom .connected) = d.routes.filter (·.isFrom .connected) := by
  refine h.table.filter_eq table fun r hc => ?_
  have foreign : r.isFrom .ospf = false := Route.isFrom_of_ne hc (by decide : RouteSource.connected ≠ .ospf)
  rw [h.routes]
  constructor
  · rintro (⟨hr, -⟩ | hr)
    · exact hr
    · rw [h.real r hr] at foreign
      cases foreign
  · exact fun hr => Or.inl ⟨hr, foreign⟩

theorem Updated.view_eq {d d' : Device} {result : OspfResult} (h : Updated d result d')
    (table : RouteTable d.routes) : d'.view = d.view := by
  unfold Device.view
  rw [h.connected_eq table, h.same]

namespace Recomputed

variable {u : Topology} {results : List OspfResult}

theorem pair (hu : Recomputed t results u) {k : String} {d d' : Device} (hd : t.devices.get? k = some d)
    (hd' : u.devices.get? k = some d') : Updated d (resultFor results k) d' := by
  obtain ⟨d'', hd'', hup⟩ := hu.updated k d hd
  rw [hd'] at hd''
  cases hd''
  exact hup

theorem device (hu : Recomputed t results u) {k : String} {d' : Device} (hd' : u.devices.get? k = some d') :
    ∃ d, t.devices.get? k = some d ∧ Updated d (resultFor results k) d' := by
  obtain ⟨d, hd, -⟩ := hu.rerouted.devices k d' hd'
  exact ⟨d, hd, hu.pair hd hd'⟩

theorem sound (hu : Recomputed t results u) (h : t.Sound) : u.Sound := by
  refine hu.rerouted.sound h fun k d' hd' => ?_
  obtain ⟨d, hd, hup⟩ := hu.device hd'
  exact hup.table

theorem view_eq (hu : Recomputed t results u) (h : t.Sound) : u.view = t.view := by
  have devices : u.view.devices = t.view.devices := by
    refine Table.ext ?_ fun k => ?_
    · rw [view, view, Table.keys_mapValues, Table.keys_mapValues, hu.rerouted.keys]
    · rw [get?_devices_view, get?_devices_view]
      refine hu.rerouted.map_eq (fun k d d' hd hd' => ?_) k
      exact (hu.pair hd hd').view_eq (h.devices k d hd).routes
  have links : u.view.links = t.view.links := hu.rerouted.links
  exact Topology.eq_of_parts devices links rfl

/-- After recomputing OSPF is up to date. -/
theorem current (hu : Recomputed t results u) (h : t.Sound) (hresults : t.ospfResults = .ok results) :
    u.Current := by
  refine ⟨results, (ospfResults_of_view (hu.view_eq h)).trans hresults, fun k d' hd' => ?_⟩
  obtain ⟨d, hd, hup⟩ := hu.device hd'
  refine ⟨by rw [hup.same], fun r hr => ?_⟩
  rw [hup.routes, hr]
  simp

end Recomputed

/-- Recomputing changes nothing exactly if OSPF is up to date. -/
theorem recomputeOspf_eq_self_iff (h : t.Sound) : t.recomputeOspf = .ok t ↔ t.Current := by
  obtain ⟨results, hresults, hyields⟩ := recomputeOspf_yields h
  constructor
  · intro heq
    exact (hyields.value heq).current h hresults
  · rintro ⟨results', hresults', hdevices⟩
    rw [hresults] at hresults'
    cases hresults'
    obtain ⟨u, hok, hu⟩ := hyields.exists_ok
    rw [hok, hu.rerouted.eq_self fun k d d' hd hd' => ?_]
    have hup := hu.pair hd hd'
    obtain ⟨hneighbors, hroutes⟩ := hdevices k d hd
    have routes : d'.routes = d.routes := by
      refine hup.table.eq_of_mem_iff (h.devices k d hd).routes fun r => ?_
      rw [hup.routes]
      cases ho : r.isFrom .ospf with
      | true => simp [hroutes r ho]
      | false =>
        have foreign : r ∉ (resultFor results k).routes := by
          intro hr
          rw [hup.real r hr] at ho
          cases ho
        simp [foreign]
    rw [hup.same, routes, ← hneighbors]

end Topology

end NetRack
