import NetRack.Proofs.Ospf.Paths
import NetRack.Proofs.Ospf.Results

/-!
# OSPF never fails

On a sound topology everything that OSPF reads can be read: the addresses of interfaces and the
statements that put them into areas.  The routes that it computes for a router lead to different
networks.
-/

namespace NetRack

/-- What the hop of an edge is like: a named interface and an address. -/
def Hop.Real (h : Hop) : Prop := h.interface ≠ "" ∧ IsAddress h.address

/-- What the routes are like that OSPF computes for a router. -/
structure OspfRoutes (routes : List Route) : Prop where
  each : ∀ r ∈ routes, IsRoute r ∧ r.isFrom .ospf = true
  apart : routes.Pairwise fun a b => a.net ≠ b.net

theorem OspfRoutes.eq_of_net_eq {routes : List Route} (h : OspfRoutes routes) {a b : Route} (ha : a ∈ routes)
    (hb : b ∈ routes) (same : a.net = b.net) : a = b :=
  List.inj_on_of_nodup_map (List.pairwise_map.2 h.apart) ha hb same

namespace Topology

/-! ## Addresses and areas -/

theorem active_ip {i : Interface} (h : i.Addressed) (hi : i.isActive = true) :
    ∃ a : Address, i.ip = some a.text :=
  h.ip_of_hasIp (Bool.and_eq_true_iff.1 hi).2

theorem effectiveRouterId_yields {d : Device} (h : d.Sound) :
    Yields (fun _ => True) d.effectiveRouterId := by
  unfold Device.effectiveRouterId
  cases d.ospf with
  | none => trivial
  | some c =>
    cases hid : Text.present? c.routerId with
    | some id =>
      simp only [hid]
      trivial
    | none =>
      simp only [hid]
      have read : Yields (fun _ => True) ((d.interfaces.values.filter (·.isActive)).mapM fun i => do
          return ((← i.kind) == .loopback, ← Address.readField i.ip)) := by
        refine (Meets.mapM_all (P := fun _ => True) fun i hi => ?_).imp fun _ _ => trivial
        obtain ⟨hmem, hactive⟩ := List.mem_filter.1 hi
        have hget := h.interfaces.get?_of_mem_values hmem
        obtain ⟨a, ha⟩ := active_ip (h.interfaces.each _ i hget).addressed hactive
        rw [h.interfaces.kind_eq hget, ok_bind, ha, Address.readField_text]
        trivial
      exact read.bind fun _ _ => trivial

theorem areaIn_yields {ns : List OspfNetwork} (h : ∀ n ∈ ns, n.Readable) {ip : String}
    (hip : IsAddress ip) : Yields (fun _ => True) (areaIn ip ns) := by
  induction ns with
  | nil => trivial
  | cons n ns ih =>
    unfold areaIn OspfNetwork.covers
    have hn := h n (by simp)
    refine (matchesWildcard_yields hn.network hn.wildcard hip).bind fun b _ => ?_
    cases b with
    | true => trivial
    | false => exact ih fun m hm => h m (by simp [hm])

theorem ospfArea?_yields {d : Device} (h : d.Sound) {i : Interface} (hi : i.Addressed) :
    Yields (fun area => area.isSome = true → i.isActive = true) (ospfArea? d i) := by
  unfold ospfArea?
  cases hc : d.ospf with
  | none =>
    intro hsome
    cases hsome
  | some c =>
    refine Meets.ite (fun hactive => ?_) fun _ hsome => by cases hsome
    obtain ⟨a, ha⟩ := active_ip hi hactive
    rw [ha]
    exact (areaIn_yields (h.statements c hc) ⟨a, rfl⟩).imp fun _ _ _ => hactive

variable {t : Topology} (h : t.Sound)

include h

/-! ## Routers -/

/-- A router of the topology. -/
def OspfRouter.Within (t : Topology) (r : OspfRouter) : Prop :=
  t.devices.get? r.key = some r.device ∧ r.device.ospf = some r.config

omit h in
theorem configured_keys (es : List (String × Device)) :
    (es.filterMap fun e => e.2.ospf.map fun c => (e.1, e.2, c)).map Prod.fst =
      (es.filter fun e => e.2.ospf.isSome).map Prod.fst := by
  induction es with
  | nil => rfl
  | cons e es ih =>
    cases hc : e.2.ospf with
    | none => simpa [List.filterMap_cons, hc] using ih
    | some c => simpa [List.filterMap_cons, hc] using ih

theorem ospfRouters_yields :
    Yields (fun routers => (routers.map OspfRouter.key).Nodup ∧ ∀ r ∈ routers, r.Within t)
      t.ospfRouters := by
  have each : ∀ e ∈ t.devices.entries.filterMap fun e => e.2.ospf.map fun c => (e.1, e.2, c),
      t.devices.get? e.1 = some e.2.1 ∧ e.2.1.ospf = some e.2.2 := by
    intro e he
    obtain ⟨p, hp, heq⟩ := List.mem_filterMap.1 he
    obtain ⟨c, hc, rfl⟩ := Option.map_eq_some_iff.1 heq
    exact ⟨Table.get?_eq_some.2 hp, hc⟩
  unfold ospfRouters
  rw [mapM_ok (g := fun e => (⟨e.1, e.2.1, e.2.2, e.2.1.effectiveRouterId.toOption.getD none⟩ :
    OspfRouter))]
  · refine ⟨?_, ?_⟩
    · rw [List.map_map]
      show (List.map Prod.fst _).Nodup
      rw [configured_keys]
      exact (List.filter_sublist.map Prod.fst).nodup t.devices.nodup
    · intro r hr
      obtain ⟨e, he, rfl⟩ := List.mem_map.1 hr
      exact each e he
  · intro e he
    obtain ⟨id, hid, -⟩ := (effectiveRouterId_yields (h.devices _ _ (each e he).1)).exists_ok
    show (do return (⟨e.1, e.2.1, e.2.2, ← e.2.1.effectiveRouterId⟩ : OspfRouter)) = _
    rw [hid]
    rfl

/-! ## Routes -/

/-- Whether OSPF runs at an interface of a router. -/
structure OspfRouter.RunsAt (r : OspfRouter) (i : Interface) : Prop where
  port : r.device.interfaces.get? i.name = some i
  area : ∃ area, ospfArea? r.device i = .ok (some area)

/-- OSPF runs at interfaces that work. -/
theorem OspfRouter.RunsAt.isActive {r : OspfRouter} (hr : r.Within t) {i : Interface} (runs : r.RunsAt i) :
    i.isActive = true := by
  obtain ⟨area, harea⟩ := runs.area
  have haddr := ((h.table hr.1).each _ _ runs.port).addressed
  exact (ospfArea?_yields (h.devices _ _ hr.1) haddr).value harea rfl

/-- Whether a router advertises a network at a cost: those of an interface where OSPF runs. -/
def OspfRouter.Advertises (r : OspfRouter) (n : Network) (cost : Nat) : Prop :=
  ∃ i, r.RunsAt i ∧ i.net = some n ∧ cost = ospfCost i.name

theorem advertised_spec {r : OspfRouter} (hr : r.Within t) :
    Yields (fun found => ∀ n cost, (n, cost) ∈ found ↔ r.Advertises n cost) (advertised r) := by
  have table := h.table hr.1
  unfold advertised
  simp only [Device.sortedInterfaces_of_table table, ok_bind]
  -- What an interface has to advertise.
  have each : ∀ i ∈ r.device.ordered.map Prod.snd, Yields
      (fun o => ∀ n cost, (r.RunsAt i ∧ i.net = some n ∧ cost = ospfCost i.name) ↔ o = some (n, cost))
      (do if (← ospfArea? r.device i).isNone then return none
          return (← i.network?).map fun n => (n, ospfCost i.name)) := by
    intro i hi
    have hget := (Device.mem_ordered_values table).1 hi
    have haddr := (table.each _ _ hget).addressed
    obtain ⟨area, harea, -⟩ := (ospfArea?_yields (h.devices _ _ hr.1) haddr).exists_ok
    rw [harea, ok_bind]
    cases area with
    | none =>
      refine fun n cost => iff_of_false ?_ fun none_eq => by cases none_eq
      rintro ⟨⟨-, area, runs⟩, -⟩
      rw [harea] at runs
      cases runs
    | some area =>
      have runs : r.RunsAt i := ⟨hget, area, harea⟩
      rw [haddr.network?_eq]
      intro n cost
      rw [and_iff_right runs, Option.map_eq_some_iff]
      constructor
      · rintro ⟨hn, rfl⟩
        exact ⟨n, hn, rfl⟩
      · rintro ⟨n', hn, heq⟩
        cases heq
        exact ⟨hn, rfl⟩
  refine (Meets.mapM each).bind fun found hfound n cost => ?_
  rw [List.mem_filterMap, ← exists_mem_iff_of_forall₂ hfound fun i o ho => ho n cost]
  constructor
  · rintro ⟨i, -, advertises⟩
    exact ⟨i, advertises⟩
  · rintro ⟨i, runs, advertises⟩
    exact ⟨i, (Device.mem_ordered_values table).2 runs.port, runs, advertises⟩

theorem OspfRouter.Advertises.short {r : OspfRouter} (hr : r.Within t) {n : Network} {cost : Nat}
    (ha : r.Advertises n cost) : n.length ≤ 32 := by
  obtain ⟨i, runs, hn, -⟩ := ha
  exact ((h.table hr.1).each _ _ runs.port).addressed.net_short hn

/-- The networks that a device has connected routes to. -/
def connectedNets (d : Device) : List Network := (d.routes.filter (·.isFrom .connected)).map Route.net

/-- The best routes of a router to the networks that it is not connected to. -/
def bestRoutesOf (edges : EdgeTable) (stubs : List (String × List (Network × Nat))) (r : OspfRouter) :
    List (Network × Route) := bestRoutes (connectedNets r.device) stubs (shortestPaths edges r.key)

theorem ospfRoutesOf_eq (edges : EdgeTable) (stubs : List (String × List (Network × Nat))) {r : OspfRouter}
    (hr : r.Within t) : ospfRoutesOf edges stubs r =
      .ok (if r.id.isSome then (bestRoutesOf edges stubs r).map Prod.snd else []) := by
  have read : (r.device.routes.filter (·.isFrom .connected)).mapM (·.destination) =
      .ok (connectedNets r.device) :=
    mapM_ok fun s hs => ((h.devices _ _ hr.1).routes.each s (List.mem_filter.1 hs).1).destination
  unfold ospfRoutesOf
  cases r.id with
  | none => rfl
  | some id =>
    rw [read]
    rfl

theorem ospfRoutesOf_yields {edges : EdgeTable} (hedges : ∀ p ∈ edges, ∀ e ∈ p.2, e.hop.Real)
    {stubs : List (String × List (Network × Nat))} (hstubs : ∀ s ∈ stubs, ∀ e ∈ s.2, e.1.length ≤ 32)
    {r : OspfRouter} (hr : r.Within t) : Yields OspfRoutes (ospfRoutesOf edges stubs r) := by
  have shape : ∀ e ∈ bestRoutesOf edges stubs r, IsRoute e.2 ∧ e.2.isFrom .ospf = true ∧ e.2.net = e.1 := by
    intro e he
    obtain ⟨hshort, hop, metric, ⟨hname, a, ha⟩, heq⟩ :=
      bestRoutes_best (N := fun n => n.length ≤ 32) (shortestPaths_hops hedges r.key) hstubs e he
    have hop_eq : hop = ⟨hop.interface, a.text⟩ := by rw [← ha]
    rw [hop_eq] at heq
    have isRoute : IsRoute e.2 := heq ▸ IsRoute.ospf e.1 a hop.interface metric hshort hname
    exact ⟨isRoute, by rw [heq]; rfl, by rw [heq]; exact Route.net_eq hshort rfl rfl⟩
  rw [ospfRoutesOf_eq h edges stubs hr]
  cases r.id with
  | none => exact ⟨fun x hx => (List.not_mem_nil hx).elim, List.Pairwise.nil⟩
  | some id =>
    refine ⟨?_, ?_⟩
    · intro s hs
      obtain ⟨e, he, rfl⟩ := List.mem_map.1 hs
      exact ⟨(shape e he).1, (shape e he).2.1⟩
    · refine List.pairwise_map.2 ?_
      have cheapest := bestRoutes_cheapest (connectedNets r.device) stubs (shortestPaths edges r.key)
      refine List.Pairwise.imp_of_mem (fun {a b} ha hb hne => ?_) (List.pairwise_map.1 cheapest.apart)
      rw [(shape a ha).2.2, (shape b hb).2.2]
      exact hne

end Topology

end NetRack
