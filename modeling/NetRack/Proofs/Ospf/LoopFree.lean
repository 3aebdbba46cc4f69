import NetRack.Proofs.History
import NetRack.Proofs.Ospf.Neighbors
import NetRack.Proofs.Ospf.Search

/-!
# Routes without loops

Every router computes its routes by itself, from its own shortest paths.  Still they fit together: the next
router along a route is a neighbor, and it is connected to the network or has a cheaper route to it.  For the
rest of the way is a walk from there, which the other search took into account as well.  So whoever follows
the routes comes to a router that is connected to the network.
-/

namespace NetRack

theorem one_le_ospfCost (name : String) : 1 ≤ ospfCost name := by
  unfold ospfCost
  split
  · decide
  · split <;> decide

namespace Topology

variable {t v : Topology}

/-- A router is connected to the networks that it advertises. -/
theorem OspfRouter.Advertises.connected (hs : t.Settled) (h : t.Sound) {r : OspfRouter} (hr : r.Within t)
    {n : Network} {cost : Nat} (ha : r.Advertises n cost) : n ∈ connectedNets r.device := by
  have short := ha.short h hr
  obtain ⟨i, runs, hn, -⟩ := ha
  obtain ⟨up, -⟩ := Bool.and_eq_true_iff.1 (runs.isActive h hr)
  have dictated : r.device.connectedAt i.name = some (connectedRoute n i.name) := by
    unfold Device.connectedAt
    simp only [runs.port, up, if_true, hn, Option.map_some]
  obtain ⟨hmem, -⟩ := (hs.connects _ _ hr.1 i.name _).2 dictated
  exact List.mem_map.2 ⟨_, List.mem_filter.2 ⟨hmem, rfl⟩, Route.net_eq short rfl rfl⟩

/-! ## What the routers compute -/

section Parts

variable {routers : List OspfRouter} {adjacent : OspfRouter → List (OspfNeighbor × Edge)}
  {networks : OspfRouter → List (Network × Nat)} {routes : OspfRouter → List Route}
  (p : OspfParts t routers adjacent networks routes)

include p

theorem OspfParts.edgesFrom_eq {r : OspfRouter} (hr : r ∈ routers) :
    edgesFrom (edgesOf adjacent routers) r.key = (adjacent r).map Prod.snd := by
  have found := find?_key p.ordered_apart (mem_sortBy.2 hr)
  unfold edgesFrom edgesOf
  rw [List.find?_map]
  simp only [Function.comp_def, found, Option.map_some, Option.getD_some]

theorem OspfParts.identified {r : OspfRouter} (hr : r ∈ routers) :
    r.device.effectiveRouterId = .ok r.id := by
  have each : Meets (fun _ => True) (fun rs => ∀ r ∈ rs, r.device.effectiveRouterId = .ok r.id)
      t.ospfRouters := by
    refine Meets.mapM_all fun e _ => ?_
    dsimp only
    cases hid : e.2.1.effectiveRouterId with
    | error f => trivial
    | ok id => exact hid
  exact each.value p.found r hr

/-- A router has the neighbors and routes that it computed. -/
theorem OspfParts.updated (hv : Recomputed t (resultsOf routers adjacent routes) v) {r : OspfRouter}
    (hr : r ∈ routers) : ∃ d, v.devices.get? r.key = some d ∧
    Updated r.device ⟨r.key, (adjacent r).map Prod.fst, routes r⟩ d := by
  obtain ⟨d, hd, hup⟩ := hv.updated r.key r.device (p.within r hr).1
  rw [resultFor_resultsOf, find?_key p.ordered_apart (mem_sortBy.2 hr)] at hup
  exact ⟨d, hd, hup⟩

omit p in
/-- OSPF routes are those of routers. -/
theorem exists_router (hv : Recomputed t (resultsOf routers adjacent routes) v) {key : String} {d : Device}
    (hd : v.devices.get? key = some d) {s : Route} (hs : s ∈ d.routes) (hospf : s.isFrom .ospf = true) :
    ∃ r ∈ routers, r.key = key ∧ s ∈ routes r := by
  obtain ⟨d₀, -, hup⟩ := hv.device hd
  rcases (hup.routes s).1 hs with ⟨-, foreign⟩ | computed
  · rw [hospf] at foreign
    cases foreign
  · exact mem_resultFor computed

variable (h : t.Sound)

include h

theorem OspfParts.learns {r : OspfRouter} (hr : r ∈ routers) {e : Edge}
    (he : e ∈ edgesFrom (edgesOf adjacent routers) r.key) :
    ∃ q ∈ routers, ∃ a i b j, Compatible r a i q b j ∧ e = edgeTo i q j ∧
      entryFor i q j ∈ (adjacent r).map Prod.fst := by
  rw [p.edgesFrom_eq hr] at he
  obtain ⟨x, hx, rfl⟩ := List.mem_map.1 he
  have spec := (adjacencies_spec h p.apart p.within hr).value (p.adjacencies r hr)
  obtain ⟨a, i, q, hq, b, j, hc, -, rfl⟩ := (spec x).1 hx
  exact ⟨q, hq, a, i, b, j, hc, rfl, List.mem_map.2 ⟨_, hx, rfl⟩⟩

/-- The networks at a router are those that it advertises. -/
theorem OspfParts.mem_networksAt {node : String} {n : Network} {cost : Nat} :
    (n, cost) ∈ networksAt (stubsOf networks routers) node ↔
      ∃ q ∈ routers, q.key = node ∧ q.Advertises n cost := by
  have at_router {q : OspfRouter} (hq : q ∈ routers) (hf : routers.find? (OspfRouter.key · = node) = some q) :
      (n, cost) ∈ networksAt (stubsOf networks routers) node ↔ q.Advertises n cost := by
    unfold networksAt stubsOf
    rw [List.find?_map]
    simp only [Function.comp_def, hf, Option.map_some, Option.getD_some]
    exact (advertised_spec h (p.within q hq)).value (p.advertised q hq) n cost
  cases hf : routers.find? (OspfRouter.key · = node) with
  | none =>
    refine iff_of_false (fun hn => ?_) ?_
    · unfold networksAt stubsOf at hn
      rw [List.find?_map] at hn
      simp only [Function.comp_def, hf] at hn
      cases hn
    · rintro ⟨q, hq, hkey, -⟩
      exact absurd (decide_eq_true hkey) (List.find?_eq_none.1 hf q hq)
  | some q =>
    have hq := List.mem_of_find?_eq_some hf
    have hkey : q.key = node := by simpa using List.find?_some hf
    rw [at_router hq hf]
    constructor
    · exact fun ha => ⟨q, hq, hkey, ha⟩
    · rintro ⟨q', hq', hkey', ha⟩
      rwa [eq_of_key_eq p.apart hq hq' (hkey.trans hkey'.symm)]

theorem OspfParts.advertises {r : OspfRouter} (hr : r ∈ routers) {n : Network} {cost : Nat}
    (hn : (n, cost) ∈ networksAt (stubsOf networks routers) r.key) : r.Advertises n cost := by
  obtain ⟨q, hq, hkey, ha⟩ := (p.mem_networksAt h).1 hn
  rwa [eq_of_key_eq p.apart hr hq hkey.symm]

/-- The routes of a router that is identified are the best ones. -/
theorem OspfParts.routes_eq {r : OspfRouter} (hr : r ∈ routers) : routes r =
    if r.id.isSome then (bestRoutesOf (edgesOf adjacent routers) (stubsOf networks routers) r).map Prod.snd
    else [] := by
  have computed := p.computed r hr
  rw [ospfRoutesOf_eq h _ _ (p.within r hr)] at computed
  exact (Except.ok.inj computed).symm

/-- Only a router that is identified has routes, and each of them is an offer. -/
theorem OspfParts.exists_offer {r : OspfRouter} (hr : r ∈ routers) {s : Route} (hs : s ∈ routes r) :
    r.id.isSome = true ∧ ∃ o ∈ offers (connectedNets r.device) (stubsOf networks routers)
      (shortestPaths (edgesOf adjacent routers) r.key), s = o.route := by
  rw [p.routes_eq h hr] at hs
  split at hs
  · rename_i hid
    obtain ⟨e, he, rfl⟩ := List.mem_map.1 hs
    obtain ⟨o, ho, rfl⟩ := (bestRoutes_cheapest _ _ _).each e he
    exact ⟨hid, o, ho, rfl⟩
  · cases hs

/-- A route is that of a label of another router, which advertises its network. -/
theorem OspfParts.offered {r : OspfRouter} (hr : r ∈ routers) {s : Route} (hs : s ∈ routes r) :
    ∃ l ∈ shortestPaths (edgesOf adjacent routers) r.key, ∃ hop, l.hop = some hop ∧
      ∃ n cost, (n, cost) ∈ networksAt (stubsOf networks routers) l.node ∧
        s = ospfRoute n hop (l.distance + cost) := by
  obtain ⟨-, o, ho, rfl⟩ := p.exists_offer h hr hs
  obtain ⟨l, hl, hhop, cost, hn, -, hmetric⟩ := mem_offers.1 ho
  exact ⟨l, hl, o.hop, hhop, o.network, cost, hn, by rw [← hmetric]; rfl⟩

/-- A router has a route to a network that another one advertises, unless it is connected to it, and the route
is not dearer than any walk there. -/
theorem OspfParts.undercuts {r : OspfRouter} (hr : r ∈ routers) (hid : r.id.isSome = true) {node : String}
    {w : Nat} (walk : Leads (edgesOf adjacent routers) r.key w node) (away : node ≠ r.key) {n : Network}
    {cost : Nat} (hn : (n, cost) ∈ networksAt (stubsOf networks routers) node)
    (unconnected : n ∉ connectedNets r.device) :
    ∃ s ∈ routes r, s.network = n.base.text ∧ s.mask = n.mask.text ∧ s.metric ≤ (w + cost : Nat) := by
  obtain ⟨l, hl, rfl, near⟩ := shortestPaths_covers walk
  obtain ⟨hop, hhop⟩ := Option.isSome_iff_exists.1 ((shortestPaths_hop hl).2 away)
  have offer : (⟨n, hop, l.distance + cost⟩ : Offer) ∈ offers (connectedNets r.device)
      (stubsOf networks routers) (shortestPaths (edgesOf adjacent routers) r.key) :=
    mem_offers.2 ⟨l, hl, hhop, cost, hn, unconnected, rfl⟩
  obtain ⟨e, he, hnet, hmetric⟩ := (bestRoutes_cheapest _ _ _).least _ offer
  obtain ⟨o, -, rfl⟩ := (bestRoutes_cheapest _ _ _).each e he
  obtain rfl : o.network = n := hnet
  refine ⟨o.route, ?_, rfl, rfl, Int.le_trans hmetric (Int.ofNat_le.2 (Nat.add_le_add_right near cost))⟩
  rw [p.routes_eq h hr, if_pos hid]
  exact List.mem_map.2 ⟨_, he, rfl⟩

/-- A router that a walk leads from to one that advertises a network is connected to the network, or has a
route to it that is not dearer than the walk. -/
theorem OspfParts.reaches (hs : t.Settled) {q : OspfRouter} (hq : q ∈ routers) (hid : q.id.isSome = true)
    {node : String} {w : Nat} (walk : Leads (edgesOf adjacent routers) q.key w node) {n : Network} {cost : Nat}
    (hn : (n, cost) ∈ networksAt (stubsOf networks routers) node) :
    n ∈ connectedNets q.device ∨
      ∃ s ∈ routes q, s.network = n.base.text ∧ s.mask = n.mask.text ∧ s.metric ≤ (w + cost : Nat) := by
  by_cases home : n ∈ connectedNets q.device
  · exact Or.inl home
  · -- The router itself is connected to what it advertises.
    have away : node ≠ q.key := by
      rintro rfl
      exact home ((p.advertises h hq hn).connected hs h (p.within q hq))
    exact Or.inr (p.undercuts h hq hid walk away hn home)

/-- A route leads to a neighbor at its interface. -/
theorem OspfParts.next (hs : t.Settled) {r : OspfRouter} (hr : r ∈ routers) {s : Route} (hsr : s ∈ routes r) :
    ∃ q ∈ routers, ∃ a i b j, Compatible r a i q b j ∧ entryFor i q j ∈ (adjacent r).map Prod.fst ∧
      s.interface = some i.name ∧ s.nextHop = some (j.ip.getD "") ∧
      ((∃ s' ∈ q.device.routes, s'.isFrom .connected = true ∧ s'.network = s.network ∧ s'.mask = s.mask) ∨
        ∃ s' ∈ routes q, s'.network = s.network ∧ s'.mask = s.mask ∧ s'.metric < s.metric) := by
  obtain ⟨l, hl, hop, hhop, n, cost, hn, rfl⟩ := p.offered h hr hsr
  rcases shortestPaths_along hl with rfl | ⟨e, he, w, walk, hdistance, hfirst⟩
  · cases hhop
  obtain ⟨q, hq, a, i, b, j, hc, rfl, hentry⟩ := p.learns h hr he
  rw [hhop] at hfirst
  cases hfirst
  obtain ⟨-, _, -, hid, -⟩ := hc.ids
  refine ⟨q, hq, a, i, b, j, hc, hentry, rfl, rfl, ?_⟩
  rcases p.reaches h hs hq (by rw [hid]; rfl) walk hn with home | ⟨s', hs', hnet, hmask, hmetric⟩
  · obtain ⟨s', hs', rfl⟩ := List.mem_map.1 home
    obtain ⟨hmem, hconnected⟩ := List.mem_filter.1 hs'
    obtain ⟨-, hnet, hmask⟩ := ((h.devices _ _ (p.within q hq).1).routes.each s' hmem).net_texts
    exact Or.inl ⟨s', hmem, hconnected, hnet, hmask⟩
  · refine Or.inr ⟨s', hs', hnet, hmask, ?_⟩
    -- The step itself is what makes the difference.
    have paid := one_le_ospfCost i.name
    have shorter : w + cost < l.distance + cost := by
      rw [hdistance]
      show w + cost < ospfCost i.name + w + cost
      omega
    exact Int.lt_of_le_of_lt hmetric (Int.ofNat_lt.2 shorter)

end Parts

/-! ## Hop by hop -/

/-- Whether a device has a connected route to the network of a route, or an OSPF route to it that is
cheaper. -/
def HasBetter (d : Device) (r : Route) : Prop :=
  ∃ s ∈ d.routes, s.network = r.network ∧ s.mask = r.mask ∧
    (s.isFrom .connected = true ∨ s.isFrom .ospf = true ∧ s.metric < r.metric)

/-- Whether a route of a device leads to a router next: one of its neighbors at the interface of the route,
which has the address of the next hop. -/
structure NextStop (t : Topology) (key : String) (d : Device) (r : Route) (peer : String) (d' : Device) :
    Prop where
  device : t.devices.get? peer = some d'
  other : peer ≠ key
  router : d'.ospf.isSome = true
  owns : ∃ k j, d'.interfaces.get? k = some j ∧ j.ip.isSome = true ∧ j.ip = r.nextHop
  neighbor : ∃ n ∈ d.ospfNeighbors, r.interface = some n.interface ∧ r.nextHop = some n.address ∧
    d'.effectiveRouterId = .ok (some n.neighborId)

/-- After recomputing, every OSPF route leads to a router that is nearer to the network. -/
theorem recomputed_next (h : t.Sound) (hs : t.Settled) :
    Yields (fun v => ∀ key d, v.devices.get? key = some d → ∀ r ∈ d.routes, r.isFrom .ospf = true →
      ∃ peer d', v.NextStop key d r peer d' ∧ HasBetter d' r) t.recomputeOspf := by
  obtain ⟨routers, adjacent, networks, routes, p⟩ := ospfParts_exist h
  obtain ⟨results, hresults, hyields⟩ := recomputeOspf_yields h
  rw [p.results] at hresults
  cases hresults
  refine hyields.imp fun v hv key d hd s hsd hospf => ?_
  obtain ⟨r, hr, rfl, hsr⟩ := exists_router hv hd hsd hospf
  obtain ⟨q, hq, a, i, b, j, hc, hentry, hinterface, hhop, better⟩ := p.next h hs hr hsr
  obtain ⟨d₁, hd₁, hup⟩ := p.updated hv hr
  rw [hd] at hd₁
  cases hd₁
  obtain ⟨d', hd', hup'⟩ := p.updated hv hq
  obtain ⟨x, hx⟩ := hc.address h (p.within q hq)
  obtain ⟨area, -, theirs⟩ := hc.speak
  obtain ⟨-, id, -, hid, -⟩ := hc.ids
  refine ⟨q.key, d', ⟨hd', hc.apart, ?_, ⟨j.name, j, ?_, ?_, ?_⟩, ⟨entryFor i q j, ?_, hinterface, hhop, ?_⟩⟩, ?_⟩
  · rw [hup'.same]
    show q.device.ospf.isSome = true
    rw [(p.within q hq).2]
    rfl
  · rw [hup'.same]
    exact theirs.port
  · rw [hx]
    rfl
  · rw [hhop, hx]
    rfl
  · rw [hup.same]
    exact hentry
  · rw [hup'.same]
    show q.device.effectiveRouterId = .ok (some (q.id.getD ""))
    rw [p.identified hq, hid]
    rfl
  · rcases better with ⟨s', hs', hconnected, hnet, hmask⟩ | ⟨s', hs', hnet, hmask, hless⟩
    · have foreign := Route.isFrom_of_ne hconnected (by decide : RouteSource.connected ≠ .ospf)
      exact ⟨s', (hup'.routes s').2 (Or.inl ⟨hs', foreign⟩), hnet, hmask, Or.inl hconnected⟩
    · exact ⟨s', (hup'.routes s').2 (Or.inr hs'), hnet, hmask, Or.inr ⟨hup'.real s' hs', hless⟩⟩

/-- Whether the OSPF routes to a network lead from a router to one that is connected to it. -/
inductive ComesHome (t : Topology) (network mask : String) : String → Prop where
  | home {key : String} {d : Device} {r : Route} (hd : t.devices.get? key = some d) (hr : r ∈ d.routes)
    (connected : r.isFrom .connected = true) (hnet : r.network = network) (hmask : r.mask = mask) :
    ComesHome t network mask key
  | hop {key peer : String} {d d' : Device} {r : Route} (hd : t.devices.get? key = some d) (hr : r ∈ d.routes)
    (ospf : r.isFrom .ospf = true) (hnet : r.network = network) (hmask : r.mask = mask)
    (next : t.NextStop key d r peer d') (rest : ComesHome t network mask peer) : ComesHome t network mask key

/-- The metric decreases from one router to the next, so the way comes to an end. -/
theorem comesHome_of_next (h : t.Sound)
    (next : ∀ key d, t.devices.get? key = some d → ∀ r ∈ d.routes, r.isFrom .ospf = true →
      ∃ peer d', t.NextStop key d r peer d' ∧ HasBetter d' r)
    {key : String} {d : Device} {r : Route} (hd : t.devices.get? key = some d) (hr : r ∈ d.routes)
    (ospf : r.isFrom .ospf = true) : ComesHome t r.network r.mask key := by
  have nonneg {k : String} {d : Device} {s : Route} (hd : t.devices.get? k = some d) (hs : s ∈ d.routes)
      (hospf : s.isFrom .ospf = true) : 0 ≤ s.metric := by
    cases (h.devices k d hd).routes.each s hs with
    | connected n name short => cases hospf
    | static n target distance short far => cases hospf
    | ospf n a name metric short named => exact Int.natCast_nonneg metric
  induction hm : r.metric.toNat using Nat.strong_induction_on generalizing key d r with
  | _ m ih =>
    obtain ⟨peer, d', stop, s, hs, hnet, hmask, connected | ⟨hospf, less⟩⟩ := next key d hd r hr ospf
    · exact .hop hd hr ospf rfl rfl stop (.home stop.device hs connected hnet hmask)
    · have nearer : s.metric.toNat < m := by
        have low := nonneg stop.device hs hospf
        omega
      have rest := ih _ nearer stop.device hs hospf rfl
      rw [hnet, hmask] at rest
      exact .hop hd hr ospf rfl rfl stop rest

/-- After recomputing, whoever follows OSPF routes comes to a router that is connected to the network. -/
theorem recomputed_comesHome (h : t.Sound) (hs : t.Settled) :
    Yields (fun v => ∀ key d, v.devices.get? key = some d → ∀ r ∈ d.routes, r.isFrom .ospf = true →
      ComesHome v r.network r.mask key) t.recomputeOspf := by
  obtain ⟨results, -, recomputed⟩ := recomputeOspf_yields h
  refine ((recomputed_next h hs).and recomputed).imp fun v hv key d hd r hr ospf => ?_
  exact comesHome_of_next (hv.2.sound h) hv.1 hd hr ospf

/-- Whatever was done to a lab, once OSPF has been computed anew every OSPF route leads to another router,
which has the address of the next hop, is a neighbor at the interface of the route, and is connected to the
network or has a cheaper OSPF route to it. -/
theorem reached_nextStop (cs : List Change) :
    Yields (fun v => ∀ key d, v.devices.get? key = some d → ∀ r ∈ d.routes, r.isFrom .ospf = true →
      ∃ peer d', v.NextStop key d r peer d' ∧ HasBetter d' r) (reached cs).recomputeOspf :=
  recomputed_next (reached_orderly cs).sound (reached_orderly cs).settled

end Topology

end NetRack
