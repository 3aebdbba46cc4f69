import NetRack.Proofs.Ospf.TwoWay
import NetRack.Proofs.RouteTables

/-!
# The best routes

A path leads from router to router, each of which learns of the next one, and costs what its routers pay for
sending out of their interfaces.  Together with the cost of an interface where the last router runs OSPF this
is the cost of a way to the network there.  Once OSPF has been computed a router has exactly one route to each
network that there is a way to, unless it is connected to it, and the metric of the route is the least cost.
-/

namespace NetRack

namespace Topology

/-- A path over adjacencies from one router to another, with what it costs to send along it. -/
inductive OspfPath (t : Topology) (routers : List OspfRouter) : OspfRouter → Nat → OspfRouter → Prop where
  | here (r : OspfRouter) : OspfPath t routers r 0 r
  | step {r q last : OspfRouter} {a b : LinkEnd} {i j : Interface} {w : Nat} (hq : q ∈ routers)
    (gives : t.Gives q b j r a i) (rest : OspfPath t routers q w last) :
    OspfPath t routers r (ospfCost i.name + w) last

/-- What the ways cost that lead a router to a network: along a path to another router, and to an interface
with the network where that one runs OSPF. -/
def costsTo (t : Topology) (routers : List OspfRouter) (r : OspfRouter) (n : Network) : Set Nat :=
  {m | ∃ q ∈ routers, q.key ≠ r.key ∧ ∃ w, t.OspfPath routers r w q ∧
    ∃ i, q.RunsAt i ∧ i.net = some n ∧ m = w + ospfCost i.name}

/-- The OSPF routes of a device to a network. -/
def ospfRoutesTo (d : Device) (n : Network) : List Route :=
  d.routes.filter fun s => s.isFrom .ospf && decide (s.destination.toOption = some n)

/-- Whether the OSPF routes of a device are the best ones for a router: one to each network that there is a way
to, unless the device is connected to it, at the least cost of a way, and no others. -/
structure BestRouted (t : Topology) (routers : List OspfRouter) (r : OspfRouter) (d : Device) : Prop where
  best : ∀ n, n ∉ connectedNets d → (t.costsTo routers r n).Nonempty →
    ∃ s m, ospfRoutesTo d n = [s] ∧ s.metric = Int.ofNat m ∧ IsLeast (t.costsTo routers r n) m
  others : ∀ s ∈ d.routes, s.isFrom .ospf = true →
    ∃ n, s.destination = .ok n ∧ n ∉ connectedNets d ∧ (t.costsTo routers r n).Nonempty

variable {t v : Topology} {r : OspfRouter}

section Parts

variable {routers : List OspfRouter} {adjacent : OspfRouter → List (OspfNeighbor × Edge)}
  {networks : OspfRouter → List (Network × Nat)} {routes : OspfRouter → List Route}
  (p : OspfParts t routers adjacent networks routes) (h : t.Sound)

include p h

/-! ## Paths and walks -/

theorem OspfParts.mem_edgesFrom (hr : r ∈ routers) {e : Edge} :
    e ∈ edgesFrom (edgesOf adjacent routers) r.key ↔
      ∃ q ∈ routers, ∃ a i b j, t.Gives q b j r a i ∧ e = edgeTo i q j := by
  rw [p.edgesFrom_eq hr]
  exact p.mem_map_adjacent h hr

theorem OspfParts.leads_of_path {q : OspfRouter} {w : Nat} (path : t.OspfPath routers r w q) (hr : r ∈ routers) :
    Leads (edgesOf adjacent routers) r.key w q.key := by
  induction path with
  | here r => exact .stay r.key
  | step hq gives _ ih =>
    have edge := (p.mem_edgesFrom h hr).2 ⟨_, hq, _, _, _, _, gives, rfl⟩
    exact .go edge (ih hq)

theorem OspfParts.path_of_leads {key node : String} {w : Nat}
    (walk : Leads (edgesOf adjacent routers) key w node) (hr : r ∈ routers) (hkey : r.key = key) :
    ∃ q ∈ routers, q.key = node ∧ t.OspfPath routers r w q := by
  induction walk generalizing r with
  | stay key => exact ⟨r, hr, hkey, .here r⟩
  | go edge _ ih =>
    subst hkey
    obtain ⟨next, hnext, a, i, b, j, gives, rfl⟩ := (p.mem_edgesFrom h hr).1 edge
    obtain ⟨q, hq, hnode, path⟩ := ih hnext rfl
    exact ⟨q, hq, hnode, .step hnext gives path⟩

/-- A way costs what a walk to another router and one of the networks there cost together. -/
theorem OspfParts.mem_costsTo (hr : r ∈ routers) {n : Network} {m : Nat} :
    m ∈ t.costsTo routers r n ↔ ∃ node w cost, Leads (edgesOf adjacent routers) r.key w node ∧ node ≠ r.key ∧
      (n, cost) ∈ networksAt (stubsOf networks routers) node ∧ m = w + cost := by
  constructor
  · rintro ⟨q, hq, other, w, path, i, runs, hn, rfl⟩
    have advertises := (p.mem_networksAt h).2 ⟨q, hq, rfl, i, runs, hn, rfl⟩
    exact ⟨q.key, w, _, p.leads_of_path h path hr, other, advertises, rfl⟩
  · rintro ⟨node, w, cost, walk, away, hn, rfl⟩
    obtain ⟨q, hq, rfl, i, runs, hnet, rfl⟩ := (p.mem_networksAt h).1 hn
    obtain ⟨q', hq', hkey, path⟩ := p.path_of_leads h walk hr rfl
    obtain rfl := eq_of_key_eq p.apart hq' hq hkey
    exact ⟨q', hq', away, w, path, i, runs, hnet, rfl⟩

/-! ## Routes and ways -/

/-- The metric of a route is the least cost of the ways to its network. -/
theorem OspfParts.least (hr : r ∈ routers) {s : Route} (hs : s ∈ routes r) :
    ∃ m, s.metric = Int.ofNat m ∧ IsLeast (t.costsTo routers r s.net) m := by
  obtain ⟨hid, o, ho, rfl⟩ := p.exists_offer h hr hs
  obtain ⟨l, hl, hhop, cost, hn, unconnected, hmetric⟩ := mem_offers.1 ho
  have hnet : o.route.net = o.network := Route.net_eq (p.short h hn) rfl rfl
  rw [hnet]
  refine ⟨o.metric, rfl, ?_, fun m hm => ?_⟩
  · have away := (shortestPaths_hop hl).1 (by rw [hhop]; rfl)
    exact (p.mem_costsTo h hr).2 ⟨l.node, l.distance, cost, shortestPaths_walk hl, away, hn, hmetric⟩
  · -- Whatever undercuts a way is this route, for the routes of a router lead to different networks.
    obtain ⟨node, w, cost', walk, away, hn', rfl⟩ := (p.mem_costsTo h hr).1 hm
    obtain ⟨s', hs', hbase, hmask, cheaper⟩ := p.undercuts h hr hid walk away hn' unconnected
    have hnet' : s'.net = o.network := Route.net_eq (p.short h hn') hbase hmask
    rw [(p.real r hr).eq_of_net_eq hs' hs (hnet'.trans hnet.symm)] at cheaper
    exact Int.ofNat_le.1 cheaper

/-- A router has a route to each network that there is a way to, unless it is connected to it. -/
theorem OspfParts.exists_route (hr : r ∈ routers) (hid : r.id.isSome = true) {n : Network}
    (unconnected : n ∉ connectedNets r.device) (way : (t.costsTo routers r n).Nonempty) :
    ∃ s ∈ routes r, s.net = n := by
  obtain ⟨m, hm⟩ := way
  obtain ⟨node, w, cost, walk, away, hn, -⟩ := (p.mem_costsTo h hr).1 hm
  obtain ⟨s, hs, hbase, hmask, -⟩ := p.undercuts h hr hid walk away hn unconnected
  exact ⟨s, hs, Route.net_eq (p.short h hn) hbase hmask⟩

/-- A router that is identified has the best routes. -/
theorem OspfParts.bestRouted (hv : Recomputed t (resultsOf routers adjacent routes) v) (hr : r ∈ routers)
    (hid : r.id.isSome = true) : ∃ d, v.devices.get? r.key = some d ∧ t.BestRouted routers r d := by
  obtain ⟨d, hd, hup⟩ := p.updated hv hr
  have connected : connectedNets d = connectedNets r.device :=
    congrArg (List.map Route.net) (hup.connected_eq (h.devices _ _ (p.within r hr).1).routes)
  have computed {s : Route} (ospf : s.isFrom .ospf = true) : s ∈ d.routes ↔ s ∈ routes r := by
    rw [hup.routes, ospf]
    simp
  refine ⟨d, hd, fun n unconnected way => ?_, fun s hs ospf => ?_⟩
  · rw [connected] at unconnected
    obtain ⟨s, hs, rfl⟩ := p.exists_route h hr hid unconnected way
    obtain ⟨m, hmetric, least⟩ := p.least h hr hs
    refine ⟨s, m, ?_, hmetric, least⟩
    -- The table has no other OSPF route to this network, and this one only once.
    have table := hup.table.filter fun x => x.isFrom .ospf && decide (x.destination.toOption = some s.net)
    refine table.eq_of_mem_iff ⟨?_, List.pairwise_singleton _ _⟩ fun x => ?_
    · exact fun x hx => List.mem_singleton.1 hx ▸ ((p.real r hr).each s hs).1
    · rw [List.mem_filter, Bool.and_eq_true, decide_eq_true_eq, toOption_eq_some, List.mem_singleton]
      constructor
      · rintro ⟨hx, ospf, hdestination⟩
        have hx := (computed ospf).1 hx
        rw [((p.real r hr).each x hx).1.destination, Except.ok.injEq] at hdestination
        exact (p.real r hr).eq_of_net_eq hx hs hdestination
      · rintro rfl
        obtain ⟨isRoute, ospf⟩ := (p.real r hr).each x hs
        exact ⟨(computed ospf).2 hs, ospf, isRoute.destination⟩
  · have hs := (computed ospf).1 hs
    obtain ⟨m, -, least⟩ := p.least h hr hs
    rw [connected]
    exact ⟨s.net, ((p.real r hr).each s hs).1.destination, p.not_connected h hr hs, m, least.1⟩

end Parts

/-- Whatever was done to a lab, once OSPF has been computed anew every router that is identified has the best
routes. -/
theorem reached_bestRouted (cs : List Change) :
    ∃ routers, (reached cs).ospfRouters = .ok routers ∧
      Yields (fun v => ∀ r ∈ routers, r.id.isSome = true →
        ∃ d, v.devices.get? r.key = some d ∧ (reached cs).BestRouted routers r d) (reached cs).recomputeOspf := by
  have h := (reached_orderly cs).sound
  obtain ⟨routers, adjacent, networks, routes, p⟩ := ospfParts_exist h
  obtain ⟨results, hresults, hyields⟩ := recomputeOspf_yields h
  rw [p.results] at hresults
  cases hresults
  exact ⟨routers, p.found, hyields.imp fun v hv r hr hid => p.bestRouted h hv hr hid⟩

end Topology

end NetRack
