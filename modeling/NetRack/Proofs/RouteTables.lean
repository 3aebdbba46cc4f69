import NetRack.Proofs.Dictated
import NetRack.Proofs.Ospf.LoopFree
import NetRack.Proofs.Settings.Line
import NetRack.Proofs.UpToDate

/-!
# Tables of routes

Connected routes, static routes and OSPF routes are put into one table at different times, and changes of other
devices may call for it.  Still the table of every device is in order, no two of its static routes go the same
way, an OSPF route leads to a network of its own that the device is not connected to, and whatever was derived
leaves by an interface that works.
-/

namespace NetRack

open Outcome

/-! ## Static routes -/

/-- Static routes have distances within bounds, and no two of them go the same way. -/
structure Settings.RoutesApart (s : Settings) : Prop where
  near : ∀ r ∈ s.routes, 1 ≤ r.distance ∧ r.distance ≤ 255
  apart : ∀ r ∈ s.routes, ∀ x ∈ s.routes, x.sameWay r = true → x = r

theorem Route.sameWay_comm (a b : Route) : a.sameWay b = b.sameWay a := by
  unfold Route.sameWay
  simp only [eq_comm]

/-- What a command configures is near enough. -/
theorem Command.Configures.near {d : Device} {c : Command} {r : Route} (configures : c.Configures r)
    (bounded : c.Bounded d) : 1 ≤ r.distance ∧ r.distance ≤ 255 := by
  cases configures with
  | route n target distance => exact bounded.2
  | gateway gateway => exact ⟨Int.le_refl 1, (by decide : (1 : Int) ≤ 255)⟩

namespace Settings.RoutesApart

theorem factory (type : DeviceType) (hostname id : String) :
    (Device.factory type hostname id).settings.RoutesApart :=
  ⟨fun _ hr => (List.not_mem_nil hr).elim, fun _ hr => (List.not_mem_nil hr).elim⟩

variable {d : Device} {c : Command} {s s' : Settings}

theorem step (h : s.RoutesApart) (bounded : c.Bounded d) (step : s.Step c s') : s'.RoutesApart := by
  rcases step.ofRoutes with same | step
  · exact ⟨same ▸ h.near, same ▸ h.apart⟩
  cases step with
  | put configures mem =>
    refine ⟨fun x hx => ?_, fun x hx y hy way => ?_⟩
    · rcases mem x hx with rfl | ⟨hx, -⟩
      · exact configures.near bounded
      · exact h.near x hx
    · -- The new route goes another way than any that stays.
      rcases mem x hx with rfl | ⟨hx, otherX⟩ <;> rcases mem y hy with rfl | ⟨hy, otherY⟩
      · rfl
      · rw [otherY] at way
        cases way
      · rw [Route.sameWay_comm, otherX] at way
        cases way
      · exact h.apart x hx y hy way
  | drop mem => exact ⟨fun x hx => h.near x (mem x hx), fun x hx y hy => h.apart x (mem x hx) y (mem y hy)⟩

end Settings.RoutesApart

/-! ## OSPF routes -/

/-- The OSPF routes of a device lead to different networks that it is not connected to, by interfaces that
work. -/
structure Device.OspfInPlace (d : Device) : Prop where
  apart : ∀ r ∈ d.routes, ∀ s ∈ d.routes, r.isFrom .ospf = true → s.isFrom .ospf = true → r ≠ s → r.net ≠ s.net
  unconnected : ∀ r ∈ d.routes, r.isFrom .ospf = true → r.net ∉ Topology.connectedNets d
  works : ∀ r ∈ d.routes, r.isFrom .ospf = true →
    ∃ i, r.interface = some i.name ∧ d.interfaces.get? i.name = some i ∧ i.operUp = true

namespace Topology

section Ospf

variable {t : Topology} {routers : List OspfRouter} {adjacent : OspfRouter → List (OspfNeighbor × Edge)}
  {networks : OspfRouter → List (Network × Nat)} {routes : OspfRouter → List Route}
  (p : OspfParts t routers adjacent networks routes)

include p

/-- Where OSPF is up to date the OSPF routes of a device are those that its router has computed. -/
theorem OspfParts.routes_of_current (hc : t.Current) {key : String} {d : Device}
    (hd : t.devices.get? key = some d) {s : Route} (hs : s ∈ d.routes) (ospf : s.isFrom .ospf = true) :
    ∃ r ∈ routers, r.key = key ∧ r.device = d ∧ s ∈ routes r := by
  obtain ⟨results, hresults, hdevices⟩ := hc
  rw [p.results] at hresults
  cases hresults
  have computed := ((hdevices key d hd).2 s ospf).1 hs
  obtain ⟨r, hr, hkey, computed⟩ := mem_resultFor computed
  have here := (p.within r hr).1
  rw [hkey, hd] at here
  exact ⟨r, hr, hkey, (Option.some.inj here).symm, computed⟩

variable (h : t.Sound)

include h

theorem OspfParts.short {node : String} {n : Network} {cost : Nat}
    (hn : (n, cost) ∈ networksAt (stubsOf networks routers) node) : n.length ≤ 32 := by
  obtain ⟨q, hq, -, ha⟩ := (p.mem_networksAt h).1 hn
  exact ha.short h (p.within q hq)

/-- A router has no OSPF routes to networks that it is connected to. -/
theorem OspfParts.not_connected {r : OspfRouter} (hr : r ∈ routers) {s : Route} (hs : s ∈ routes r) :
    s.net ∉ connectedNets r.device := by
  obtain ⟨-, o, ho, rfl⟩ := p.exists_offer h hr hs
  obtain ⟨l, hl, hop, cost, hn, unconnected, -⟩ := mem_offers.1 ho
  rwa [show o.route.net = o.network from Route.net_eq (p.short h hn) rfl rfl]

/-- An OSPF route leaves by an interface of its router that works. -/
theorem OspfParts.leaves {r : OspfRouter} (hr : r ∈ routers) {s : Route} (hs : s ∈ routes r) :
    ∃ i, s.interface = some i.name ∧ r.device.interfaces.get? i.name = some i ∧ i.operUp = true := by
  obtain ⟨l, hl, hop, hhop, n, cost, hn, rfl⟩ := p.offered h hr hs
  rcases shortestPaths_along hl with rfl | ⟨e, he, w, walk, hdistance, hfirst⟩
  · cases hhop
  · obtain ⟨q, hq, a, i, b, j, hc, rfl, -⟩ := p.learns h hr he
    rw [hhop] at hfirst
    cases hfirst
    obtain ⟨area, mine, -⟩ := hc.speak
    exact ⟨i, rfl, mine.port, (Bool.and_eq_true_iff.1 (mine.works h (p.within r hr)).2).1⟩

end Ospf

theorem Current.ospfInPlace {t : Topology} (hc : t.Current) (h : t.Sound) {key : String} {d : Device}
    (hd : t.devices.get? key = some d) : d.OspfInPlace := by
  obtain ⟨routers, adjacent, networks, routes, p⟩ := ospfParts_exist h
  constructor
  · intro r hr s hs hospf sospf hne
    obtain ⟨q, hq, hkey, -, computed⟩ := p.routes_of_current hc hd hr hospf
    obtain ⟨q', hq', hkey', -, computed'⟩ := p.routes_of_current hc hd hs sospf
    obtain rfl : q = q' := List.inj_on_of_nodup_map p.apart hq hq' (hkey.trans hkey'.symm)
    exact fun same => hne ((p.real q hq).eq_of_net_eq computed computed' same)
  · intro r hr hospf
    obtain ⟨q, hq, -, rfl, computed⟩ := p.routes_of_current hc hd hr hospf
    exact p.not_connected h hq computed
  · intro r hr hospf
    obtain ⟨q, hq, -, rfl, computed⟩ := p.routes_of_current hc hd hr hospf
    exact p.leaves h hq computed

/-- OSPF may have been computed when other VLANs were known, but what it has left is in place. -/
theorem reached_ospfInPlace (cs : List Change) {key : String} {d : Device}
    (hd : (reached cs).devices.get? key = some d) : d.OspfInPlace := by
  have there : ((reached cs).withVlans (remembered cs)).devices.get? key =
      some { d with vlans := vlansIn (remembered cs) key d } := by
    rw [get?_withVlans, hd]
    rfl
  have sound := withVlans_sound (reached_orderly cs).sound (remembered cs)
  have place := (reached_remembers cs).current.ospfInPlace sound there
  exact ⟨place.apart, place.unconnected, place.works⟩

end Topology

/-! ## All routes -/

/-- The table of a device is as it should be. -/
structure Device.RoutesInPlace (d : Device) : Prop where
  sorted : ∃ keys, d.routes.mapM Route.sortKey = .ok keys ∧ keys.Pairwise fun a b => compare a b = .lt
  statics_apart : d.routes.Pairwise fun r s => r.isFrom .static = true → s.isFrom .static = true →
    ¬(r.destination = s.destination ∧ r.nextHop = s.nextHop ∧ r.interface = s.interface)
  static : ∀ r ∈ d.routes, r.isFrom .static = true →
    r.nextHop.isSome ≠ r.interface.isSome ∧ 1 ≤ r.distance ∧ r.distance ≤ 255
  ospf_apart : d.routes.Pairwise fun r s => r.isFrom .ospf = true → s.isFrom .ospf = true →
    r.destination ≠ s.destination
  ospf_unconnected : ∀ r ∈ d.routes, ∀ s ∈ d.routes, r.isFrom .ospf = true → s.isFrom .connected = true →
    r.destination ≠ s.destination
  works : ∀ r ∈ d.routes, (r.isFrom .connected = true ∨ r.isFrom .ospf = true) →
    ∃ name i, r.interface = some name ∧ d.interfaces.get? name = some i ∧ i.operUp = true

theorem RouteTable.sortKeys {routes : List Route} (h : RouteTable routes) :
    ∃ keys, routes.mapM Route.sortKey = .ok keys ∧ keys.Pairwise fun a b => compare a b = .lt :=
  ⟨routes.map Route.key, mapM_ok fun r hr => (h.each r hr).sortKey, List.pairwise_map.2 h.ascending⟩

theorem RouteTable.apart {routes : List Route} (h : RouteTable routes) : routes.Pairwise (· ≠ ·) :=
  h.ascending.imp fun {a b} lt same => by
    rw [same, Std.ReflOrd.compare_self] at lt
    cases lt

theorem IsRoute.destination_eq_iff {r s : Route} (hr : IsRoute r) (hs : IsRoute s) :
    r.destination = s.destination ↔ r.net = s.net := by
  rw [hr.destination, hs.destination, Except.ok.injEq]

/-- A static route has a next hop or an interface, but not both. -/
theorem IsRoute.one_target {r : Route} (hr : IsRoute r) (static : r.isFrom .static = true) :
    r.nextHop.isSome ≠ r.interface.isSome := by
  cases hr with
  | connected n name short => cases static
  | static n target distance short far => cases target <;> exact Bool.noConfusion
  | ospf n a name metric short named => cases static

namespace Topology

/-- The tables of routes of all devices are as they should be. -/
def RoutesInPlace (t : Topology) : Prop := ∀ k d, t.devices.get? k = some d → d.RoutesInPlace

/-- However a lab goes on, the tables of routes of its devices are as they should be. -/
theorem reached_routesInPlace (cs : List Change) : (reached cs).RoutesInPlace := by
  intro k d hd
  have ordered := reached_orderly cs
  have table := (ordered.sound.devices k d hd).routes
  have statics : d.settings.RoutesApart :=
    reached_settings Settings.RoutesApart.factory (fun _ _ _ _ _ bounded h s => h.step bounded s) cs hd
  have ospf := reached_ospfInPlace cs hd
  constructor
  · exact table.sortKeys
  · refine table.apart.imp_of_mem fun {r s} hr hs hne rstatic sstatic ⟨net, hop, exit⟩ => hne ?_
    have net := ((table.each r hr).destination_eq_iff (table.each s hs)).1 net
    obtain ⟨network, mask⟩ := (table.each r hr).networks_eq (table.each s hs) net
    refine statics.apart s (mem_statics.2 ⟨hs, sstatic⟩) r (mem_statics.2 ⟨hr, rstatic⟩) ?_
    have source : r.source = s.source := (of_decide_eq_true rstatic).trans (of_decide_eq_true sstatic).symm
    simp [Route.sameWay, source, network, mask, hop, exit]
  · exact fun r hr static => ⟨(table.each r hr).one_target static, statics.near r (mem_statics.2 ⟨hr, static⟩)⟩
  · refine table.apart.imp_of_mem fun {r s} hr hs hne rospf sospf => ?_
    rw [Ne, (table.each r hr).destination_eq_iff (table.each s hs)]
    exact ospf.apart r hr s hs rospf sospf hne
  · intro r hr s hs rospf connected
    rw [Ne, (table.each r hr).destination_eq_iff (table.each s hs)]
    intro same
    exact ospf.unconnected r hr rospf (List.mem_map.2 ⟨s, List.mem_filter.2 ⟨hs, connected⟩, same.symm⟩)
  · rintro r hr (connected | rospf)
    · obtain ⟨name, i, exit, hi, up, -⟩ := ordered.settled.no_other_routes ordered.sound hd hr connected
      exact ⟨name, i, exit, hi, up⟩
    · obtain ⟨i, exit, hi, up⟩ := ospf.works r hr rospf
      exact ⟨i.name, i, exit, hi, up⟩

end Topology

end NetRack
