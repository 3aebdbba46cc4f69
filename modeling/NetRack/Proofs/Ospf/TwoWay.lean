import NetRack.Proofs.Ospf.LoopFree
import NetRack.Proofs.WayBack

/-!
# Two-way adjacency

A router lists exactly the interfaces of other routers that are compatible with one of its own and hear it.
Compatibility is symmetric, so a neighbor lists the router in turn exactly if it is heard as well.  That is so
wherever no tagged frame meets a switch port that has its VLAN for untagged frames.
-/

namespace NetRack

namespace Topology

/-- Whether an interface of a router gives another router an entry for one of its interfaces. -/
structure Gives (t : Topology) (q : OspfRouter) (b : LinkEnd) (j : Interface) (r : OspfRouter) (a : LinkEnd)
    (i : Interface) : Prop where
  compatible : Compatible r a i q b j
  heard : t.Hears a b

/-- Whether the router under a key lists a neighbor. -/
def Lists (t : Topology) (key : String) (n : OspfNeighbor) : Prop :=
  ∃ d, t.devices.get? key = some d ∧ n ∈ d.ospfNeighbors

/-- Whether the neighbors that routers list once OSPF has been computed are those that interfaces give them,
and each of these interfaces is given an entry in turn. -/
structure TwoWay (t : Topology) (routers : List OspfRouter) (v : Topology) : Prop where
  lists : ∀ r ∈ routers, ∀ n,
    v.Lists r.key n ↔ ∃ q ∈ routers, ∃ a i b j, t.Gives q b j r a i ∧ n = entryFor i q j
  back : ∀ r ∈ routers, ∀ q ∈ routers, ∀ a i b j, t.Gives q b j r a i →
    t.Gives r a i q b j ∧ v.Lists q.key (entryFor j r i)

variable {t v : Topology} {r q : OspfRouter} {a b : LinkEnd} {i j : Interface}

/-- An entry is given in turn exactly if the way back is open. -/
theorem Gives.back_iff (gives : t.Gives q b j r a i) : t.Gives r a i q b j ↔ t.Hears b a :=
  ⟨fun back => back.heard, fun hears => ⟨gives.compatible.symm, hears⟩⟩

theorem OspfRouter.Within.isRouter (h : t.Sound) (hr : r.Within t) : t.IsRouter r.key :=
  ⟨r.device, hr.1, (h.devices _ _ hr.1).process (by rw [hr.2]; rfl)⟩

theorem Gives.back (h : t.Sound) (hs : t.Settled) (kept : t.TagsKept) (hr : r.Within t) (hq : q.Within t)
    (gives : t.Gives q b j r a i) : t.Gives r a i q b j := by
  obtain ⟨area, mine, theirs⟩ := gives.compatible.speak
  have from_router : t.IsRouter a.device := mine.here ▸ hr.isRouter h
  have to_router : t.IsRouter b.device := theirs.here ▸ hq.isRouter h
  refine gives.back_iff.2 (gives.heard.symm h from_router to_router hs kept ?_ ?_)
  · exact ⟨i, mine.works h hr⟩
  · exact ⟨j, theirs.works h hq⟩

section Parts

variable {routers : List OspfRouter} {adjacent : OspfRouter → List (OspfNeighbor × Edge)}
  {networks : OspfRouter → List (Network × Nat)} {routes : OspfRouter → List Route}

/-- A router learns an entry and an edge from each interface that gives it an entry. -/
theorem OspfParts.mem_adjacent (p : OspfParts t routers adjacent networks routes) (h : t.Sound)
    (hr : r ∈ routers) {x : OspfNeighbor × Edge} : x ∈ adjacent r ↔
      ∃ q ∈ routers, ∃ a i b j, t.Gives q b j r a i ∧ x = (entryFor i q j, edgeTo i q j) := by
  rw [(adjacencies_spec h p.apart p.within hr).value (p.adjacencies r hr) x]
  constructor
  · rintro ⟨a, i, q, hq, b, j, hc, hears, hx⟩
    exact ⟨q, hq, a, i, b, j, ⟨hc, hears⟩, hx⟩
  · rintro ⟨q, hq, a, i, b, j, ⟨hc, hears⟩, hx⟩
    exact ⟨a, i, q, hq, b, j, hc, hears, hx⟩

/-- The interfaces that give a router entries tell whatever is told of what the router learns. -/
theorem OspfParts.mem_map_adjacent (p : OspfParts t routers adjacent networks routes) (h : t.Sound)
    (hr : r ∈ routers) {α : Type} {f : OspfNeighbor × Edge → α} {y : α} : y ∈ (adjacent r).map f ↔
      ∃ q ∈ routers, ∃ a i b j, t.Gives q b j r a i ∧ y = f (entryFor i q j, edgeTo i q j) := by
  rw [List.mem_map]
  constructor
  · rintro ⟨x, hx, rfl⟩
    obtain ⟨q, hq, a, i, b, j, gives, rfl⟩ := (p.mem_adjacent h hr).1 hx
    exact ⟨q, hq, a, i, b, j, gives, rfl⟩
  · rintro ⟨q, hq, a, i, b, j, gives, rfl⟩
    exact ⟨_, (p.mem_adjacent h hr).2 ⟨q, hq, a, i, b, j, gives, rfl⟩, rfl⟩

/-- Routers list what interfaces give them. -/
theorem OspfParts.lists_iff (p : OspfParts t routers adjacent networks routes) (h : t.Sound)
    (hv : Recomputed t (resultsOf routers adjacent routes) v) (hr : r ∈ routers) (n : OspfNeighbor) :
    v.Lists r.key n ↔ ∃ q ∈ routers, ∃ a i b j, t.Gives q b j r a i ∧ n = entryFor i q j := by
  obtain ⟨d, hd, hup⟩ := p.updated hv hr
  have listed : v.Lists r.key n ↔ n ∈ (adjacent r).map Prod.fst := by
    unfold Lists
    rw [hd]
    simp only [Option.some.injEq, exists_eq_left']
    rw [hup.same]
  exact listed.trans (p.mem_map_adjacent h hr)

end Parts

theorem recomputed_twoWay (h : t.Sound) (hs : t.Settled) (kept : t.TagsKept) :
    ∃ routers, t.ospfRouters = .ok routers ∧ Yields (t.TwoWay routers) t.recomputeOspf := by
  obtain ⟨routers, adjacent, networks, routes, p⟩ := ospfParts_exist h
  obtain ⟨results, hresults, hyields⟩ := recomputeOspf_yields h
  rw [p.results] at hresults
  cases hresults
  refine ⟨routers, p.found, hyields.imp fun v hv => ⟨fun r hr n => p.lists_iff h hv hr n, ?_⟩⟩
  intro r hr q hq a i b j gives
  have back := gives.back h hs kept (p.within r hr) (p.within q hq)
  exact ⟨back, (p.lists_iff h hv hq _).2 ⟨r, hr, b, j, a, i, back, rfl⟩⟩

/-- Whatever was done to a lab where tags are kept, once OSPF has been computed anew adjacency is two-way. -/
theorem reached_twoWay (cs : List Change) (kept : (reached cs).TagsKept) :
    ∃ routers, (reached cs).ospfRouters = .ok routers ∧
      Yields ((reached cs).TwoWay routers) (reached cs).recomputeOspf :=
  recomputed_twoWay (reached_orderly cs).sound (reached_orderly cs).settled kept

/-- Two routers that speak OSPF over a cable. -/
def cabledRouters : List Change := [
  .addDevice "R1" "router" none, .addDevice "R2" "router" none, .connect "R1" "Gi0/0" "R2" "Gi0/0",
  .command none "R1" "enable", .command none "R1" "configure terminal", .command none "R1" "interface Gi0/0",
  .command none "R1" "no shutdown", .command none "R1" "ip address 10.0.0.1 255.255.255.0",
  .command none "R1" "router ospf 1", .command none "R1" "network 10.0.0.0 0.0.0.255 area 0",
  .command none "R2" "enable", .command none "R2" "configure terminal", .command none "R2" "interface Gi0/0",
  .command none "R2" "no shutdown", .command none "R2" "ip address 10.0.0.2 255.255.255.0",
  .command none "R2" "router ospf 1", .command none "R2" "network 10.0.0.0 0.0.0.255 area 0"]

/-- The first router lists the second, and adjacency is two-way. -/
theorem cabledRouters_twoWay :
    (reached cabledRouters).TagsKept ∧
      (reached cabledRouters).Lists "R1" ⟨"10.0.0.2", "10.0.0.2", "GigabitEthernet0/0", "FULL"⟩ ∧
      ∃ routers, (reached cabledRouters).ospfRouters = .ok routers ∧
        Yields ((reached cabledRouters).TwoWay routers) (reached cabledRouters).recomputeOspf := by
  have lab : (∀ d ∈ (reached cabledRouters).devices.values, d.isA .switch = false) ∧
      ((reached cabledRouters).devices.get? "R1").map (·.ospfNeighbors) =
        some [⟨"10.0.0.2", "10.0.0.2", "GigabitEthernet0/0", "FULL"⟩] := by decide +kernel
  generalize cabledRouters = cs at lab ⊢
  have kept := TagsKept.of_no_switch lab.1
  obtain ⟨d, hd, hn⟩ := Option.map_eq_some_iff.1 lab.2
  exact ⟨kept, ⟨d, hd, by rw [hn]; exact List.mem_cons_self⟩, reached_twoWay cs kept⟩

end Topology

end NetRack
