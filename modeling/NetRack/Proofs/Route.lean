import NetRack.Command.Global
import NetRack.Command.Host
import NetRack.Proofs.Address
import NetRack.Proofs.Order
import NetRack.Proofs.Result
import NetRack.Topology.Ospf
import Mathlib

/-!
# Route tables

The routes that a device can have are connected routes, static routes and routes that OSPF computed.
All of them can be read, and those with one key go the same way.  A table of such routes in the
order of their keys stays one when a route is put into it, and is determined by its routes.  What is
looked up in a table is the first of the routes to an address that are preferred most.
-/

namespace NetRack

/-! ## The order of routes -/

instance : Std.TransOrd RouteKey :=
  inferInstanceAs <| Std.TransCmp <|
    compareLex (compareOn RouteKey.base) <| compareLex (compareOn RouteKey.length) <|
      compareLex (compareOn RouteKey.distance) <| compareLex (compareOn RouteKey.nextHop) <|
        compareOn RouteKey.interface

instance : Std.LawfulEqOrd RouteKey where
  eq_of_compare := by
    rintro ⟨b, l, d, h, i⟩ ⟨b', l', d', h', i'⟩ hc
    have hc : (compare b b').then ((compare l l').then ((compare d d').then
      ((compare h h').then (compare i i')))) = .eq := hc
    simp only [Ordering.then_eq_eq, Std.LawfulEqOrd.compare_eq_iff_eq] at hc
    obtain ⟨rfl, rfl, rfl, rfl, rfl⟩ := hc
    rfl

/-! ## Reading routes -/

/-- A route has one source. -/
theorem Route.isFrom_of_ne {r : Route} {source other : RouteSource} (h : r.isFrom source = true)
    (hne : source ≠ other) : r.isFrom other = false := by
  unfold Route.isFrom Stored.holds at h ⊢
  rw [of_decide_eq_true h]
  simpa using hne

/-- Whether a route is derived from other state. -/
def Route.isDerived (r : Route) : Bool := r.isFrom .connected || r.isFrom .ospf

theorem Route.not_derived {r : Route} (h : r.isDerived = false) :
    r.isFrom .connected = false ∧ r.isFrom .ospf = false := Bool.or_eq_false_iff.1 h

theorem Route.not_derived_of_static {r : Route} (h : r.isFrom .static = true) : r.isDerived = false :=
  Bool.or_eq_false_iff.2 ⟨isFrom_of_ne h (by decide), isFrom_of_ne h (by decide)⟩

theorem Route.not_static {r : Route} (h : r.isDerived = true) : r.isFrom .static = false := by
  rcases Bool.or_eq_true_iff.1 h with hr | hr
  · exact isFrom_of_ne hr (by decide : RouteSource.connected ≠ .static)
  · exact isFrom_of_ne hr (by decide : RouteSource.ospf ≠ .static)

/-- The routes that a device can have. -/
inductive IsRoute : Route → Prop where
  | connected (n : Network) (name : String) (short : n.length ≤ 32) :
    IsRoute (Topology.connectedRoute n name)
  | static (n : Network) (target : RouteTarget) (distance : Int) (short : n.length ≤ 32)
    (far : 1 ≤ distance) : IsRoute (staticRoute n target distance)
  | ospf (n : Network) (a : Address) (name : String) (metric : Nat) (short : n.length ≤ 32)
    (named : name ≠ "") : IsRoute (Topology.ospfRoute n ⟨name, a.text⟩ metric)

namespace Route

/-- The network that a route leads to, if it can be read. -/
def net (r : Route) : Network := r.destination.toOption.getD (.around .zero 0)

/-- What a route is ordered by, if it can be read. -/
def key (r : Route) : RouteKey :=
  ⟨r.net.base.toNat, r.net.length, r.distance, r.nextHop.getD "", r.interface.getD ""⟩

end Route

/-- A route whose network can be read. -/
def Route.IsReadable (r : Route) : Prop := r.destination = .ok r.net

theorem Route.isReadable_iff {r : Route} : r.IsReadable ↔ ∃ n, r.destination = .ok n := by
  constructor
  · intro h
    exact ⟨r.net, h⟩
  · rintro ⟨n, hn⟩
    unfold IsReadable net
    rw [hn]
    rfl

theorem Route.IsReadable.sortKey {r : Route} (h : r.IsReadable) : r.sortKey = .ok r.key := by
  unfold Route.sortKey
  rw [show r.destination = .ok r.net from h]
  rfl

/-- The network that a route leads to is told by its texts. -/
theorem Route.destination_eq {r : Route} {n : Network} (short : n.length ≤ 32) (hbase : r.network = n.base.text)
    (hmask : r.mask = n.mask.text) : r.destination = .ok n := by
  unfold Route.destination
  rw [hbase, hmask, n.read_text short]

theorem Route.net_eq {r : Route} {n : Network} (short : n.length ≤ 32) (hbase : r.network = n.base.text)
    (hmask : r.mask = n.mask.text) : r.net = n := by
  unfold Route.net
  rw [Route.destination_eq short hbase hmask]
  rfl

namespace IsRoute

variable {r s : Route}

theorem texts (h : IsRoute r) :
    ∃ n : Network, n.length ≤ 32 ∧ r.network = n.base.text ∧ r.mask = n.mask.text := by
  cases h with
  | connected n name short => exact ⟨n, short, rfl, rfl⟩
  | static n target distance short far => exact ⟨n, short, rfl, rfl⟩
  | ospf n a name metric short named => exact ⟨n, short, rfl, rfl⟩

theorem destination (h : IsRoute r) : r.destination = .ok r.net := by
  obtain ⟨n, short, hnet, hmask⟩ := h.texts
  rw [Route.net_eq short hnet hmask]
  exact Route.destination_eq short hnet hmask

theorem net_texts (h : IsRoute r) :
    r.net.length ≤ 32 ∧ r.network = r.net.base.text ∧ r.mask = r.net.mask.text := by
  obtain ⟨n, short, hnet, hmask⟩ := h.texts
  rw [Route.net_eq short hnet hmask]
  exact ⟨short, hnet, hmask⟩

theorem readable (h : IsRoute r) : r.IsReadable := h.destination

theorem sortKey (h : IsRoute r) : r.sortKey = .ok r.key := h.readable.sortKey

theorem networks_eq (hr : IsRoute r) (hs : IsRoute s) (h : r.net = s.net) :
    r.network = s.network ∧ r.mask = s.mask := by
  obtain ⟨-, hr1, hr2⟩ := hr.net_texts
  obtain ⟨-, hs1, hs2⟩ := hs.net_texts
  rw [hr1, hr2, hs1, hs2, h]
  exact ⟨rfl, rfl⟩

/-- A route without an interface has the address of a next hop. -/
theorem next_hop (h : IsRoute r) (hi : r.interface = none) : ∃ a : Address, r.nextHop = some a.text := by
  cases h with
  | connected n name short => cases hi
  | static n target distance short far =>
    cases target with
    | hop a => exact ⟨a, rfl⟩
    | exit name => cases hi
  | ospf n a name metric short named => cases hi

/-- Routes with one key go the same way. -/
theorem sameWay_of_key_eq (hr : IsRoute r) (hs : IsRoute s) (h : r.key = s.key) :
    r.sameWay s = true := by
  have hnet : r.net = s.net := by
    have hb : r.net.base = s.net.base := by
      have := congrArg RouteKey.base h
      exact congrArg Address.mk (BitVec.eq_of_toNat_eq this)
    have hl : r.net.length = s.net.length := congrArg RouteKey.length h
    generalize r.net = m at hb hl
    generalize s.net = n at hb hl
    cases m
    cases n
    cases hb
    cases hl
    rfl
  obtain ⟨hn, hm⟩ := networks_eq hr hs hnet
  have hd : r.distance = s.distance := congrArg RouteKey.distance h
  have hh : r.nextHop.getD "" = s.nextHop.getD "" := congrArg RouteKey.nextHop h
  have hi : r.interface.getD "" = s.interface.getD "" := congrArg RouteKey.interface h
  suffices rest : r.source = s.source ∧ r.nextHop = s.nextHop ∧ r.interface = s.interface by
    unfold Route.sameWay
    simp [hn, hm, rest.1, rest.2.1, rest.2.2]
  cases hr with
  | connected n name short =>
    cases hs with
    | connected n' name' short' => exact ⟨rfl, rfl, congrArg some hi⟩
    | static n' target distance short' far =>
      have : (0 : Int) = distance := hd
      omega
    | ospf n' a name' metric short' named => cases hd
  | static n target distance short far =>
    cases hs with
    | connected n' name' short' =>
      have : distance = 0 := hd
      omega
    | static n' target' distance' short' far' =>
      cases target with
      | hop a =>
        cases target' with
        | hop a' => exact ⟨rfl, congrArg some hh, rfl⟩
        | exit name' => exact absurd hh a.text_ne_empty
      | exit name =>
        cases target' with
        | hop a' => exact absurd hh.symm a'.text_ne_empty
        | exit name' => exact ⟨rfl, rfl, congrArg some hi⟩
    | ospf n' a' name' metric short' named =>
      cases target with
      | hop a => exact absurd hi.symm named
      | exit name => exact absurd hh.symm a'.text_ne_empty
  | ospf n a name metric short named =>
    cases hs with
    | connected n' name' short' => cases hd
    | static n' target' distance' short' far' =>
      cases target' with
      | hop a' => exact absurd hi named
      | exit name' => exact absurd hh a.text_ne_empty
    | ospf n' a' name' metric' short' named' => exact ⟨rfl, congrArg some hh, congrArg some hi⟩

end IsRoute

/-! ## Tables of routes -/

/-- A table of routes: all of them readable, in the order of their keys. -/
structure RouteTable (routes : List Route) : Prop where
  each : ∀ r ∈ routes, IsRoute r
  ascending : Ascending Route.key routes

namespace RouteTable

variable {routes : List Route}

theorem nil : RouteTable [] := ⟨fun _ h => (List.not_mem_nil h).elim, List.Pairwise.nil⟩

theorem filter (h : RouteTable routes) (p : Route → Bool) : RouteTable (routes.filter p) :=
  ⟨fun r hr => h.each r (List.mem_filter.1 hr).1, h.ascending.filter p⟩

theorem eq_of_mem_iff {others : List Route} (h : RouteTable routes) (h' : RouteTable others)
    (hmem : ∀ r, r ∈ routes ↔ r ∈ others) : routes = others :=
  h.ascending.eq_of_mem_iff h'.ascending hmem

/-- Tables with the same routes of a sort have them in the same order. -/
theorem filter_eq {others : List Route} (h : RouteTable routes) (h' : RouteTable others)
    {p : Route → Bool} (hmem : ∀ r, p r = true → (r ∈ routes ↔ r ∈ others)) :
    routes.filter p = others.filter p := by
  refine (h.filter p).eq_of_mem_iff (h'.filter p) fun r => ?_
  rw [List.mem_filter, List.mem_filter]
  exact and_congr_left fun hp => hmem r hp

end RouteTable

theorem sortRoutes_of_readable {routes : List Route} (h : ∀ r ∈ routes, r.IsReadable) :
    sortRoutes routes = .ok (sortBy (keyLe Route.key) routes) := by
  have keyed : (routes.mapM fun r => do return (← r.sortKey, r)) =
      .ok (routes.map fun r => (r.key, r)) := by
    refine mapM_ok fun r hr => ?_
    rw [(h r hr).sortKey]
    rfl
  unfold sortRoutes
  rw [keyed, ok_bind, sortBy_map]
  simp only [List.map_map]
  exact congrArg Except.ok (List.map_id _)

/-- Routes that are sorted are put in the order of their keys. -/
theorem sortRoutes_returns (routes : List Route) :
    Returns (· = sortBy (keyLe Route.key) routes) (sortRoutes routes) := by
  refine .of_value fun sorted h => ?_
  obtain ⟨keyed, hkeyed, -⟩ := bind_eq_ok.1 h
  obtain ⟨same, keys⟩ := keyed_eq_ok hkeyed
  have readable : ∀ r ∈ routes, r.IsReadable := by
    intro r hr
    rw [← same] at hr
    obtain ⟨⟨k, r⟩, hk, rfl⟩ := List.mem_map.1 hr
    obtain ⟨n, hn, -⟩ := bind_eq_ok.1 (keys _ hk)
    exact Route.isReadable_iff.2 ⟨n, hn⟩
  rw [sortRoutes_of_readable readable] at h
  exact (Except.ok.inj h).symm

/-- A route that is not there yet is put in with the others sorted. -/
theorem insertRoute_returns (routes : List Route) (r : Route) :
    Returns (fun result => result = routes ∨ result = sortBy (keyLe Route.key) (routes ++ [r]))
      (insertRoute routes r) :=
  .ite (Or.inl rfl) ((sortRoutes_returns _).imp fun _ sorted => Or.inr sorted)

/-- A route whose key no other has is put among others in the order of their keys. -/
theorem insertRoute_ascending {routes : List Route} {r : Route} (readable : ∀ s ∈ routes, s.IsReadable)
    (order : Ascending Route.key routes) (hr : r.IsReadable) (apart : ∀ s ∈ routes, s.key = r.key → s = r) :
    Yields (fun result => Ascending Route.key result ∧ ∀ s, s ∈ result ↔ s ∈ routes ∨ s = r)
      (insertRoute routes r) := by
  unfold insertRoute
  split
  · rename_i hmem
    refine ⟨order, fun s => ⟨Or.inl, ?_⟩⟩
    rintro (h | rfl)
    · exact h
    · exact hmem
  · rename_i hmem
    have all : ∀ s ∈ routes ++ [r], s.IsReadable := by
      intro s hs
      rcases List.mem_append.1 hs with hs | hs
      · exact readable s hs
      · rw [List.mem_singleton.1 hs]
        exact hr
    rw [sortRoutes_of_readable all]
    have distinct : (routes ++ [r]).Pairwise fun a b => a.key ≠ b.key := by
      refine List.pairwise_append.2 ⟨?_, List.pairwise_singleton _ _, ?_⟩
      · refine order.imp fun hlt heq => ?_
        rw [heq, Std.ReflOrd.compare_self] at hlt
        cases hlt
      · intro s hs t ht
        rw [List.mem_singleton.1 ht]
        intro heq
        exact hmem (apart s hs heq ▸ hs)
    refine ⟨sortBy_ascending distinct, fun s => ?_⟩
    simp [mem_sortBy]

/-- A route whose key no other route of a table has is put into the table. -/
theorem insertRoute_yields {routes : List Route} {r : Route} (table : RouteTable routes)
    (hr : IsRoute r) (apart : ∀ s ∈ routes, s.key = r.key → s = r) :
    Yields (fun result => RouteTable result ∧ ∀ s, s ∈ result ↔ s ∈ routes ∨ s = r)
      (insertRoute routes r) := by
  have readable : ∀ s ∈ routes, s.IsReadable := fun s hs => (table.each s hs).readable
  refine (insertRoute_ascending readable table.ascending hr.readable apart).imp ?_
  rintro result ⟨order, mem⟩
  refine ⟨⟨fun s hs => ?_, order⟩, mem⟩
  rcases (mem s).1 hs with hs | rfl
  · exact table.each s hs
  · exact hr

/-- A route that stays under a filter is put into what the filter leaves as it is put into the table. -/
theorem insertRoute_filter {routes : List Route} {r : Route} (table : RouteTable routes) (hr : IsRoute r)
    (apart : ∀ s ∈ routes, s.key = r.key → s = r) {p : Route → Bool} (hp : p r = true) :
    insertRoute (routes.filter p) r = List.filter p <$> insertRoute routes r := by
  obtain ⟨all, hall, tableAll, memAll⟩ := (insertRoute_yields table hr apart).exists_ok
  obtain ⟨kept, hkept, tableKept, memKept⟩ :=
    (insertRoute_yields (table.filter p) hr fun s hs => apart s (List.mem_filter.1 hs).1).exists_ok
  rw [hall, hkept, map_ok, tableKept.eq_of_mem_iff (tableAll.filter p)]
  intro s
  rw [memKept, List.mem_filter, List.mem_filter, memAll]
  constructor
  · rintro (⟨hs, hps⟩ | rfl)
    · exact ⟨Or.inl hs, hps⟩
    · exact ⟨Or.inr rfl, hp⟩
  · rintro ⟨hs | hs, hps⟩
    · exact Or.inl ⟨hs, hps⟩
    · exact Or.inr hs

/-! ## Looking routes up -/

/-- Whether a route is the best of some that lead to an address: no other has a longer mask, or one as long and a
smaller distance. -/
structure Route.IsBest (routes : List Route) (a : Address) (r : Route) : Prop where
  mem : r ∈ routes
  leads : r.net.contains a = true
  best : ∀ s ∈ routes, s.net.contains a = true →
    s.net.length < r.net.length ∨ s.net.length = r.net.length ∧ r.distance ≤ s.distance

/-- What a route is preferred for: a long mask first, then a small distance. -/
def Route.preference (r : Route) : Nat ×ₗ Intᵒᵈ := toLex (r.net.length, OrderDual.toDual r.distance)

theorem Route.preference_lt {r s : Route} : r.preference < s.preference ↔
    r.net.length < s.net.length ∨ r.net.length = s.net.length ∧ s.distance < r.distance :=
  Prod.Lex.toLex_lt_toLex

theorem Route.preference_le {r s : Route} : r.preference ≤ s.preference ↔
    r.net.length < s.net.length ∨ r.net.length = s.net.length ∧ s.distance ≤ r.distance :=
  Prod.Lex.toLex_le_toLex

/-- The routes of some that lead to an address. -/
def routesTo (routes : List Route) (a : Address) : List Route := routes.filter (·.net.contains a)

theorem mem_routesTo {routes : List Route} {a : Address} {r : Route} :
    r ∈ routesTo routes a ↔ r ∈ routes ∧ r.net.contains a = true := List.mem_filter

theorem routesTo_concat (routes : List Route) (r : Route) (a : Address) :
    routesTo (routes ++ [r]) a = if r.net.contains a = true then routesTo routes a ++ [r] else routesTo routes a := by
  unfold routesTo
  rw [List.filter_append, List.filter_singleton]
  cases r.net.contains a
  · exact List.append_nil _
  · rfl

/-- One more route is compared with the best so far. -/
theorem betterRoute_argmax {a : Address} {r : Route} (hr : r.IsReadable) (routes : List Route) :
    betterRoute a (((routesTo routes a).argmax Route.preference).map fun s => (s.net, s)) r =
      .ok (((routesTo (routes ++ [r]) a).argmax Route.preference).map fun s => (s.net, s)) := by
  unfold betterRoute
  rw [show r.destination = .ok r.net from hr, ok_bind, routesTo_concat]
  by_cases leads : r.net.contains a = true
  · rw [if_pos leads, if_pos leads, List.argmax_concat]
    cases (routesTo routes a).argmax Route.preference with
    | none => rfl
    | some s =>
      have better : (s.net.length < r.net.length || (s.net.length = r.net.length && r.distance < s.distance)) =
          decide (s.preference < r.preference) := by
        simp [Route.preference_lt]
      simp only [Option.map_some, better, decide_eq_true_eq]
      by_cases preferred : s.preference < r.preference
      · simp [preferred]
      · simp [preferred]
  · rw [if_neg leads, if_neg leads]
    cases (routesTo routes a).argmax Route.preference <;> rfl

/-- What is looked up is the first of the routes to an address that are preferred most. -/
theorem lookupRoute_eq {routes : List Route} (h : ∀ r ∈ routes, r.IsReadable) (a : Address) :
    lookupRoute routes a = .ok ((routesTo routes a).argmax Route.preference) := by
  have all : routes.foldlM (betterRoute a) none =
      .ok (((routesTo routes a).argmax Route.preference).map fun s => (s.net, s)) := by
    induction routes using List.reverseRecOn with
    | nil => rfl
    | append_singleton routes r ih =>
      rw [List.foldlM_append, ih fun s hs => h s (List.mem_append_left _ hs), ok_bind, List.foldlM_cons,
        betterRoute_argmax (h r (by simp))]
      rfl
  unfold lookupRoute
  rw [all, ok_bind, Option.map_map]
  exact congrArg Except.ok Option.map_id'

/-- What is looked up is the best route of the table that leads to the address. -/
theorem lookupRoute_best {routes : List Route} (h : ∀ r ∈ routes, IsRoute r) (a : Address) :
    Yields (fun found => ∀ r, found = some r → r.IsBest routes a) (lookupRoute routes a) := by
  rw [lookupRoute_eq fun r hr => (h r hr).readable]
  intro r found
  obtain ⟨mem, leads⟩ := mem_routesTo.1 (List.argmax_mem found)
  exact ⟨mem, leads, fun s hs there =>
    Route.preference_le.1 (List.le_of_mem_argmax (mem_routesTo.2 ⟨hs, there⟩) found)⟩

/-- What is looked up is a route of the table. -/
theorem lookupRoute_yields {routes : List Route} (h : ∀ r ∈ routes, IsRoute r) (a : Address) :
    Yields (fun found => ∀ r, found = some r → r ∈ routes) (lookupRoute routes a) :=
  (lookupRoute_best h a).imp fun _ best r hr => (best r hr).mem

end NetRack
