import NetRack.Proofs.Order
import NetRack.Proofs.Route
import Mathlib.Data.List.Nodup

/-!
# Paths and the routes along them

Every first hop that the search for shortest paths finds is the hop of some edge.  The best routes lead to
different networks, each by such a hop, and no router offers a cheaper way to any of them.
-/

namespace NetRack

/-! ## First hops -/

/-- Every first hop of a label has the property. -/
def Hops (P : Hop → Prop) (labels : List PathLabel) : Prop := ∀ l ∈ labels, ∀ hop, l.hop = some hop → P hop

variable {P : Hop → Prop}

theorem relax_hops {labels : List PathLabel} {new : PathLabel} (h : Hops P labels)
    (hnew : ∀ hop, new.hop = some hop → P hop) : Hops P (relax labels new) := by
  unfold relax
  split
  · intro l hl
    rcases List.mem_append.1 hl with hl | hl
    · exact h l hl
    · rw [List.mem_singleton.1 hl]
      exact hnew
  · split
    · intro l hl
      obtain ⟨old, hold, rfl⟩ := List.mem_map.1 hl
      split
      · exact hnew
      · exact h old hold
    · exact h

theorem relaxEdges_hops {source : String} {settled frontier : List PathLabel} {current : PathLabel}
    {edges : List Edge} (h : Hops P frontier) (hcurrent : ∀ hop, current.hop = some hop → P hop)
    (hedges : ∀ e ∈ edges, P e.hop) : Hops P (relaxEdges source settled current edges frontier) := by
  unfold relaxEdges
  refine List.foldlRecOn _ _ h fun labels hl e he => ?_
  split
  · exact hl
  · refine relax_hops hl fun hop heq => ?_
    dsimp only at heq
    split at heq
    · cases heq
      exact hedges e (mem_sortBy.1 he)
    · exact hcurrent hop heq

theorem nearest_mem {labels : List PathLabel} {l : PathLabel} (h : nearest labels = some l) :
    l ∈ labels := by
  induction labels generalizing l with
  | nil => cases h
  | cons m rest ih =>
    unfold nearest at h
    cases hn : nearest rest with
    | none =>
      rw [hn] at h
      cases h
      simp
    | some n =>
      rw [hn] at h
      simp only at h
      split at h
      · cases h
        simp
      · cases h
        exact List.mem_cons_of_mem m (ih hn)

theorem edgesFrom_mem {edges : EdgeTable} {node : String} {e : Edge} (h : e ∈ edgesFrom edges node) :
    ∃ p ∈ edges, e ∈ p.2 := by
  unfold edgesFrom at h
  cases hf : edges.find? fun e => e.1 = node with
  | none =>
    rw [hf] at h
    cases h
  | some p =>
    rw [hf] at h
    exact ⟨p, List.mem_of_find?_eq_some hf, h⟩

theorem settle_hops {edges : EdgeTable} (hedges : ∀ p ∈ edges, ∀ e ∈ p.2, P e.hop) {source : String}
    {fuel : Nat} {settled frontier : List PathLabel} (hs : Hops P settled) (hf : Hops P frontier) :
    Hops P (settle edges source fuel settled frontier) := by
  induction fuel generalizing settled frontier with
  | zero => exact hs
  | succ fuel ih =>
    unfold settle
    cases hn : nearest frontier with
    | none => exact hs
    | some l =>
      have hl := hf l (nearest_mem hn)
      refine ih ?_ (relaxEdges_hops ?_ hl fun e he => ?_)
      · intro m hm
        rcases List.mem_append.1 hm with hm | hm
        · exact hs m hm
        · rw [List.mem_singleton.1 hm]
          exact hl
      · exact fun m hm => hf m (List.mem_filter.1 hm).1
      · obtain ⟨p, hp, hep⟩ := edgesFrom_mem he
        exact hedges p hp e hep

/-- The first hop of a shortest path is that of an edge. -/
theorem shortestPaths_hops {edges : EdgeTable} (hedges : ∀ p ∈ edges, ∀ e ∈ p.2, P e.hop)
    (source : String) : Hops P (shortestPaths edges source) := by
  refine settle_hops hedges (fun l hl => (List.not_mem_nil hl).elim) fun l hl hop heq => ?_
  rw [List.mem_singleton.1 hl] at heq
  cases heq

namespace Topology

/-! ## Best routes -/

/-- A way to a network that a label and its router offer. -/
structure Offer where
  network : Network
  hop : Hop
  metric : Nat

/-- The route that an offer comes to. -/
def Offer.route (o : Offer) : Route := ospfRoute o.network o.hop o.metric

/-- The networks of a router with their costs. -/
def networksAt (stubs : List (String × List (Network × Nat))) (node : String) : List (Network × Nat) :=
  ((stubs.find? (·.1 = node)).map Prod.snd).getD []

/-- The offers of a label: the networks of its router but those that are connected anyway. -/
def offersOf (connected : List Network) (stubs : List (String × List (Network × Nat))) (l : PathLabel) :
    List Offer :=
  match l.hop with
  | none => []
  | some hop =>
    ((networksAt stubs l.node).filter (·.1 ∉ connected)).map fun e => ⟨e.1, hop, l.distance + e.2⟩

/-- All offers in the order in which they are considered. -/
def offers (connected : List Network) (stubs : List (String × List (Network × Nat))) (labels : List PathLabel) :
    List Offer := (sortBy (keyLe PathLabel.node) labels).flatMap (offersOf connected stubs)

variable {connected : List Network} {stubs : List (String × List (Network × Nat))} {labels : List PathLabel}

theorem mem_offers {o : Offer} : o ∈ offers connected stubs labels ↔
    ∃ l ∈ labels, l.hop = some o.hop ∧
      ∃ cost, (o.network, cost) ∈ networksAt stubs l.node ∧ o.network ∉ connected ∧ o.metric = l.distance + cost := by
  unfold offers offersOf
  rw [List.mem_flatMap]
  refine exists_congr fun l => and_congr mem_sortBy ?_
  cases l.hop with
  | none => simp
  | some hop =>
    simp only [List.mem_map, List.mem_filter, decide_eq_true_eq, Option.some.injEq]
    constructor
    · rintro ⟨e, ⟨he, fresh⟩, rfl⟩
      exact ⟨rfl, e.2, he, fresh, rfl⟩
    · rintro ⟨rfl, cost, he, fresh, metric⟩
      exact ⟨(o.network, cost), ⟨he, fresh⟩, by rw [← metric]⟩

theorem bestRoutes_eq (connected : List Network) (stubs : List (String × List (Network × Nat)))
    (labels : List PathLabel) : bestRoutes connected stubs labels =
      (offers connected stubs labels).foldl (fun best o => offerRoute best o.network o.route) [] := by
  unfold bestRoutes offers
  rw [List.foldl_flatMap]
  congr 1
  funext best l
  unfold offersOf
  cases l.hop with
  | none => rfl
  | some hop =>
    dsimp only
    rw [List.foldl_map, List.foldl_filter]
    refine congrFun (congrFun (congrArg List.foldl ?_) best) _
    funext best e
    by_cases he : e.1 ∈ connected
    · simp [he]
    · simp [he, Offer.route]

/-- Routes to different networks, each by an offer, and for each offer one that is not dearer. -/
structure Cheapest (considered : List Offer) (best : List (Network × Route)) : Prop where
  apart : (best.map Prod.fst).Nodup
  each : ∀ e ∈ best, ∃ o ∈ considered, e = (o.network, o.route)
  least : ∀ o ∈ considered, ∃ e ∈ best, e.1 = o.network ∧ e.2.metric ≤ o.metric

theorem metric_le_of_before {a b : Route} (h : routeBefore a b = true) : a.metric ≤ b.metric := by
  unfold routeBefore at h
  by_contra hlt
  have gt : compare a.metric b.metric = .gt := Int.compare_eq_gt.2 (Int.not_le.1 hlt)
  rw [gt] at h
  cases h

theorem metric_le_of_not_before {a b : Route} (h : ¬routeBefore a b = true) : b.metric ≤ a.metric := by
  unfold routeBefore at h
  by_contra hlt
  have lt : compare a.metric b.metric = .lt := Int.compare_eq_lt.2 (Int.not_le.1 hlt)
  rw [lt] at h
  exact h rfl

section Offers

variable {considered : List Offer} {best : List (Network × Route)} {o : Offer} {old : Route}
  (h : Cheapest considered best)

include h

theorem Cheapest.earlier (o : Offer) : ∀ e ∈ best, ∃ o' ∈ considered ++ [o], e = (o'.network, o'.route) := by
  intro e he
  obtain ⟨o', ho', heq⟩ := h.each e he
  exact ⟨o', List.mem_append_left _ ho', heq⟩

/-- An offer to a network that there is no route to yet is taken. -/
theorem Cheapest.put (fresh : o.network ∉ best.map Prod.fst) :
    Cheapest (considered ++ [o]) (best ++ [(o.network, o.route)]) where
  apart := by
    rw [List.map_append]
    exact h.apart.append (List.nodup_singleton _) (List.disjoint_singleton.2 fresh)
  each := fun e he => by
    rcases List.mem_append.1 he with he | he
    · exact h.earlier o e he
    · exact ⟨o, by simp, List.mem_singleton.1 he⟩
  least := fun o' ho' => by
    rcases List.mem_append.1 ho' with ho' | ho'
    · obtain ⟨e, he, hrest⟩ := h.least o' ho'
      exact ⟨e, List.mem_append_left _ he, hrest⟩
    · rw [List.mem_singleton.1 ho']
      exact ⟨(o.network, o.route), by simp, rfl, Int.le_refl _⟩

/-- An offer that is better than the route there is takes its place. -/
theorem Cheapest.replace (hold : (o.network, old) ∈ best) (before : routeBefore o.route old = true) :
    Cheapest (considered ++ [o]) (best.map fun e => if e.1 = o.network then (o.network, o.route) else e) where
  apart := by
    have same : (best.map fun e => if e.1 = o.network then (o.network, o.route) else e).map Prod.fst =
        best.map Prod.fst := by
      rw [List.map_map]
      refine List.map_congr_left fun e _ => ?_
      rw [Function.comp_apply]
      split
      · exact Eq.symm ‹_›
      · rfl
    rw [same]
    exact h.apart
  each := fun e he => by
    obtain ⟨x, hx, rfl⟩ := List.mem_map.1 he
    split
    · exact ⟨o, by simp, rfl⟩
    · exact h.earlier o x hx
  least := fun o' ho' => by
    have new : (o.network, o.route) ∈ best.map fun e => if e.1 = o.network then (o.network, o.route) else e :=
      List.mem_map.2 ⟨_, hold, if_pos rfl⟩
    rcases List.mem_append.1 ho' with ho' | ho'
    · obtain ⟨e, he, hn, hm⟩ := h.least o' ho'
      by_cases hsame : e.1 = o.network
      · -- Routes to one network are one route, so only the old one is replaced.
        have only : e = (o.network, old) := List.inj_on_of_nodup_map h.apart he hold hsame
        rw [only] at hn hm
        exact ⟨_, new, hn, Int.le_trans (metric_le_of_before before) hm⟩
      · exact ⟨e, List.mem_map.2 ⟨e, he, if_neg hsame⟩, hn, hm⟩
    · rw [List.mem_singleton.1 ho']
      exact ⟨_, new, rfl, Int.le_refl _⟩

/-- An offer that is no better than the route there is changes nothing. -/
theorem Cheapest.keep (hold : (o.network, old) ∈ best) (later : ¬routeBefore o.route old = true) :
    Cheapest (considered ++ [o]) best where
  apart := h.apart
  each := h.earlier o
  least := fun o' ho' => by
    rcases List.mem_append.1 ho' with ho' | ho'
    · exact h.least o' ho'
    · rw [List.mem_singleton.1 ho']
      exact ⟨_, hold, rfl, metric_le_of_not_before later⟩

theorem offerRoute_cheapest (o : Offer) : Cheapest (considered ++ [o]) (offerRoute best o.network o.route) := by
  unfold offerRoute
  split
  · rename_i none
    refine h.put fun known => ?_
    obtain ⟨e, he, heq⟩ := List.mem_map.1 known
    exact absurd (decide_eq_true heq) (List.find?_eq_none.1 none e he)
  · rename_i n old found
    have hold : (n, old) ∈ best := List.mem_of_find?_eq_some found
    obtain rfl : n = o.network := by simpa using List.find?_some found
    split
    · exact h.replace hold ‹_›
    · exact h.keep hold ‹_›

end Offers

/-- The best routes are the cheapest of all offers. -/
theorem bestRoutes_cheapest (connected : List Network) (stubs : List (String × List (Network × Nat)))
    (labels : List PathLabel) :
    Cheapest (offers connected stubs labels) (bestRoutes connected stubs labels) := by
  have all (rest : List Offer) {considered : List Offer} {best : List (Network × Route)}
      (h : Cheapest considered best) :
      Cheapest (considered ++ rest) (rest.foldl (fun best o => offerRoute best o.network o.route) best) := by
    induction rest generalizing considered best with
    | nil => rwa [List.append_nil]
    | cons o rest ih =>
      have next := ih (offerRoute_cheapest h o)
      rwa [List.append_assoc] at next
  rw [bestRoutes_eq]
  have start : Cheapest [] [] :=
    ⟨List.nodup_nil, fun e he => (List.not_mem_nil he).elim, fun o ho => (List.not_mem_nil ho).elim⟩
  exact all _ start

/-- The best routes lead to different networks by the hops of labels. -/
theorem bestRoutes_best {P : Hop → Prop} {N : Network → Prop} (hlabels : Hops P labels)
    (hstubs : ∀ s ∈ stubs, ∀ e ∈ s.2, N e.1) :
    ∀ e ∈ bestRoutes connected stubs labels, N e.1 ∧ ∃ hop metric, P hop ∧ e.2 = ospfRoute e.1 hop metric := by
  intro e he
  obtain ⟨o, ho, rfl⟩ := (bestRoutes_cheapest connected stubs labels).each e he
  obtain ⟨l, hl, hhop, cost, hcost, -⟩ := mem_offers.1 ho
  refine ⟨?_, o.hop, o.metric, hlabels l hl o.hop hhop, rfl⟩
  unfold networksAt at hcost
  cases hf : stubs.find? (·.1 = l.node) with
  | none =>
    rw [hf] at hcost
    cases hcost
  | some s =>
    rw [hf] at hcost
    exact hstubs s (List.mem_of_find?_eq_some hf) _ hcost

end Topology

end NetRack
