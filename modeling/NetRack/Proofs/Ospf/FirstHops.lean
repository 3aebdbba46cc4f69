import NetRack.Proofs.Ospf.Search

/-!
# First hops of shortest paths

Several shortest paths may lead to a router.  The first hop of its label is the least of theirs: every step costs
something, so whatever is on a shortest path to a router is settled before it, with a first hop that is final, and
no shortest path comes back to the source.
-/

namespace NetRack

variable {edges : EdgeTable} {source : String}

/-- The first hops of the walks from the source to a router that cost so much. -/
def firstHops (edges : EdgeTable) (source node : String) (cost : Nat) : Set Hop :=
  {hop | ∃ e ∈ edgesFrom edges source, e.hop = hop ∧ ∃ w, Leads edges e.peer w node ∧ e.cost + w = cost}

/-- Whether a label tells how far its router is from the source and, unless the router is the source, which first
hop of a shortest walk comes first by its interface and then by its address. -/
structure PathLabel.IsShortest (edges : EdgeTable) (source : String) (l : PathLabel) : Prop where
  distance : IsLeast {w | Leads edges source w l.node} l.distance
  hop : l.node ≠ source → ∃ hop ∈ firstHops edges source l.node l.distance, l.hop = some hop ∧
    ∀ other ∈ firstHops edges source l.node l.distance,
      hop.interface < other.interface ∨ hop.interface = other.interface ∧ hop.address ≤ other.address

theorem Hop.isLE_iff {a b : Hop} : (compare a b).isLE = true ↔
    a.interface < b.interface ∨ a.interface = b.interface ∧ a.address ≤ b.address := by
  show ((compare a.interface b.interface).then (compare a.address b.address)).isLE = true ↔ _
  rw [Ordering.isLE_then_iff_or, Std.LawfulLTCmp.eq_lt_iff_lt, Std.LawfulEqOrd.compare_eq_iff_eq,
    Std.LawfulLECmp.isLE_iff_le]

/-- A label with the first hop and the cost of a way is preceded at the router that the way leads to, if it is at a
router on the way. -/
theorem Leads.beats (positive : ∀ node, ∀ e ∈ edgesFrom edges node, 0 < e.cost) {a b : String} {w : Nat}
    (walk : Leads edges a w b) {v : Nat} {hop : Option Hop} (hv : 0 < v)
    (h : Beats (shortestPaths edges source) ⟨a, v, hop⟩) : Beats (shortestPaths edges source) ⟨b, v + w, hop⟩ := by
  obtain ⟨search, closed⟩ := shortestPaths_searching edges source
  induction walk generalizing v with
  | stay _ => exact h
  | go edge _ ih =>
    rename_i e w _
    obtain ⟨s, hs, rfl, before⟩ := h
    obtain ⟨l, hl, precedes⟩ := (closed s hs e edge).beats (positive _ e edge)
    have longer : (s.extend source e).Precedes ⟨e.peer, v + e.cost, hop⟩ := by
      refine ⟨rfl, before.imp (fun nearer => Nat.add_lt_add_right nearer _) fun ⟨same, first⟩ => ?_⟩
      -- The way has left the source already, and what comes back to it is too long.
      have away : s.node ≠ source := by
        intro own
        rw [search.own (by rwa [List.append_nil]) own] at same
        exact Nat.ne_of_lt hv same
      refine ⟨congrArg (· + e.cost) same, ?_⟩
      rw [PathLabel.extend, if_neg away]
      exact first
    have whole := ih (Nat.add_pos_left hv e.cost) ⟨l, hl, precedes.trans longer⟩
    rwa [Nat.add_assoc] at whole

theorem shortestPaths_isLeast {l : PathLabel} (hl : l ∈ shortestPaths edges source) :
    IsLeast {w | Leads edges source w l.node} l.distance := by
  refine ⟨shortestPaths_walk hl, fun w walk => ?_⟩
  obtain ⟨m, hm, hnode, near⟩ := shortestPaths_covers walk
  rwa [eq_of_node_eq (shortestPaths_apart edges source) hm hl hnode] at near

/-- No first hop of a shortest walk comes before that of the label. -/
theorem shortestPaths_first (positive : ∀ node, ∀ e ∈ edgesFrom edges node, 0 < e.cost) {l : PathLabel}
    (hl : l ∈ shortestPaths edges source) {other : Hop} (hother : other ∈ firstHops edges source l.node l.distance) :
    hopBefore (some other) l.hop = false := by
  obtain ⟨e, he, rfl, w, walk, cost⟩ := hother
  have start : Beats (shortestPaths edges source) ⟨e.peer, e.cost, some e.hop⟩ := by
    have first := (shortestPaths_closed (shortestPaths_origin edges source) e he).beats (positive source e he)
    rwa [PathLabel.extend, if_pos rfl, Nat.zero_add] at first
  obtain ⟨m, hm, hnode, nearer | ⟨-, first⟩⟩ := walk.beats positive (positive source e he) start
  · rw [eq_of_node_eq (shortestPaths_apart edges source) hm hl hnode, cost] at nearer
    exact absurd nearer (Nat.lt_irrefl _)
  · rwa [eq_of_node_eq (shortestPaths_apart edges source) hm hl hnode] at first

theorem shortestPaths_isShortest (positive : ∀ node, ∀ e ∈ edgesFrom edges node, 0 < e.cost) {l : PathLabel}
    (hl : l ∈ shortestPaths edges source) : l.IsShortest edges source where
  distance := shortestPaths_isLeast hl
  hop := by
    intro away
    rcases shortestPaths_along hl with rfl | ⟨e, he, w, walk, hdistance, hhop⟩
    · exact absurd rfl away
    · refine ⟨e.hop, ⟨e, he, rfl, w, walk, hdistance.symm⟩, hhop, fun other hother => ?_⟩
      have first := shortestPaths_first positive hl hother
      rw [hhop] at first
      exact Hop.isLE_iff.1 (not_hopBefore_some_iff.1 first)

/-- If every edge costs something, the search for shortest paths comes to an end, has one label for each router that
can be reached and for no other, and each label tells the least cost of a walk and the least first hop of the walks of
that cost. -/
theorem shortestPaths_least (edges : EdgeTable) (source : String) (positive : ∀ p ∈ edges, ∀ e ∈ p.2, 0 < e.cost) :
    (∃ steps, ∀ fuel, steps ≤ fuel →
      settle edges source fuel [] [⟨source, 0, none⟩] = shortestPaths edges source) ∧
    (∀ node, (∃ l ∈ shortestPaths edges source, l.node = node) ↔ ∃ w, Leads edges source w node) ∧
    ((shortestPaths edges source).map PathLabel.node).Nodup ∧
    ∀ l ∈ shortestPaths edges source, l.IsShortest edges source := by
  have paid : ∀ node, ∀ e ∈ edgesFrom edges node, 0 < e.cost := by
    intro node e he
    obtain ⟨p, hp, hep⟩ := edgesFrom_mem he
    exact positive p hp e hep
  refine ⟨⟨_, fun fuel => settle_eq_shortestPaths edges source⟩, fun node => ⟨?_, ?_⟩,
    shortestPaths_apart edges source, fun l hl => shortestPaths_isShortest paid hl⟩
  · rintro ⟨l, hl, rfl⟩
    exact ⟨l.distance, shortestPaths_walk hl⟩
  · rintro ⟨w, walk⟩
    obtain ⟨l, hl, hnode, -⟩ := shortestPaths_covers walk
    exact ⟨l, hl, hnode⟩

/-- Two ways of one cost from the first router to the last, of which the one that starts at the later interface is
found first, and a cable between both that is slower. -/
def twoWays : EdgeTable := [
  ("R1", [⟨"R2", ⟨"GigabitEthernet0/1", "10.0.1.2"⟩, 1⟩, ⟨"R3", ⟨"GigabitEthernet0/0", "10.0.2.3"⟩, 1⟩,
    ⟨"R4", ⟨"Serial0/0/0", "10.0.3.4"⟩, 64⟩]),
  ("R2", [⟨"R1", ⟨"GigabitEthernet0/0", "10.0.1.1"⟩, 1⟩, ⟨"R4", ⟨"GigabitEthernet0/1", "10.0.4.4"⟩, 1⟩]),
  ("R3", [⟨"R4", ⟨"GigabitEthernet0/1", "10.0.5.4"⟩, 1⟩])]

theorem twoWays_least : (∀ p ∈ twoWays, ∀ e ∈ p.2, 0 < e.cost) ∧
    (shortestPaths twoWays "R1").map PathLabel.node = ["R1", "R2", "R3", "R4"] ∧
    PathLabel.IsShortest twoWays "R1" ⟨"R4", 2, some ⟨"GigabitEthernet0/0", "10.0.2.3"⟩⟩ := by
  have positive : ∀ p ∈ twoWays, ∀ e ∈ p.2, 0 < e.cost := by decide
  have last : (⟨"R4", 2, some ⟨"GigabitEthernet0/0", "10.0.2.3"⟩⟩ : PathLabel) ∈ shortestPaths twoWays "R1" := by
    decide +kernel
  exact ⟨positive, by decide +kernel, (shortestPaths_least twoWays "R1" positive).2.2.2 _ last⟩

end NetRack
