import NetRack.Proofs.Ospf.Paths
import Mathlib

/-!
# Shortest paths

The search for shortest paths settles the routers in the order of their distances.  What is settled is never
farther away than what is not, so a settled distance is final, and once nothing is left that is known and not
settled every walk from the source has been taken into account: a router that a walk leads to has a label
that is no longer than the walk, and the distance and the first hop of a label are those of some walk.  There
are only so many routers to be settled, so after as many steps the search is over.
-/

namespace NetRack

variable {edges : EdgeTable} {source : String}

/-! ## Walks -/

/-- A walk along edges from one router to another, with its cost. -/
inductive Leads (edges : EdgeTable) : String → Nat → String → Prop where
  | stay (node : String) : Leads edges node 0 node
  | go {node last : String} {e : Edge} {w : Nat} (edge : e ∈ edgesFrom edges node)
      (rest : Leads edges e.peer w last) : Leads edges node (e.cost + w) last

theorem Leads.snoc {a b : String} {w : Nat} (walk : Leads edges a w b) {e : Edge} (he : e ∈ edgesFrom edges b) :
    Leads edges a (w + e.cost) e.peer := by
  induction walk with
  | stay node =>
    rw [Nat.add_comm]
    exact .go he (.stay e.peer)
  | go edge _ ih =>
    rw [Nat.add_assoc]
    exact .go edge (ih he)

/-- Whether a label is that of the source, or has the distance and the first hop of a walk. -/
def Along (edges : EdgeTable) (source : String) (l : PathLabel) : Prop :=
  l = ⟨source, 0, none⟩ ∨
    ∃ e ∈ edgesFrom edges source, ∃ w, Leads edges e.peer w l.node ∧ l.distance = e.cost + w ∧ l.hop = some e.hop

/-- The label that an edge adds to that of the router it leaves. -/
def PathLabel.extend (source : String) (l : PathLabel) (e : Edge) : PathLabel :=
  ⟨e.peer, l.distance + e.cost, if l.node = source then some e.hop else l.hop⟩

theorem Along.extend {l : PathLabel} (h : Along edges source l) (own : l.node = source → l = ⟨source, 0, none⟩)
    {e : Edge} (he : e ∈ edgesFrom edges l.node) : Along edges source (l.extend source e) := by
  refine Or.inr ?_
  by_cases hsource : l.node = source
  · obtain rfl := own hsource
    exact ⟨e, he, 0, .stay e.peer, by simp [PathLabel.extend], by simp [PathLabel.extend]⟩
  · rcases h with rfl | ⟨first, hfirst, w, walk, hdistance, hhop⟩
    · exact absurd rfl hsource
    · refine ⟨first, hfirst, w + e.cost, walk.snoc he, ?_, ?_⟩
      · rw [PathLabel.extend, hdistance, Nat.add_assoc]
      · rw [PathLabel.extend, if_neg hsource, hhop]

/-! ## Labels -/

instance : Std.TransOrd Hop :=
  inferInstanceAs <| Std.TransCmp <| compareLex (compareOn Hop.interface) (compareOn Hop.address)

theorem hopBefore_some_iff {a b : Hop} : hopBefore (some a) (some b) = true ↔ compare a b = .lt :=
  Ordering.isLT_iff_eq_lt

theorem not_hopBefore_some_iff {a b : Hop} : hopBefore (some a) (some b) = false ↔ (compare b a).isLE = true := by
  rw [← Bool.not_eq_true, hopBefore_some_iff, Std.OrientedOrd.eq_swap (a := b)]
  cases compare a b <;> decide

theorem hopBefore_self (a : Option Hop) : hopBefore a a = false := by
  cases a with
  | none => rfl
  | some a => exact not_hopBefore_some_iff.2 Std.ReflOrd.isLE_rfl

theorem hopBefore_asymm {a b : Option Hop} (h : hopBefore a b = true) : hopBefore b a = false := by
  cases a with
  | none => cases b <;> rfl
  | some a =>
    cases b with
    | none => cases h
    | some b => rw [not_hopBefore_some_iff, hopBefore_some_iff.1 h]; rfl

/-- If one first hop does not come before another, and that one not before a third, nor does the first before
the third. -/
theorem hopBefore_trans {a b c : Option Hop} (hab : hopBefore a b = false) (hbc : hopBefore b c = false) :
    hopBefore a c = false := by
  cases c with
  | none => cases a <;> rfl
  | some c =>
    cases b with
    | none => cases hbc
    | some b =>
      cases a with
      | none => cases hab
      | some a =>
        rw [not_hopBefore_some_iff] at hab hbc ⊢
        exact Std.TransOrd.isLE_trans hbc hab

/-- Whether a label is for the router of another, and the other does not come before it: by its distance, or by
its first hop if the distances are equal. -/
def PathLabel.Precedes (l m : PathLabel) : Prop :=
  l.node = m.node ∧ (l.distance < m.distance ∨ l.distance = m.distance ∧ hopBefore m.hop l.hop = false)

theorem PathLabel.Precedes.refl (l : PathLabel) : l.Precedes l := ⟨rfl, Or.inr ⟨rfl, hopBefore_self l.hop⟩⟩

theorem PathLabel.Precedes.trans {l m n : PathLabel} (h : l.Precedes m) (h' : m.Precedes n) : l.Precedes n := by
  obtain ⟨hnode, nearer | ⟨same, first⟩⟩ := h
  · obtain ⟨hnode', nearer' | ⟨same', -⟩⟩ := h'
    · exact ⟨hnode.trans hnode', Or.inl (Nat.lt_trans nearer nearer')⟩
    · exact ⟨hnode.trans hnode', Or.inl (same' ▸ nearer)⟩
  · obtain ⟨hnode', nearer' | ⟨same', first'⟩⟩ := h'
    · exact ⟨hnode.trans hnode', Or.inl (same ▸ nearer')⟩
    · exact ⟨hnode.trans hnode', Or.inr ⟨same.trans same', hopBefore_trans first' first⟩⟩

/-- Whether a label among some precedes another. -/
def Beats (labels : List PathLabel) (x : PathLabel) : Prop := ∃ l ∈ labels, l.Precedes x

/-- Whether a router has a label within a distance. -/
def Covers (labels : List PathLabel) (node : String) (w : Nat) : Prop :=
  ∃ l ∈ labels, l.node = node ∧ l.distance ≤ w

theorem Beats.covers {labels : List PathLabel} {x : PathLabel} (h : Beats labels x) :
    Covers labels x.node x.distance := by
  obtain ⟨l, hl, hnode, before⟩ := h
  exact ⟨l, hl, hnode, by omega⟩

theorem eq_of_node_eq {labels : List PathLabel} (apart : (labels.map PathLabel.node).Nodup) {a b : PathLabel}
    (ha : a ∈ labels) (hb : b ∈ labels) (h : a.node = b.node) : a = b :=
  List.inj_on_of_nodup_map apart ha hb h

theorem mem_relax {labels : List PathLabel} {new l : PathLabel} (h : l ∈ relax labels new) :
    l ∈ labels ∨ l = new := by
  unfold relax at h
  split at h
  · simpa using h
  · split at h
    · obtain ⟨old, hold, rfl⟩ := List.mem_map.1 h
      split
      · exact Or.inr rfl
      · exact Or.inl hold
    · exact Or.inl h

/-- What becomes of a label: it stays, unless it is for the router of a new one that comes before it. -/
theorem relax_old {labels : List PathLabel} (apart : (labels.map PathLabel.node).Nodup) (new : PathLabel)
    {l : PathLabel} (hl : l ∈ labels) : l ∈ relax labels new ∨ (new ∈ relax labels new ∧ l.node = new.node ∧
      (new.distance < l.distance ∨ new.distance = l.distance ∧ hopBefore new.hop l.hop = true)) := by
  unfold relax
  split
  · exact Or.inl (List.mem_append_left _ hl)
  · rename_i old hf
    have hold := List.mem_of_find?_eq_some hf
    have hnode : old.node = new.node := by simpa using List.find?_some hf
    split
    · rename_i before
      by_cases hn : l.node = new.node
      · obtain rfl := eq_of_node_eq apart hl hold (hn.trans hnode.symm)
        refine Or.inr ⟨List.mem_map.2 ⟨l, hl, if_pos hn⟩, hn, ?_⟩
        simpa using before
      · exact Or.inl (List.mem_map.2 ⟨l, hl, if_neg hn⟩)
    · exact Or.inl hl

theorem relax_beats {labels : List PathLabel} (apart : (labels.map PathLabel.node).Nodup) (new : PathLabel)
    {x : PathLabel} (h : Beats labels x) : Beats (relax labels new) x := by
  obtain ⟨l, hl, precedes⟩ := h
  rcases relax_old apart new hl with hl | ⟨hnew, hnode, before⟩
  · exact ⟨l, hl, precedes⟩
  · have first : new.Precedes l := ⟨hnode.symm, before.imp_right fun ⟨same, hop⟩ => ⟨same, hopBefore_asymm hop⟩⟩
    exact ⟨new, hnew, first.trans precedes⟩

theorem relax_beats_new (labels : List PathLabel) (new : PathLabel) : Beats (relax labels new) new := by
  unfold relax
  split
  · exact ⟨new, by simp, .refl new⟩
  · rename_i old hf
    have hold := List.mem_of_find?_eq_some hf
    have hnode : old.node = new.node := by simpa using List.find?_some hf
    split
    · exact ⟨new, List.mem_map.2 ⟨old, hold, if_pos hnode⟩, .refl new⟩
    · rename_i later
      simp only [Bool.or_eq_true, Bool.and_eq_true, decide_eq_true_eq, not_or, not_and, Bool.not_eq_true] at later
      refine ⟨old, hold, hnode, ?_⟩
      rcases Nat.lt_or_eq_of_le (Nat.le_of_not_lt later.1) with nearer | same
      · exact Or.inl nearer
      · exact Or.inr ⟨same, later.2 same.symm⟩

theorem nodes_relax (labels : List PathLabel) (new : PathLabel) :
    (relax labels new).map PathLabel.node =
      if new.node ∈ labels.map PathLabel.node then labels.map PathLabel.node
      else labels.map PathLabel.node ++ [new.node] := by
  have known : new.node ∈ labels.map PathLabel.node ↔ (labels.find? (·.node = new.node)).isSome = true := by
    simp [List.find?_isSome]
  unfold relax
  split
  · rename_i hf
    have absent : new.node ∉ labels.map PathLabel.node := by simp [known, hf]
    rw [if_neg absent, List.map_append]
    rfl
  · rename_i old hf
    have present : new.node ∈ labels.map PathLabel.node := by simp [known, hf]
    rw [if_pos present]
    split
    · rw [List.map_map]
      refine List.map_congr_left fun l _ => ?_
      rw [Function.comp_apply]
      split
      · exact Eq.symm ‹_›
      · rfl
    · rfl

/-! ## The state of the search -/

/-- What holds of the settled labels and of those that are known beyond them. -/
structure Searching (edges : EdgeTable) (source : String) (settled frontier : List PathLabel) : Prop where
  apart : ((settled ++ frontier).map PathLabel.node).Nodup
  origin : ⟨source, 0, none⟩ ∈ settled ++ frontier
  along : ∀ l ∈ settled ++ frontier, Along edges source l
  nearer : ∀ s ∈ settled, ∀ f ∈ frontier, s.distance ≤ f.distance

/-- Whether an edge that leaves the router of a label has been taken into account: it leads to a router that is
settled and no farther away, or to one with a label that precedes the one that the edge adds. -/
def Considered (source : String) (settled frontier : List PathLabel) (s : PathLabel) (e : Edge) : Prop :=
  (∃ p ∈ settled, p.node = e.peer ∧ p.distance ≤ s.distance) ∨ Beats (settled ++ frontier) (s.extend source e)

/-- Whether the edges that leave the router of a label have been taken into account. -/
def Closed (edges : EdgeTable) (source : String) (settled frontier : List PathLabel) (s : PathLabel) : Prop :=
  ∀ e ∈ edgesFrom edges s.node, Considered source settled frontier s e

theorem Considered.mono {settled frontier settled' frontier' : List PathLabel} {s : PathLabel} {e : Edge}
    (h : Considered source settled frontier s e) (more : ∀ p ∈ settled, p ∈ settled')
    (keeps : ∀ x, Beats (settled ++ frontier) x → Beats (settled' ++ frontier') x) :
    Considered source settled' frontier' s e :=
  h.imp (fun ⟨p, hp, near⟩ => ⟨p, more p hp, near⟩) (keeps _)

/-- What an edge leads to is no farther away than the edge says. -/
theorem Considered.covers {labels : List PathLabel} {s : PathLabel} {e : Edge}
    (h : Considered source labels [] s e) : Covers labels e.peer (s.distance + e.cost) := by
  rcases h with ⟨p, hp, hnode, near⟩ | beats
  · exact ⟨p, hp, hnode, Nat.le_add_right_of_le near⟩
  · rw [List.append_nil] at beats
    exact beats.covers

/-- If an edge costs something, what it leads to has a label that precedes the one that the edge adds. -/
theorem Considered.beats {labels : List PathLabel} {s : PathLabel} {e : Edge}
    (h : Considered source labels [] s e) (paid : 0 < e.cost) : Beats labels (s.extend source e) := by
  rcases h with ⟨p, hp, hnode, near⟩ | beats
  · exact ⟨p, hp, hnode, Or.inl (Nat.lt_of_le_of_lt near (Nat.lt_add_of_pos_right paid))⟩
  · rwa [List.append_nil] at beats

namespace Searching

variable {settled frontier : List PathLabel} (h : Searching edges source settled frontier)

include h

theorem own {l : PathLabel} (hl : l ∈ settled ++ frontier) (hnode : l.node = source) : l = ⟨source, 0, none⟩ :=
  eq_of_node_eq h.apart hl h.origin hnode

theorem frontier_apart : (frontier.map PathLabel.node).Nodup := by
  have apart := h.apart
  rw [List.map_append, List.nodup_append] at apart
  exact apart.2.1

/-- Relaxing an edge of a settled router to one that is not settled. -/
theorem relax {current : PathLabel} (hc : current ∈ settled) (far : ∀ s ∈ settled, s.distance ≤ current.distance)
    {e : Edge} (he : e ∈ edgesFrom edges current.node) (fresh : e.peer ∉ settled.map PathLabel.node) :
    Searching edges source settled (NetRack.relax frontier (current.extend source e)) := by
  have hmem : current ∈ settled ++ frontier := List.mem_append_left _ hc
  constructor
  · have apart := h.apart
    rw [List.map_append] at apart ⊢
    rw [nodes_relax]
    split
    · exact apart
    · rename_i unknown
      rw [← List.append_assoc]
      refine List.Nodup.append apart (List.nodup_singleton _) ?_
      rw [List.disjoint_singleton, List.mem_append]
      exact not_or.2 ⟨fresh, unknown⟩
  · rcases List.mem_append.1 h.origin with ho | ho
    · exact List.mem_append_left _ ho
    · rcases relax_old h.frontier_apart (current.extend source e) ho with ho | ⟨-, -, before⟩
      · exact List.mem_append_right _ ho
      · simp [hopBefore] at before
  · intro l hl
    rcases List.mem_append.1 hl with hl | hl
    · exact h.along l (List.mem_append_left _ hl)
    · rcases mem_relax hl with hl | rfl
      · exact h.along l (List.mem_append_right _ hl)
      · exact (h.along current hmem).extend (h.own hmem) he
  · intro s hs f hf
    rcases mem_relax hf with hf | rfl
    · exact h.nearer s hs f hf
    · exact Nat.le_trans (far s hs) (Nat.le_add_right _ _)

/-- Relaxing edges of a settled router loses no label and takes these edges into account. -/
theorem relaxAll {current : PathLabel} (hc : current ∈ settled) (far : ∀ s ∈ settled, s.distance ≤ current.distance)
    (es : List Edge) (hes : ∀ e ∈ es, e ∈ edgesFrom edges current.node) :
    let frontier' := es.foldl (fun labels e =>
      if settled.any (·.node = e.peer) then labels
      else NetRack.relax labels (current.extend source e)) frontier
    Searching edges source settled frontier' ∧
      (∀ x, Beats (settled ++ frontier) x → Beats (settled ++ frontier') x) ∧
      ∀ e ∈ es, Considered source settled frontier' current e := by
  induction es generalizing frontier with
  | nil => exact ⟨h, fun _ hbeats => hbeats, fun e he => (List.not_mem_nil he).elim⟩
  | cons e es ih =>
    rw [List.foldl_cons]
    have he := hes e List.mem_cons_self
    have hes' : ∀ e ∈ es, e ∈ edgesFrom edges current.node := fun e he => hes e (List.mem_cons_of_mem _ he)
    by_cases known : settled.any (·.node = e.peer) = true
    · rw [if_pos known]
      obtain ⟨search, keeps, considered⟩ := ih h hes'
      refine ⟨search, keeps, fun x hx => ?_⟩
      rcases List.mem_cons.1 hx with rfl | hx
      · -- A router that is settled already is not farther away than the one that is settled now.
        obtain ⟨s, hs, hnode⟩ := List.any_eq_true.1 known
        exact Or.inl ⟨s, hs, of_decide_eq_true hnode, far s hs⟩
      · exact considered x hx
    · rw [if_neg known]
      have fresh : e.peer ∉ settled.map PathLabel.node := by simpa using known
      obtain ⟨search, keeps, considered⟩ := ih (h.relax hc far he fresh) hes'
      refine ⟨search, fun x hbeats => keeps x ?_, fun x hx => ?_⟩
      · obtain ⟨l, hl, precedes⟩ := hbeats
        rcases List.mem_append.1 hl with hl | hl
        · exact ⟨l, List.mem_append_left _ hl, precedes⟩
        · obtain ⟨l', hl', precedes'⟩ := relax_beats h.frontier_apart (current.extend source e) ⟨l, hl, precedes⟩
          exact ⟨l', List.mem_append_right _ hl', precedes'⟩
      · rcases List.mem_cons.1 hx with rfl | hx
        · obtain ⟨l, hl, precedes⟩ := relax_beats_new frontier (current.extend source x)
          exact Or.inr (keeps _ ⟨l, List.mem_append_right _ hl, precedes⟩)
        · exact considered x hx

theorem relaxEdges {current : PathLabel} (hc : current ∈ settled)
    (far : ∀ s ∈ settled, s.distance ≤ current.distance) :
    let frontier' := NetRack.relaxEdges source settled current (edgesFrom edges current.node) frontier
    Searching edges source settled frontier' ∧
      (∀ x, Beats (settled ++ frontier) x → Beats (settled ++ frontier') x) ∧
      Closed edges source settled frontier' current := by
  obtain ⟨search, keeps, considered⟩ := h.relaxAll hc far (sortBy (keyLe id) (edgesFrom edges current.node))
    fun e he => mem_sortBy.1 he
  exact ⟨search, keeps, fun e he => considered e (mem_sortBy.2 he)⟩

/-- Settling the nearest router. -/
theorem settleNearest {l : PathLabel} (hl : l ∈ frontier) (least : ∀ m ∈ frontier, l.distance ≤ m.distance) :
    Searching edges source (settled ++ [l]) (frontier.filter (·.node ≠ l.node)) ∧
      ∀ x, x ∈ settled ++ [l] ++ frontier.filter (·.node ≠ l.node) ↔ x ∈ settled ++ frontier := by
  have same : ∀ x, x ∈ settled ++ [l] ++ frontier.filter (·.node ≠ l.node) ↔ x ∈ settled ++ frontier := by
    intro x
    simp only [List.mem_append, List.mem_singleton, List.mem_filter, decide_eq_true_eq, ne_eq]
    constructor
    · rintro ((hx | rfl) | ⟨hx, -⟩)
      · exact Or.inl hx
      · exact Or.inr hl
      · exact Or.inr hx
    · rintro (hx | hx)
      · exact Or.inl (Or.inl hx)
      · by_cases hn : x.node = l.node
        · exact Or.inl (Or.inr (eq_of_node_eq h.frontier_apart hx hl hn))
        · exact Or.inr ⟨hx, hn⟩
  refine ⟨⟨?_, (same _).2 h.origin, fun x hx => h.along x ((same x).1 hx), fun s hs f hf => ?_⟩, same⟩
  · have apart := h.apart
    rw [List.map_append, List.nodup_append] at apart
    obtain ⟨settled_apart, -, distinct⟩ := apart
    rw [List.map_append, List.map_append]
    refine List.Nodup.append (List.Nodup.append settled_apart (List.nodup_singleton _) ?_)
      ((List.filter_sublist.map PathLabel.node).nodup h.frontier_apart) ?_
    · rw [List.map_singleton, List.disjoint_singleton]
      exact fun hmem => distinct _ hmem _ (List.mem_map_of_mem hl) rfl
    · intro n hn hrest
      obtain ⟨x, hx, rfl⟩ := List.mem_map.1 hrest
      obtain ⟨hx, hne⟩ := List.mem_filter.1 hx
      rcases List.mem_append.1 hn with hn | hn
      · exact distinct _ hn _ (List.mem_map_of_mem hx) rfl
      · simp at hn hne
        exact hne hn
  · have hf := (List.mem_filter.1 hf).1
    rcases List.mem_append.1 hs with hs | hs
    · exact h.nearer s hs f hf
    · rw [List.mem_singleton.1 hs]
      exact least f hf

/-- The routers that are known are the source and those that edges lead to. -/
theorem length_le : (settled ++ frontier).length ≤ 1 + (edges.map fun e => e.2.length).sum := by
  have peers : ∀ n ∈ (settled ++ frontier).map PathLabel.node,
      n ∈ source :: edges.flatMap fun p => p.2.map Edge.peer := by
    intro n hn
    obtain ⟨l, hl, rfl⟩ := List.mem_map.1 hn
    have peer {node : String} {e : Edge} (he : e ∈ edgesFrom edges node) :
        e.peer ∈ edges.flatMap fun p => p.2.map Edge.peer := by
      obtain ⟨p, hp, hep⟩ := edgesFrom_mem he
      exact List.mem_flatMap.2 ⟨p, hp, List.mem_map_of_mem hep⟩
    have ends {a b : String} {w : Nat} (walk : Leads edges a w b)
        (ha : a ∈ edges.flatMap fun p => p.2.map Edge.peer) :
        b ∈ edges.flatMap fun p => p.2.map Edge.peer := by
      induction walk with
      | stay _ => exact ha
      | go edge _ ih => exact ih (peer edge)
    rcases h.along l hl with rfl | ⟨e, he, w, walk, -⟩
    · exact List.mem_cons_self
    · exact List.mem_cons_of_mem _ (ends walk (peer he))
  have few := (List.subperm_of_subset h.apart peers).length_le
  rw [List.length_map, List.length_cons, List.length_flatMap] at few
  simp only [List.length_map] at few
  omega

end Searching

theorem le_of_then_isLE {a b : Nat} {o : Ordering} (h : ((compare a b).then o).isLE = true) : a ≤ b := by
  by_contra hlt
  rw [Nat.compare_eq_gt.2 (Nat.lt_of_not_le hlt)] at h
  cases h

theorem le_of_not_then_isLE {a b : Nat} {o : Ordering} (h : ¬((compare a b).then o).isLE = true) : b ≤ a := by
  by_contra hlt
  rw [Nat.compare_eq_lt.2 (Nat.lt_of_not_le hlt)] at h
  exact h rfl

theorem nearest_spec (labels : List PathLabel) :
    match nearest labels with
    | none => labels = []
    | some l => l ∈ labels ∧ ∀ m ∈ labels, l.distance ≤ m.distance := by
  induction labels with
  | nil => rfl
  | cons l rest ih =>
    unfold nearest
    cases hn : nearest rest with
    | none =>
      rw [hn] at ih
      obtain rfl : rest = [] := ih
      exact ⟨List.mem_cons_self, fun m hm => Nat.le_of_eq (by rw [List.mem_singleton.1 hm])⟩
    | some m =>
      rw [hn] at ih
      obtain ⟨hm, least⟩ := ih
      dsimp only
      by_cases first : ((compare l.distance m.distance).then (compare l.node m.node)).isLE = true
      · rw [if_pos first]
        refine ⟨List.mem_cons_self, fun x hx => ?_⟩
        rcases List.mem_cons.1 hx with rfl | hx
        · exact Nat.le_refl _
        · exact Nat.le_trans (le_of_then_isLE first) (least x hx)
      · rw [if_neg first]
        refine ⟨List.mem_cons_of_mem _ hm, fun x hx => ?_⟩
        rcases List.mem_cons.1 hx with rfl | hx
        · exact le_of_not_then_isLE first
        · exact least x hx

/-- One step of the search: the nearest router is settled, and its edges are taken into account. -/
theorem Searching.advance {settled frontier : List PathLabel} (h : Searching edges source settled frontier)
    {l : PathLabel} (hn : nearest frontier = some l) :
    let settled' := settled ++ [l]
    let frontier' := NetRack.relaxEdges source settled' l (edgesFrom edges l.node) (frontier.filter (·.node ≠ l.node))
    Searching edges source settled' frontier' ∧
      ((∀ s ∈ settled, Closed edges source settled frontier s) →
        ∀ s ∈ settled', Closed edges source settled' frontier' s) := by
  have spec := nearest_spec frontier
  rw [hn] at spec
  obtain ⟨hl, least⟩ := spec
  obtain ⟨moved, same⟩ := h.settleNearest hl least
  have far : ∀ s ∈ settled ++ [l], s.distance ≤ l.distance := by
    intro s hs
    rcases List.mem_append.1 hs with hs | hs
    · exact h.nearer s hs l hl
    · exact Nat.le_of_eq (by rw [List.mem_singleton.1 hs])
  obtain ⟨search, keeps, done⟩ := moved.relaxEdges (List.mem_append_right _ List.mem_cons_self) far
  refine ⟨search, fun closed s hs => ?_⟩
  rcases List.mem_append.1 hs with hs | hs
  · intro e he
    refine (closed s hs e he).mono (fun p hp => List.mem_append_left _ hp) fun x hx => ?_
    obtain ⟨m, hm, precedes⟩ := hx
    exact keeps x ⟨m, (same m).2 hm, precedes⟩
  · rw [List.mem_singleton.1 hs]
    exact done

theorem settle_nil (edges : EdgeTable) (source : String) (fuel : Nat) (settled : List PathLabel) :
    settle edges source fuel settled [] = settled := by
  cases fuel <;> rfl

/-- The routers that may be settled are not more than the edges and the source. -/
theorem Searching.frontier_nil {settled frontier : List PathLabel} (h : Searching edges source settled frontier)
    (enough : 1 + (edges.map fun e => e.2.length).sum ≤ settled.length) : frontier = [] := by
  have few := h.length_le
  rw [List.length_append] at few
  exact List.length_eq_zero_iff.1 (by omega)

/-- The search ends with nothing known that is not settled, and all edges taken into account. -/
theorem settle_searching {fuel : Nat} {settled frontier : List PathLabel}
    (h : Searching edges source settled frontier) (closed : ∀ s ∈ settled, Closed edges source settled frontier s)
    (enough : 1 + (edges.map fun e => e.2.length).sum ≤ settled.length + fuel) :
    Searching edges source (settle edges source fuel settled frontier) [] ∧
      ∀ s ∈ settle edges source fuel settled frontier,
        Closed edges source (settle edges source fuel settled frontier) [] s := by
  induction fuel generalizing settled frontier with
  | zero =>
    obtain rfl := h.frontier_nil enough
    exact ⟨h, closed⟩
  | succ fuel ih =>
    unfold settle
    cases hn : nearest frontier with
    | none =>
      have spec := nearest_spec frontier
      rw [hn] at spec
      obtain rfl : frontier = [] := spec
      exact ⟨h, closed⟩
    | some l =>
      obtain ⟨search, closed'⟩ := h.advance hn
      exact ih search (closed' closed) (by rw [List.length_append, List.length_singleton]; omega)

/-- Once it has had steps enough the search is over, and more steps change nothing. -/
theorem settle_eq_of_enough {fuel fuel' : Nat} {settled frontier : List PathLabel}
    (h : Searching edges source settled frontier)
    (enough : 1 + (edges.map fun e => e.2.length).sum ≤ settled.length + fuel) (more : fuel ≤ fuel') :
    settle edges source fuel' settled frontier = settle edges source fuel settled frontier := by
  induction fuel generalizing fuel' settled frontier with
  | zero =>
    obtain rfl := h.frontier_nil enough
    rw [settle_nil, settle_nil]
  | succ fuel ih =>
    obtain ⟨rest, rfl⟩ : ∃ rest, fuel' = rest + 1 := ⟨fuel' - 1, by omega⟩
    unfold settle
    cases hn : nearest frontier with
    | none => rfl
    | some l =>
      exact ih (h.advance hn).1 (by rw [List.length_append, List.length_singleton]; omega) (by omega)

/-- Before its first step the search knows the source alone. -/
theorem searching_start (edges : EdgeTable) (source : String) : Searching edges source [] [⟨source, 0, none⟩] where
  apart := List.nodup_singleton _
  origin := List.mem_cons_self
  along := fun _ hl => Or.inl (List.mem_singleton.1 hl)
  nearer := fun _ hs => (List.not_mem_nil hs).elim

theorem shortestPaths_eq (edges : EdgeTable) (source : String) : shortestPaths edges source =
    settle edges source (1 + (edges.map fun e => e.2.length).sum) [] [⟨source, 0, none⟩] := by
  have total (ns : List Nat) (n : Nat) : ns.foldl (· + ·) n = n + ns.sum := by
    induction ns generalizing n with
    | nil => rfl
    | cons m ns ih => rw [List.foldl_cons, ih, List.sum_cons, Nat.add_assoc]
  unfold shortestPaths
  rw [total]

/-- Shortest paths are what the search comes to, whatever more steps it may take. -/
theorem settle_eq_shortestPaths (edges : EdgeTable) (source : String) {fuel : Nat}
    (more : 1 + (edges.map fun e => e.2.length).sum ≤ fuel) :
    settle edges source fuel [] [⟨source, 0, none⟩] = shortestPaths edges source := by
  rw [shortestPaths_eq]
  exact settle_eq_of_enough (searching_start edges source) (Nat.le_add_left _ _) more

theorem shortestPaths_searching (edges : EdgeTable) (source : String) :
    Searching edges source (shortestPaths edges source) [] ∧
      ∀ s ∈ shortestPaths edges source, Closed edges source (shortestPaths edges source) [] s := by
  rw [shortestPaths_eq]
  exact settle_searching (searching_start edges source) (fun s hs => (List.not_mem_nil hs).elim)
    (Nat.le_add_left _ _)

theorem shortestPaths_origin (edges : EdgeTable) (source : String) :
    ⟨source, 0, none⟩ ∈ shortestPaths edges source := by
  have origin := (shortestPaths_searching edges source).1.origin
  rwa [List.append_nil] at origin

/-- No two labels are for one router. -/
theorem shortestPaths_apart (edges : EdgeTable) (source : String) :
    ((shortestPaths edges source).map PathLabel.node).Nodup := by
  have apart := (shortestPaths_searching edges source).1.apart
  rwa [List.append_nil] at apart

theorem shortestPaths_closed {l : PathLabel} (hl : l ∈ shortestPaths edges source) :
    Closed edges source (shortestPaths edges source) [] l := (shortestPaths_searching edges source).2 l hl

/-- The distance and the first hop of a label are those of a walk. -/
theorem shortestPaths_along {l : PathLabel} (hl : l ∈ shortestPaths edges source) : Along edges source l :=
  (shortestPaths_searching edges source).1.along l (by rwa [List.append_nil])

/-- The distance of a label is that of a walk. -/
theorem shortestPaths_walk {l : PathLabel} (hl : l ∈ shortestPaths edges source) :
    Leads edges source l.distance l.node := by
  rcases shortestPaths_along hl with rfl | ⟨e, he, w, walk, hdistance, -⟩
  · exact .stay source
  · rw [hdistance]
    exact .go he walk

/-- All labels but that of the source have a first hop. -/
theorem shortestPaths_hop {l : PathLabel} (hl : l ∈ shortestPaths edges source) :
    l.hop.isSome = true ↔ l.node ≠ source := by
  constructor
  · intro hop own
    have search := (shortestPaths_searching edges source).1
    rw [search.own (by rwa [List.append_nil]) own] at hop
    cases hop
  · intro away
    rcases shortestPaths_along hl with rfl | ⟨e, -, _, -, -, hhop⟩
    · exact absurd rfl away
    · rw [hhop]
      rfl

/-- A router that a walk leads to has a label, and the label is not longer than the walk. -/
theorem shortestPaths_covers {node : String} {w : Nat} (walk : Leads edges source w node) :
    Covers (shortestPaths edges source) node w := by
  have from_label {a b : String} {w : Nat} (walk : Leads edges a w b) {v : Nat}
      (ha : Covers (shortestPaths edges source) a v) : Covers (shortestPaths edges source) b (v + w) := by
    induction walk generalizing v with
    | stay _ => exact ha
    | go edge _ ih =>
      obtain ⟨s, hs, rfl, hv⟩ := ha
      obtain ⟨l, hl, hn, hw⟩ := ih (shortestPaths_closed hs _ edge).covers
      exact ⟨l, hl, hn, by omega⟩
  simpa using from_label walk ⟨_, shortestPaths_origin edges source, rfl, Nat.le_refl 0⟩

end NetRack
