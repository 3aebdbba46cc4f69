import NetRack.Grammar.Node
import Mathlib.Data.List.Forall2
import Mathlib.Data.List.Nodup

/-!
# Ways down a grammar

A way down a grammar is the list of the labels that it passes.  A grammar in which siblings never stand for
different things has at most one node at the end of each way, so the ways that it has, and the verbs at their
ends, determine it up to the order of siblings and what is said of them.
-/

namespace NetRack

/-- Two labels that siblings cannot both have, unless they are the same label. -/
def NodeLabel.Clashes (l l' : NodeLabel) : Prop :=
  l.token = l'.token ∨ l.isArgument = true ∧ l'.isArgument = true

namespace Node

variable {n child last last' : Node} {ns ns' : List Node} {l : NodeLabel} {path : List NodeLabel}
  {asked : Option Verb} {v v' : Verb}

/-! ## Ways -/

/-- The labels on the way down from a node to another. -/
inductive Descends : Node → List NodeLabel → Node → Prop where
  | stay (n : Node) : Descends n [] n
  | step {n child last : Node} {path : List NodeLabel} (mem : child ∈ n.children)
      (later : Descends child path last) : Descends n (child.label :: path) last

theorem descends_nil : n.Descends [] last ↔ last = n := by
  constructor
  · rintro ⟨⟩
    rfl
  · rintro rfl
    exact .stay _

theorem descends_cons : n.Descends (l :: path) last ↔
    ∃ child ∈ n.children, child.label = l ∧ child.Descends path last := by
  constructor
  · rintro ⟨⟩
    rename_i child mem later
    exact ⟨child, mem, rfl, later⟩
  · rintro ⟨child, mem, rfl, later⟩
    exact .step mem later

/-- A node has a way down, with a verb at its end if one is asked for. -/
def Offers (n : Node) (path : List NodeLabel) (asked : Option Verb) : Prop :=
  ∃ last, n.Descends path last ∧ ∀ v ∈ asked, last.verb = some v

/-- Some siblings have a way down from one of them, the label of which comes first. -/
def OfferedAmong (ns : List Node) (path : List NodeLabel) (asked : Option Verb) : Prop :=
  ∃ n ∈ ns, ∃ later, path = n.label :: later ∧ n.Offers later asked

theorem offers_nil : n.Offers [] asked ↔ ∀ v ∈ asked, n.verb = some v := by
  unfold Offers
  simp [descends_nil]

/-- A way down is the node itself, or it leads on from one of the children. -/
theorem offers_iff : n.Offers path asked ↔
    path = [] ∧ (∀ v ∈ asked, n.verb = some v) ∨ OfferedAmong n.children path asked := by
  cases path with
  | nil =>
    rw [offers_nil]
    simp [OfferedAmong]
  | cons l path =>
    unfold OfferedAmong Offers
    simp only [descends_cons, reduceCtorEq, false_and, false_or, List.cons.injEq]
    constructor
    · rintro ⟨last, ⟨child, mem, rfl, later⟩, verb⟩
      exact ⟨child, mem, path, ⟨rfl, rfl⟩, last, later, verb⟩
    · rintro ⟨child, mem, _, ⟨rfl, rfl⟩, last, later, verb⟩
      exact ⟨last, ⟨child, mem, rfl, later⟩, verb⟩

theorem Offers.anyway (h : n.Offers path asked) : n.Offers path none := by
  obtain ⟨last, descends, -⟩ := h
  exact ⟨last, descends, nofun⟩

theorem offeredAmong_cons (n : Node) (ns : List Node) : OfferedAmong (n :: ns) path asked ↔
    OfferedAmong [n] path asked ∨ OfferedAmong ns path asked := by
  simp [OfferedAmong]

theorem offeredAmong_append : OfferedAmong (ns ++ ns') path asked ↔
    OfferedAmong ns path asked ∨ OfferedAmong ns' path asked := by
  simp [OfferedAmong, or_and_right, exists_or]

/-- What siblings have does not depend on their order. -/
theorem offeredAmong_perm (h : ns.Perm ns') : OfferedAmong ns path asked ↔ OfferedAmong ns' path asked := by
  simp [OfferedAmong, h.mem_iff]

/-! ## Grammars without clashes -/

/-- Siblings have different tokens, and at most one of them is an argument. -/
structure Distinct (siblings : List Node) : Prop where
  tokens : (siblings.map token).Nodup
  arguments : (siblings.filter (·.isArgument)).length ≤ 1

/-- Among what may follow each node of a grammar nothing clashes. -/
def Unambiguous (n : Node) : Prop := ∀ path last, n.Descends path last → Distinct last.children

theorem unambiguous_iff : n.Unambiguous ↔ Distinct n.children ∧ ∀ child ∈ n.children, child.Unambiguous := by
  constructor
  · exact fun h => ⟨h [] n (.stay n), fun child mem path last later => h _ last (.step mem later)⟩
  · rintro ⟨here, below⟩ path last descends
    cases descends with
    | stay => exact here
    | step mem later => exact below _ mem _ _ later

/-- At most one element of a list has a property if a filter leaves at most one. -/
theorem eq_of_length_filter_le {p : Node → Bool} (h : (ns.filter p).length ≤ 1) {a b : Node} (ha : a ∈ ns)
    (hb : b ∈ ns) (pa : p a = true) (pb : p b = true) : a = b := by
  have mem_a := List.mem_filter.2 ⟨ha, pa⟩
  have mem_b := List.mem_filter.2 ⟨hb, pb⟩
  match hf : ns.filter p with
  | [] => simp [hf] at mem_a
  | [x] =>
    rw [hf, List.mem_singleton] at mem_a mem_b
    rw [mem_a, mem_b]
  | _ :: _ :: _ => simp [hf] at h

/-- Siblings that clash are one. -/
theorem Distinct.eq_of_clashes (h : Distinct ns) {a b : Node} (ha : a ∈ ns) (hb : b ∈ ns)
    (clash : a.label.Clashes b.label) : a = b := by
  rcases clash with same | ⟨pa, pb⟩
  · exact List.inj_on_of_nodup_map h.tokens ha hb same
  · exact eq_of_length_filter_le h.arguments ha hb pa pb

theorem Distinct.eq_of_label (h : Distinct ns) {a b : Node} (ha : a ∈ ns) (hb : b ∈ ns)
    (same : a.label = b.label) : a = b :=
  h.eq_of_clashes ha hb (Or.inl (congrArg NodeLabel.token same))

/-- A way leads to one node only. -/
theorem Unambiguous.unique (h : n.Unambiguous) (hl : n.Descends path last) (hl' : n.Descends path last') :
    last = last' := by
  induction hl with
  | stay n => exact (descends_nil.1 hl').symm
  | step mem later ih =>
    obtain ⟨other, mem', label, later'⟩ := descends_cons.1 hl'
    obtain ⟨here, below⟩ := unambiguous_iff.1 h
    obtain rfl := here.eq_of_label mem' mem label
    exact ih (below _ mem) later'

/-! ## Ways without clashes -/

/-- Ways that one grammar can have: no two of them end in labels that clash, or in different verbs. -/
structure Consistent (offers : List NodeLabel → Option Verb → Prop) : Prop where
  label : ∀ path l l', offers (path ++ [l]) none → offers (path ++ [l']) none → l.Clashes l' → l = l'
  verb : ∀ path v v', offers path (some v) → offers path (some v') → v = v'

section Consistent

variable {offers offers' : List NodeLabel → Option Verb → Prop}

theorem Consistent.mono (h : Consistent offers) (sub : ∀ path asked, offers' path asked → offers path asked) :
    Consistent offers' where
  label path l l' hl hl' := h.label path l l' (sub _ _ hl) (sub _ _ hl')
  verb path v v' hv hv' := h.verb path v v' (sub _ _ hv) (sub _ _ hv')

/-- What follows a label. -/
theorem Consistent.below (h : Consistent offers) (l : NodeLabel) : Consistent fun path => offers (l :: path) where
  label path := h.label (l :: path)
  verb path := h.verb (l :: path)

end Consistent

theorem descends_concat : n.Descends (path ++ [l]) last ↔
    ∃ before, n.Descends path before ∧ last ∈ before.children ∧ last.label = l := by
  induction path generalizing n with
  | nil =>
    rw [List.nil_append, descends_cons]
    simp only [descends_nil]
    constructor
    · rintro ⟨child, mem, label, rfl⟩
      exact ⟨n, rfl, mem, label⟩
    · rintro ⟨_, rfl, mem, label⟩
      exact ⟨last, mem, label, rfl⟩
  | cons first path ih =>
    rw [List.cons_append, descends_cons]
    simp only [ih, descends_cons]
    constructor
    · rintro ⟨child, mem, label, before, later, rest⟩
      exact ⟨before, ⟨child, mem, label, later⟩, rest⟩
    · rintro ⟨before, ⟨child, mem, label, later⟩, rest⟩
      exact ⟨child, mem, label, before, later, rest⟩

/-- The ways down a grammar without clashes do not clash. -/
theorem Unambiguous.consistent (h : n.Unambiguous) : Consistent n.Offers where
  label path l l' := by
    rintro ⟨a, ha, -⟩ ⟨b, hb, -⟩ clash
    obtain ⟨before, hbefore, mem, rfl⟩ := descends_concat.1 ha
    obtain ⟨before', hbefore', mem', rfl⟩ := descends_concat.1 hb
    obtain rfl := h.unique hbefore hbefore'
    rw [(h path before hbefore).eq_of_clashes mem mem' clash]
  verb path v v' := by
    rintro ⟨a, ha, hv⟩ ⟨b, hb, hv'⟩
    obtain rfl := h.unique ha hb
    exact Option.some.inj ((hv v rfl).symm.trans (hv' v' rfl))

/-! ## Grammars that have the same ways -/

/-- Two grammars are the same up to the order of siblings and what is said of nodes. -/
inductive Alike : Node → Node → Prop where
  | mk {label : NodeLabel} {verb : Option Verb} {help help' : String} {children between children' : List Node}
      (each : List.Forall₂ Alike children between) (reordered : between.Perm children') :
      Alike (mk label verb help children) (mk label verb help' children')

/-- Elements of two lists that match by a key match up to order. -/
theorem exists_matching {α κ : Type} {R : α → α → Prop} (key : α → κ) {xs ys : List α}
    (hx : (xs.map key).Nodup) (hy : (ys.map key).Nodup) (forth : ∀ x ∈ xs, ∃ y ∈ ys, key y = key x ∧ R x y)
    (back : ∀ y ∈ ys, ∃ x ∈ xs, key x = key y) : ∃ zs, List.Forall₂ R xs zs ∧ zs.Perm ys := by
  choose! f mem same related using forth
  refine ⟨xs.map f, List.forall₂_map_right_iff.2 (List.forall₂_same.2 related), ?_⟩
  have keys : (xs.map f).map key = xs.map key := by
    rw [List.map_map]
    exact List.map_congr_left fun x hx => same x hx
  rw [List.perm_ext_iff_of_nodup (List.Nodup.of_map key (keys ▸ hx)) (List.Nodup.of_map key hy)]
  intro y
  rw [List.mem_map]
  constructor
  · rintro ⟨x, hx, rfl⟩
    exact mem x hx
  · intro hmem
    obtain ⟨x, hx, hkey⟩ := back y hmem
    exact ⟨x, hx, List.inj_on_of_nodup_map hy (mem x hx) hmem ((same x hx).trans hkey)⟩

theorem offeredAmong_single (mem : n ∈ ns) (h : n.Offers path asked) :
    OfferedAmong ns (n.label :: path) asked := ⟨n, mem, path, rfl, h⟩

theorem offers_self (n : Node) : n.Offers [] none := offers_nil.2 nofun

/-- A sibling that is the only one with its label has the ways that begin with its label. -/
theorem Distinct.offers_iff (h : Distinct ns) (mem : n ∈ ns) :
    OfferedAmong ns (n.label :: path) asked ↔ n.Offers path asked := by
  constructor
  · rintro ⟨other, mem', later, heq, offered⟩
    obtain ⟨label, rfl⟩ := List.cons.inj heq
    rwa [h.eq_of_label mem mem' label]
  · exact offeredAmong_single mem

theorem offers_cons : n.Offers (l :: path) asked ↔ OfferedAmong n.children (l :: path) asked := by
  rw [offers_iff]
  simp

/-- Grammars without clashes that have the same ways are the same up to the order of siblings and what is said
of nodes. -/
theorem alike_of_offers : ∀ {a b : Node}, a.Unambiguous → b.Unambiguous → a.label = b.label →
    (∀ path asked, a.Offers path asked ↔ b.Offers path asked) → Alike a b
  | .mk label verb help children, .mk label' verb' help' children', ha, hb, hl, same => by
    obtain rfl : label = label' := hl
    obtain ⟨distinct, below⟩ := unambiguous_iff.1 ha
    obtain ⟨distinct', below'⟩ := unambiguous_iff.1 hb
    have verbs : verb = verb' := by
      refine Option.ext fun v => ?_
      have at_end := same [] (some v)
      rw [offers_nil, offers_nil] at at_end
      simpa [Node.verb] using at_end
    subst verbs
    have among (l : NodeLabel) (path : List NodeLabel) (asked : Option Verb) :
        OfferedAmong children (l :: path) asked ↔ OfferedAmong children' (l :: path) asked := by
      have there := same (l :: path) asked
      rwa [offers_cons, offers_cons] at there
    obtain ⟨between, each, reordered⟩ : ∃ between, List.Forall₂ Alike children between ∧ between.Perm children' := by
      refine exists_matching Node.token distinct.tokens distinct'.tokens (fun x hx => ?_) fun y hy => ?_
      · obtain ⟨y, hy, _, heq, -⟩ := (among x.label [] none).1 (offeredAmong_single hx x.offers_self)
        obtain ⟨label, -⟩ := List.cons.inj heq
        refine ⟨y, hy, congrArg NodeLabel.token label.symm, ?_⟩
        refine alike_of_offers (below x hx) (below' y hy) label fun path asked => ?_
        rw [← distinct.offers_iff hx, ← distinct'.offers_iff hy, ← label]
        exact among x.label path asked
      · obtain ⟨x, hx, _, heq, -⟩ := (among y.label [] none).2 (offeredAmong_single hy y.offers_self)
        obtain ⟨label, -⟩ := List.cons.inj heq
        exact ⟨x, hx, congrArg NodeLabel.token label.symm⟩
    exact .mk each reordered

end Node

end NetRack
