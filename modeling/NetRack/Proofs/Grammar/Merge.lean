import NetRack.Proofs.Grammar.Ways
import NetRack.Proofs.Result

/-!
# Grammars that are merged

Siblings merge exactly if all the ways down from them can belong to one grammar.  What they merge to has these
ways and no others, and nothing in it clashes.  Since the ways of siblings do not depend on their order, neither
does it whether they merge, nor what they merge to but for the order of siblings and what is said of nodes.
-/

namespace NetRack.Node

variable {a b m n : Node} {ss cs r ns : List Node} {path : List NodeLabel} {asked : Option Verb}

/-! ## Parts of a merge -/

theorem checkArguments_eq_ok : checkArguments ns = .ok r ↔ (ns.filter (·.isArgument)).length ≤ 1 ∧ ns = r := by
  unfold checkArguments
  dsimp only
  rw [List.length_map]
  split
  · rename_i several
    simp [Nat.not_le.2 several]
  · rename_i few
    simp [Nat.not_lt.1 few]

/-- The verb of two nodes is that of either. -/
theorem mergeVerbs_eq_ok {token : String} {x y z : Option Verb} (h : mergeVerbs token x y = .ok z) (v : Verb) :
    z = some v ↔ x = some v ∨ y = some v := by
  unfold mergeVerbs at h
  split at h
  · split at h
    · rename_i same
      cases h
      simp [same]
    · cases h
  · cases h
    simp
  · cases h
    simp

/-- Verbs that do not contradict each other merge. -/
theorem exists_mergeVerbs {token : String} {x y : Option Verb} (h : ∀ v w, x = some v → y = some w → v = w) :
    ∃ z, mergeVerbs token x y = .ok z := by
  unfold mergeVerbs
  split
  · rename_i v w
    exact ⟨_, if_pos (h v w rfl rfl)⟩
  · exact ⟨_, rfl⟩
  · exact ⟨_, rfl⟩

/-- Two nodes merge exactly if they have one label, their verbs merge and their children do. -/
theorem merge_eq_ok {label : NodeLabel} {verb : Option Verb} {help : String} {children : List Node} :
    merge a (.mk label verb help children) = .ok m ↔ a.label = label ∧
      ∃ v, mergeVerbs a.token a.verb verb = .ok v ∧ ∃ r, addAll a.children children = .ok r ∧
        (r.filter (·.isArgument)).length ≤ 1 ∧ .mk a.label v (if a.help.isEmpty then help else a.help) r = m := by
  unfold merge
  dsimp only
  by_cases same : a.label = label
  · rw [if_neg (not_not.2 same)]
    simp only [bind_eq_ok, checkArguments_eq_ok, pure_eq_ok, Except.ok.injEq, same, true_and]
    constructor
    · rintro ⟨v, hv, r, hr, _, ⟨few, rfl⟩, rfl⟩
      exact ⟨v, hv, r, hr, few, rfl⟩
    · rintro ⟨v, hv, r, hr, few, rfl⟩
      exact ⟨v, hv, r, hr, r, ⟨few, rfl⟩, rfl⟩
  · rw [if_pos same, error_bind]
    simp [same]

/-- Some siblings with another node in the place of those that have a token. -/
def replaced (ss : List Node) (token : String) (m : Node) : List Node :=
  ss.map fun s => if s.token = token then m else s

section Replaced

variable {s c : Node}

theorem mem_replaced {x : Node} {token : String} :
    x ∈ replaced ss token m ↔ x = m ∧ (∃ s ∈ ss, s.token = token) ∨ x ∈ ss ∧ x.token ≠ token := by
  unfold replaced
  rw [List.mem_map]
  constructor
  · rintro ⟨s, hs, rfl⟩
    split
    · exact Or.inl ⟨rfl, s, hs, ‹_›⟩
    · exact Or.inr ⟨hs, ‹_›⟩
  · rintro (⟨rfl, s, hs, same⟩ | ⟨hx, other⟩)
    · exact ⟨s, hs, if_pos same⟩
    · exact ⟨x, hx, if_neg other⟩

theorem tokens_replaced (h : m.token = s.token) : (replaced ss s.token m).map token = ss.map token := by
  unfold replaced
  rw [List.map_map]
  refine List.map_congr_left fun x _ => ?_
  dsimp only [Function.comp]
  split
  · rw [h, ‹x.token = s.token›]
  · rfl

end Replaced

/-- What comes of merging two nodes. -/
structure Joins (a b m : Node) : Prop where
  same : a.label = b.label
  label : m.label = a.label
  unambiguous : m.Unambiguous
  offers : ∀ path asked, m.Offers path asked ↔ a.Offers path asked ∨ b.Offers path asked

/-- What comes of adding nodes to siblings. -/
structure Adds (ss cs r : List Node) : Prop where
  tokens : (r.map token).Nodup
  unambiguous : ∀ n ∈ r, n.Unambiguous
  offered : ∀ path asked, OfferedAmong r path asked ↔ OfferedAmong ss path asked ∨ OfferedAmong cs path asked

/-- Siblings of different tokens, none of which is ambiguous. -/
structure Apart (ss : List Node) : Prop where
  tokens : (ss.map token).Nodup
  unambiguous : ∀ s ∈ ss, s.Unambiguous

theorem Unambiguous.apart (h : n.Unambiguous) : Apart n.children :=
  ⟨(unambiguous_iff.1 h).1.tokens, (unambiguous_iff.1 h).2⟩

theorem apart_nil : Apart [] := ⟨List.nodup_nil, nofun⟩

section Step

variable {s c : Node} (h : Apart ss)

include h

theorem Apart.concat (hc : c.Unambiguous) (new : ∀ s ∈ ss, s.token ≠ c.token) : Apart (ss ++ [c]) where
  tokens := by
    rw [List.map_append, List.map_singleton, List.nodup_append]
    refine ⟨h.tokens, List.nodup_singleton _, fun t ht u hu heq => ?_⟩
    obtain ⟨s, hs, rfl⟩ := List.mem_map.1 ht
    exact new s hs (heq.trans (List.mem_singleton.1 hu))
  unambiguous n hn := by
    rcases List.mem_append.1 hn with hn | hn
    · exact h.unambiguous n hn
    · rw [List.mem_singleton.1 hn]
      exact hc

theorem Apart.replaced (joins : Joins s c m) : Apart (replaced ss s.token m) where
  tokens := by
    rw [tokens_replaced (congrArg NodeLabel.token joins.label)]
    exact h.tokens
  unambiguous n hn := by
    rcases mem_replaced.1 hn with ⟨rfl, -⟩ | ⟨hn, -⟩
    · exact joins.unambiguous
    · exact h.unambiguous n hn

/-- With two nodes joined in the place of one, siblings have the ways of the other as well. -/
theorem Apart.offeredAmong_replaced (hs : s ∈ ss) (joins : Joins s c m) :
    OfferedAmong (Node.replaced ss s.token m) path asked ↔
      OfferedAmong ss path asked ∨ OfferedAmong [c] path asked := by
  have labels : c.label = m.label := (joins.label.trans joins.same).symm
  constructor
  · rintro ⟨x, hx, later, rfl, offered⟩
    rcases mem_replaced.1 hx with ⟨rfl, -⟩ | ⟨hx, -⟩
    · rcases (joins.offers later asked).1 offered with offered | offered
      · exact Or.inl ⟨s, hs, later, by rw [joins.label], offered⟩
      · exact Or.inr ⟨c, List.mem_singleton_self c, later, by rw [labels], offered⟩
    · exact Or.inl ⟨x, hx, later, rfl, offered⟩
  · have at_m {later : List NodeLabel} (offered : m.Offers later asked) :
        OfferedAmong (Node.replaced ss s.token m) (m.label :: later) asked :=
      ⟨m, mem_replaced.2 (Or.inl ⟨rfl, s, hs, rfl⟩), later, rfl, offered⟩
    rintro (⟨x, hx, later, rfl, offered⟩ | ⟨x, hx, later, rfl, offered⟩)
    · by_cases same : x.token = s.token
      · obtain rfl := List.inj_on_of_nodup_map h.tokens hx hs same
        rw [← joins.label]
        exact at_m ((joins.offers later asked).2 (Or.inl offered))
      · exact ⟨x, mem_replaced.2 (Or.inr ⟨hx, same⟩), later, rfl, offered⟩
    · obtain rfl := List.mem_singleton.1 hx
      rw [labels]
      exact at_m ((joins.offers later asked).2 (Or.inr offered))

end Step

/-! ## What a merge has -/

mutual

/-- Two nodes merge to one that has the ways of both. -/
theorem merge_joins {a m : Node} (ha : a.Unambiguous) : ∀ {b : Node}, b.Unambiguous → merge a b = .ok m →
    Joins a b m
  | .mk label verb help children, hb, h => by
    obtain ⟨same, joined, hverb, r, added, few, rfl⟩ := merge_eq_ok.1 h
    have adds : Adds a.children children r := addAll_adds ha.apart hb.apart.unambiguous added
    refine ⟨same, rfl, unambiguous_iff.2 ⟨⟨adds.tokens, few⟩, adds.unambiguous⟩, fun path asked => ?_⟩
    have verbs : (∀ v ∈ asked, joined = some v) ↔ (∀ v ∈ asked, a.verb = some v) ∨ ∀ v ∈ asked, verb = some v := by
      cases asked with
      | none => simp
      | some v => simpa using mergeVerbs_eq_ok hverb v
    rw [offers_iff, offers_iff (n := a), offers_iff (n := .mk label verb help children)]
    show path = [] ∧ (∀ v ∈ asked, joined = some v) ∨ OfferedAmong r path asked ↔
      (path = [] ∧ (∀ v ∈ asked, a.verb = some v) ∨ OfferedAmong a.children path asked) ∨
        (path = [] ∧ (∀ v ∈ asked, verb = some v) ∨ OfferedAmong children path asked)
    rw [verbs, adds.offered, and_or_left, or_or_or_comm]

/-- Nodes are added to siblings with all ways down from them. -/
theorem addAll_adds {r : List Node} : ∀ {ss cs : List Node}, Apart ss → (∀ c ∈ cs, c.Unambiguous) →
    addAll ss cs = .ok r → Adds ss cs r
  | ss, [], hs, _, h => by
    unfold addAll at h
    obtain rfl := Except.ok.inj h
    exact ⟨hs.tokens, hs.unambiguous, fun path asked => by simp [OfferedAmong]⟩
  | ss, c :: cs, hs, hc, h => by
    obtain ⟨first, later⟩ := List.forall_mem_cons.1 hc
    unfold addAll at h
    split at h
    · rename_i new
      have new : ∀ s ∈ ss, s.token ≠ c.token := by simpa using new
      have adds := addAll_adds (hs.concat first new) later h
      refine ⟨adds.tokens, adds.unambiguous, fun path asked => ?_⟩
      rw [adds.offered, offeredAmong_append, offeredAmong_cons c cs, or_assoc]
    · rename_i s found
      have token : s.token = c.token := by simpa using List.find?_some found
      have mem := List.mem_of_find?_eq_some found
      obtain ⟨m, merged, h⟩ := bind_eq_ok.1 h
      have joins := merge_joins (hs.unambiguous s mem) first merged
      rw [← token] at h
      have adds := addAll_adds (hs.replaced joins) later h
      refine ⟨adds.tokens, adds.unambiguous, fun path asked => ?_⟩
      rw [adds.offered, hs.offeredAmong_replaced mem joins, offeredAmong_cons c cs, or_assoc]

end

/-! ## Nodes that merge -/

theorem length_le_one : ∀ {xs : List Node}, xs.Nodup → (∀ x ∈ xs, ∀ y ∈ xs, x = y) → xs.length ≤ 1
  | [], _, _ => Nat.zero_le 1
  | [_], _, _ => Nat.le_refl 1
  | x :: y :: _, nodup, one => absurd (one x (by simp) y (by simp)) fun same => by simp [same] at nodup

/-- Siblings that have the ways of one grammar have at most one argument. -/
theorem Adds.few (h : Adds ss cs r)
    (consistent : Consistent fun path asked => OfferedAmong ss path asked ∨ OfferedAmong cs path asked) :
    (r.filter (·.isArgument)).length ≤ 1 := by
  have one : ∀ x ∈ r.filter (·.isArgument), ∀ y ∈ r.filter (·.isArgument), x = y := by
    intro x hx y hy
    obtain ⟨mem, argument⟩ := List.mem_filter.1 hx
    obtain ⟨mem', argument'⟩ := List.mem_filter.1 hy
    have offered {n : Node} (hn : n ∈ r) : OfferedAmong ss [n.label] none ∨ OfferedAmong cs [n.label] none :=
      (h.offered _ _).1 (offeredAmong_single hn n.offers_self)
    have same := consistent.label [] x.label y.label (offered mem) (offered mem') (Or.inr ⟨argument, argument'⟩)
    exact List.inj_on_of_nodup_map h.tokens mem mem' (congrArg NodeLabel.token same)
  exact length_le_one ((List.Nodup.of_map token h.tokens).filter _) one

mutual

/-- Two nodes of one label merge if their ways can belong to one grammar. -/
theorem exists_merge {a : Node} (ha : a.Unambiguous) : ∀ {b : Node}, b.Unambiguous → a.label = b.label →
    (Consistent fun path asked => a.Offers path asked ∨ b.Offers path asked) → ∃ m, merge a b = .ok m
  | .mk label verb help children, hb, same, h => by
    obtain ⟨v, hv⟩ : ∃ v, mergeVerbs a.token a.verb verb = .ok v := by
      refine exists_mergeVerbs fun v w hx hy => h.verb [] v w (Or.inl ?_) (Or.inr ?_)
      · simpa [offers_nil] using hx
      · simpa [offers_nil, Node.verb] using hy
    have below : Consistent fun path asked => OfferedAmong a.children path asked ∨ OfferedAmong children path asked :=
      h.mono fun path asked => Or.imp (fun ha => offers_iff.2 (Or.inr ha)) fun hb => offers_iff.2 (Or.inr hb)
    obtain ⟨r, added⟩ := exists_addAll ha.apart hb.apart.unambiguous below
    have few := (addAll_adds ha.apart hb.apart.unambiguous added).few below
    exact ⟨_, merge_eq_ok.2 ⟨same, v, hv, r, added, few, rfl⟩⟩

/-- Nodes can be added to siblings if the ways of all can belong to one grammar. -/
theorem exists_addAll : ∀ {ss cs : List Node}, Apart ss → (∀ c ∈ cs, c.Unambiguous) →
    (Consistent fun path asked => OfferedAmong ss path asked ∨ OfferedAmong cs path asked) →
    ∃ r, addAll ss cs = .ok r
  | ss, [], _, _, _ => ⟨ss, by unfold addAll; rfl⟩
  | ss, c :: cs, hs, hc, h => by
    obtain ⟨first, later⟩ := List.forall_mem_cons.1 hc
    unfold addAll
    split
    · rename_i new
      have new : ∀ s ∈ ss, s.token ≠ c.token := by simpa using new
      refine exists_addAll (hs.concat first new) later (h.mono fun path asked => ?_)
      rw [offeredAmong_append, offeredAmong_cons c cs, or_assoc]
      exact id
    · rename_i s found
      have token : s.token = c.token := by simpa using List.find?_some found
      have mem := List.mem_of_find?_eq_some found
      have here : c ∈ c :: cs := List.mem_cons_self
      have same : s.label = c.label := h.label [] _ _ (Or.inl (offeredAmong_single mem s.offers_self))
        (Or.inr (offeredAmong_single here c.offers_self)) (Or.inl token)
      obtain ⟨m, merged⟩ := exists_merge (hs.unambiguous s mem) first same <|
        (h.below s.label).mono fun path asked => Or.imp (offeredAmong_single mem) fun offered =>
          same ▸ offeredAmong_single here offered
      have joins := merge_joins (hs.unambiguous s mem) first merged
      rw [merged, ok_bind, ← token]
      show ∃ r, addAll (replaced ss s.token m) cs = .ok r
      refine exists_addAll (hs.replaced joins) later (h.mono fun path asked => ?_)
      rw [hs.offeredAmong_replaced mem joins, offeredAmong_cons c cs, or_assoc]
      exact id

end

/-! ## Siblings that merge -/

theorem mergeAll_eq_ok : mergeAll ns = .ok r ↔ addAll [] ns = .ok r ∧ (r.filter (·.isArgument)).length ≤ 1 := by
  unfold mergeAll
  simp only [bind_eq_ok, checkArguments_eq_ok]
  constructor
  · rintro ⟨_, added, few, rfl⟩
    exact ⟨added, few⟩
  · rintro ⟨added, few⟩
    exact ⟨r, added, few, rfl⟩

section Siblings

variable (h : ∀ n ∈ ns, n.Unambiguous)

include h

/-- What siblings merge to has the ways down from them, and nothing in it clashes. -/
theorem offeredAmong_mergeAll (merged : mergeAll ns = .ok r) :
    (word "" r).Unambiguous ∧ ∀ path asked, OfferedAmong r path asked ↔ OfferedAmong ns path asked := by
  obtain ⟨added, few⟩ := mergeAll_eq_ok.1 merged
  have adds := addAll_adds apart_nil h added
  refine ⟨unambiguous_iff.2 ⟨⟨adds.tokens, few⟩, adds.unambiguous⟩, fun path asked => ?_⟩
  rw [adds.offered]
  simp [OfferedAmong]

/-- Siblings merge exactly if the ways down from them can belong to one grammar. -/
theorem exists_mergeAll_iff : (∃ r, mergeAll ns = .ok r) ↔ Consistent (OfferedAmong ns) := by
  constructor
  · rintro ⟨r, merged⟩
    obtain ⟨clear, same⟩ := offeredAmong_mergeAll h merged
    refine clear.consistent.mono fun path asked offered => ?_
    exact offers_iff.2 (Or.inr ((same path asked).2 offered))
  · intro consistent
    have added : Consistent fun path asked => OfferedAmong [] path asked ∨ OfferedAmong ns path asked :=
      consistent.mono fun path asked => by simp [OfferedAmong]
    obtain ⟨r, hr⟩ := exists_addAll apart_nil h added
    exact ⟨r, mergeAll_eq_ok.2 ⟨hr, (addAll_adds apart_nil h hr).few added⟩⟩

/-- In another order siblings merge as well, to the same but for the order of siblings and what is said of
nodes. -/
theorem mergeAll_perm (merged : mergeAll ns = .ok r) {others : List Node} (reordered : ns.Perm others) :
    ∃ r', mergeAll others = .ok r' ∧ Alike (word "" r) (word "" r') := by
  have h' : ∀ n ∈ others, n.Unambiguous := fun n hn => h n (reordered.mem_iff.2 hn)
  have same : OfferedAmong ns = OfferedAmong others := by
    funext path asked
    exact propext (offeredAmong_perm reordered)
  obtain ⟨r', merged'⟩ : ∃ r', mergeAll others = .ok r' := by
    rw [exists_mergeAll_iff h', ← same]
    exact (exists_mergeAll_iff h).1 ⟨r, merged⟩
  obtain ⟨clear, offered⟩ := offeredAmong_mergeAll h merged
  obtain ⟨clear', offered'⟩ := offeredAmong_mergeAll h' merged'
  refine ⟨r', merged', alike_of_offers clear clear' rfl fun path asked => ?_⟩
  rw [offers_iff, offers_iff (n := word "" r')]
  exact or_congr Iff.rfl ((offered path asked).trans (same ▸ (offered' path asked).symm))

end Siblings

/-! ## Grammars that are built -/

mutual

/-- In a grammar that is built nothing clashes. -/
theorem build_unambiguous : ∀ {sketch n : Node}, sketch.build = .ok n → n.Unambiguous
  | .mk label verb help children, n, h => by
    unfold build at h
    obtain ⟨built, hbuilt, h⟩ := bind_eq_ok.1 h
    obtain ⟨merged, hmerged, h⟩ := bind_eq_ok.1 h
    obtain rfl := Except.ok.inj h
    obtain ⟨distinct, below⟩ := unambiguous_iff.1 (offeredAmong_mergeAll (buildAll_unambiguous hbuilt) hmerged).1
    exact unambiguous_iff.2 ⟨distinct, below⟩

theorem buildAll_unambiguous : ∀ {sketches nodes : List Node}, buildAll sketches = .ok nodes →
    ∀ n ∈ nodes, n.Unambiguous
  | [], nodes, h => by
    unfold buildAll at h
    obtain rfl := Except.ok.inj h
    exact nofun
  | sketch :: sketches, nodes, h => by
    unfold buildAll at h
    obtain ⟨first, hfirst, h⟩ := bind_eq_ok.1 h
    obtain ⟨later, hlater, h⟩ := bind_eq_ok.1 h
    obtain rfl := Except.ok.inj h
    exact List.forall_mem_cons.2 ⟨build_unambiguous hfirst, buildAll_unambiguous hlater⟩

end

/-- Whether grammars merge as siblings does not depend on their order.  What they merge to has the ways down from
them, each with its verbs, and no others; nothing in it clashes; and in another order they merge to the same but
for the order of siblings and what is said of nodes. -/
theorem mergeAll_in_any_order (built : ∀ n ∈ ns, ∃ sketch : Node, sketch.build = .ok n) :
    (∀ others, ns.Perm others → ((∃ r, mergeAll others = .ok r) ↔ ∃ r, mergeAll ns = .ok r)) ∧
      ∀ merged, mergeAll ns = .ok merged →
        (∀ path asked, OfferedAmong merged path asked ↔ ∃ n ∈ ns, OfferedAmong [n] path asked) ∧
        Distinct merged ∧ (∀ n ∈ merged, n.Unambiguous) ∧
        ∀ others, ns.Perm others →
          ∃ merged', mergeAll others = .ok merged' ∧ Alike (word "" merged) (word "" merged') := by
  have clear : ∀ n ∈ ns, n.Unambiguous := fun n hn => build_unambiguous (built n hn).choose_spec
  refine ⟨fun others reordered => ⟨?_, ?_⟩, fun merged hmerged => ?_⟩
  · rintro ⟨r, hr⟩
    obtain ⟨r', hr', -⟩ := mergeAll_perm (fun n hn => clear n (reordered.mem_iff.2 hn)) hr reordered.symm
    exact ⟨r', hr'⟩
  · rintro ⟨r, hr⟩
    obtain ⟨r', hr', -⟩ := mergeAll_perm clear hr reordered
    exact ⟨r', hr'⟩
  · obtain ⟨unambiguous, offered⟩ := offeredAmong_mergeAll clear hmerged
    obtain ⟨distinct, below⟩ := unambiguous_iff.1 unambiguous
    refine ⟨fun path asked => ?_, distinct, below, fun others => mergeAll_perm clear hmerged⟩
    rw [offered]
    simp [OfferedAmong]

/-- Two sketches of one command, with what each adds to it. -/
theorem mergeAll_show_in_any_order :
    ∃ merged, mergeAll [word "show" [(word "vlan").does .showVlanBrief], word "show" [word "ip"]] = .ok merged ∧
      OfferedAmong merged [.keyword "show" none, .keyword "vlan" none] (some .showVlanBrief) ∧ Distinct merged := by
  refine ⟨_, rfl, ?_⟩
  have built : ∀ n ∈ [word "show" [(word "vlan").does .showVlanBrief], word "show" [word "ip"]],
      ∃ sketch : Node, sketch.build = .ok n := by
    simp only [List.forall_mem_cons]
    exact ⟨⟨word "show" [(word "vlan").does .showVlanBrief], rfl⟩, ⟨word "show" [word "ip"], rfl⟩, nofun⟩
  obtain ⟨ways, distinct, -⟩ := (mergeAll_in_any_order built).2 _ rfl
  refine ⟨(ways _ _).2 ⟨_, List.mem_cons_self, ?_⟩, distinct⟩
  refine ⟨_, List.mem_singleton_self _, _, rfl, (word "vlan").does .showVlanBrief, ?_, by simp [does, Node.verb, word]⟩
  exact descends_cons.2 ⟨_, List.mem_cons_self, rfl, .stay _⟩

end NetRack.Node
