import NetRack.Proofs.Resolver.Abbreviation

/-!
# Courses through a grammar

A course is a way through a grammar to a verb: the labels on it, each with the keywords that compete for the word
that comes to it.  The words of a line lead to a verb exactly if they follow a course to it, so all that a
grammar says about a verb is in the list of its courses.
-/

namespace NetRack

/-- A label on the way through a grammar, with the keywords among it and its siblings. -/
structure Turn where
  rivals : List String
  label : NodeLabel
deriving DecidableEq

namespace Node

/-- The keywords that may follow the node. -/
def rivals (n : Node) : List String := n.keywords.map token

mutual

/-- The verbs in a grammar, each with the way to it. -/
def courses : Node → List (Verb × List Turn)
  | mk label verb help children =>
    verb.toList.map (fun v => (v, [])) ++ coursesOfAll (mk label verb help children).rivals children

/-- The verbs in some siblings, each with the way to it. -/
def coursesOfAll (rivals : List String) : List Node → List (Verb × List Turn)
  | [] => []
  | n :: rest => (courses n).map (fun c => (c.1, ⟨rivals, n.label⟩ :: c.2)) ++ coursesOfAll rivals rest

end

theorem mem_coursesOfAll {rivals : List String} {ns : List Node} {v : Verb} {turns : List Turn} :
    (v, turns) ∈ coursesOfAll rivals ns ↔
      ∃ n ∈ ns, ∃ later, turns = ⟨rivals, n.label⟩ :: later ∧ (v, later) ∈ n.courses := by
  induction ns with
  | nil => simp [coursesOfAll]
  | cons m ms ih =>
    unfold coursesOfAll
    rw [List.mem_append, ih, List.mem_map]
    constructor
    · rintro (⟨⟨v', later⟩, hc, heq⟩ | ⟨n, hn, hlater⟩)
      · obtain ⟨rfl, rfl⟩ := Prod.mk.inj heq
        exact ⟨m, by simp, later, rfl, hc⟩
      · exact ⟨n, by simp [hn], hlater⟩
    · rintro ⟨n, hn, later, rfl, hc⟩
      rcases List.mem_cons.1 hn with rfl | hn
      · exact Or.inl ⟨_, hc, rfl⟩
      · exact Or.inr ⟨n, hn, later, rfl, hc⟩

/-- A course ends at the node, or it goes on to a child. -/
theorem mem_courses {n : Node} {v : Verb} {turns : List Turn} : (v, turns) ∈ n.courses ↔
    n.verb = some v ∧ turns = [] ∨
      ∃ child ∈ n.children, ∃ later, turns = ⟨n.rivals, child.label⟩ :: later ∧ (v, later) ∈ child.courses := by
  cases n with
  | mk label verb help children =>
    conv_lhs => unfold courses
    rw [List.mem_append, mem_coursesOfAll, List.mem_map]
    refine or_congr ⟨?_, ?_⟩ Iff.rfl
    · rintro ⟨v', hv, heq⟩
      obtain ⟨rfl, rfl⟩ := Prod.mk.inj heq
      exact ⟨Option.mem_toList.1 hv, rfl⟩
    · rintro ⟨hv, rfl⟩
      exact ⟨v, Option.mem_toList.2 hv, rfl⟩

theorem mem_courses_cons {n : Node} {v : Verb} {turn : Turn} {turns : List Turn}
    (h : (v, turn :: turns) ∈ n.courses) :
    ∃ child ∈ n.children, turn = ⟨n.rivals, child.label⟩ ∧ (v, turns) ∈ child.courses := by
  rcases mem_courses.1 h with ⟨-, heq⟩ | ⟨child, hchild, later, heq, hc⟩
  · cases heq
  · obtain ⟨rfl, rfl⟩ := List.cons.inj heq
    exact ⟨child, hchild, rfl, hc⟩

theorem verb_of_mem_courses {n : Node} {v : Verb} (h : (v, []) ∈ n.courses) : n.verb = some v := by
  rcases mem_courses.1 h with ⟨hv, -⟩ | ⟨_, _, _, heq, -⟩
  · exact hv
  · cases heq

end Node

/-! ## Words that follow a course -/

/-- A word stands for one of some keywords: it is the keyword in full, or it abbreviates that keyword only. -/
structure Chooses (rivals : List String) (w token : String) : Prop where
  mem : token ∈ rivals
  fits : Text.lower w = token ∨ (Text.lower w).toList <+: token.toList ∧
    ∀ k ∈ rivals, (Text.lower w).toList <+: k.toList → k = token

/-- A word abbreviates none of some keywords. -/
def Passes (rivals : List String) (w : String) : Prop := ∀ k ∈ rivals, ¬(Text.lower w).toList <+: k.toList

/-- The words of a line follow a course by some steps. -/
inductive Follows (line : List Char) (device : Option Device) : List Turn → List Text.Word → List Step → Prop where
  | done : Follows line device [] [] []
  | keyword {rivals : List String} {token : String} {binds : Option String} {turns : List Turn} {word : Text.Word}
      {rest : List Text.Word} {steps : List Step} (chosen : Chooses rivals word.text token)
      (later : Follows line device turns rest steps) :
      Follows line device (⟨rivals, .keyword token binds⟩ :: turns) (word :: rest)
        (⟨.keyword token binds, .text token⟩ :: steps)
  | line {rivals : List String} {name : String} {low high : Option Int} {word : Text.Word}
      {rest : List Text.Word} (passed : Passes rivals word.text) :
      Follows line device [⟨rivals, .argument name .line low high⟩] (word :: rest)
        [⟨.argument name .line low high, .text (lineFrom line word.column)⟩]
  | argument {rivals : List String} {name : String} {kind : ArgKind} {low high : Option Int} {value : ArgValue}
      {turns : List Turn} {word : Text.Word} {rest : List Text.Word} {steps : List Step}
      (passed : Passes rivals word.text) (short : kind ≠ .line)
      (accepted : Argument.read kind low high device (argumentText kind word rest) = .ok value)
      (later : Follows line device turns (afterArgument kind word rest) steps) :
      Follows line device (⟨rivals, .argument name kind low high⟩ :: turns) (word :: rest)
        (⟨.argument name kind low high, value⟩ :: steps)

namespace Node

variable {n child : Node} {w : String}

theorem mem_rivals (hc : child ∈ n.keywords) : child.token ∈ n.rivals := List.mem_map_of_mem hc

/-! ## What a word selects -/

theorem chooses_of_select (h : n.select w = [child]) (keyword : child.isArgument = false) :
    Chooses n.rivals w child.token := by
  have among : child ∈ n.keywords :=
    List.mem_filter.2 ⟨mem_children_of_select (h ▸ List.mem_singleton_self child), by simp [keyword]⟩
  refine ⟨mem_rivals among, ?_⟩
  rcases select_keyword h keyword with exact | ⟨-, only⟩
  · exact Or.inl (token_of_exact exact).symm
  · refine Or.inr ⟨prefix_of_only only, fun k hk abbreviates => ?_⟩
    obtain ⟨c, hc, rfl⟩ := List.mem_map.1 hk
    have found : c ∈ n.keywords.filter fun c => (Text.lower w).toList.isPrefixOf c.token.toList :=
      List.mem_filter.2 ⟨hc, List.isPrefixOf_iff_prefix.2 abbreviates⟩
    rw [only] at found
    rw [List.mem_singleton.1 found]

theorem passes_of_select (h : n.select w = [child]) (argument : child.isArgument = true) :
    Passes n.rivals w := by
  have no_keyword {p : Node → Bool} (hc : child ∈ n.keywords.filter p) : False := by
    have := (List.mem_filter.1 (List.mem_filter.1 hc).1).2
    rw [argument] at this
    cases this
  unfold select at h
  dsimp only at h
  split at h
  · rename_i exact
    exact (no_keyword (exact.trans h ▸ List.mem_singleton_self child)).elim
  · split at h
    · rename_i none
      intro k hk abbreviates
      obtain ⟨c, hc, rfl⟩ := List.mem_map.1 hk
      exact List.filter_eq_nil_iff.1 none c hc (List.isPrefixOf_iff_prefix.2 abbreviates)
    · exact (no_keyword (mem_sortBy.1 (h ▸ List.mem_singleton_self child))).elim

/-- The keywords of a node differ, and at most one of its children is an argument. -/
def isApart (n : Node) : Bool := n.rivals.Nodup && (n.children.filter (·.isArgument)).length ≤ 1

theorem filter_token (apart : n.rivals.Nodup) (hc : child ∈ n.keywords) :
    n.keywords.filter (·.token = child.token) = [child] := by
  unfold rivals at apart
  generalize n.keywords = ks at apart hc
  induction ks with
  | nil => cases hc
  | cons k ks ih =>
    rw [List.map_cons, List.nodup_cons] at apart
    rcases List.mem_cons.1 hc with rfl | hc
    · rw [List.filter_cons_of_pos (by simp), List.filter_eq_nil_iff.2 fun c hc => ?_]
      rw [decide_eq_true_eq]
      exact fun same => apart.1 (same ▸ List.mem_map_of_mem hc)
    · rw [List.filter_cons_of_neg, ih apart.2 hc]
      rw [decide_eq_true_eq]
      exact fun same => apart.1 (same ▸ List.mem_map_of_mem hc)

theorem select_of_chooses (apart : n.isApart = true) (hc : child ∈ n.keywords) (h : Chooses n.rivals w child.token) :
    n.select w = [child] := by
  have only := filter_token (of_decide_eq_true (Bool.and_eq_true_iff.1 apart).1) hc
  by_cases full : Text.lower w = child.token
  · exact select_of_exact (full ▸ only)
  · obtain ⟨abbreviates, alone⟩ := h.fits.resolve_left full
    refine select_of_abbreviates (List.filter_eq_nil_iff.2 fun c hc => ?_) ?_
    · rw [decide_eq_true_eq]
      exact fun exact => full (exact.symm.trans (alone _ (mem_rivals hc) (exact ▸ List.prefix_rfl)))
    · rw [← only]
      refine List.filter_congr fun c hc => Bool.eq_iff_iff.2 ?_
      rw [List.isPrefixOf_iff_prefix, decide_eq_true_eq]
      exact ⟨alone _ (mem_rivals hc), fun same => same ▸ abbreviates⟩

theorem select_of_passes (apart : n.isApart = true) (hc : child ∈ n.children) (argument : child.isArgument = true)
    (h : Passes n.rivals w) : n.select w = [child] := by
  have no_prefix : n.keywords.filter (fun c => (Text.lower w).toList.isPrefixOf c.token.toList) = [] :=
    List.filter_eq_nil_iff.2 fun c hc => fun abbreviates =>
      h _ (mem_rivals hc) (List.isPrefixOf_iff_prefix.1 abbreviates)
  have no_exact : n.keywords.filter (·.token = Text.lower w) = [] :=
    List.filter_eq_nil_iff.2 fun c hc => by
      rw [decide_eq_true_eq]
      exact fun exact => h _ (mem_rivals hc) (exact ▸ List.prefix_rfl)
  have only : n.argument? = some child := by
    have single := of_decide_eq_true (Bool.and_eq_true_iff.1 apart).2
    have found : child ∈ n.children.filter (·.isArgument) := List.mem_filter.2 ⟨hc, argument⟩
    unfold argument?
    rw [← List.head?_filter]
    cases hs : n.children.filter (·.isArgument) with
    | nil =>
      rw [hs] at found
      cases found
    | cons c more =>
      rw [hs] at found single
      have : more = [] := List.length_eq_zero_iff.1 (by simpa using single)
      rw [this] at found
      rw [List.mem_singleton.1 found, List.head?_cons]
  unfold select
  dsimp only
  rw [no_exact, no_prefix, only]
  rfl

end Node

/-! ## Courses and walks -/

section Walks

variable {line : List Char} {device : Option Device} {n last child : Node} {words : List Text.Word}
  {steps : List Step} {verb : Verb} {turns : List Turn}

/-- Words that lead to a verb follow a course to it. -/
theorem Traces.follows (h : Traces line device n words steps last) (hv : last.verb = some verb) :
    ∃ turns, (verb, turns) ∈ n.courses ∧ Follows line device turns words steps := by
  have onward {m child : Node} {w : String} {turns : List Turn} {label : NodeLabel}
      (selected : m.select w = [child]) (hl : child.label = label) (hc : (verb, turns) ∈ child.courses) :
      (verb, ⟨m.rivals, label⟩ :: turns) ∈ m.courses :=
    Node.mem_courses.2 (Or.inr ⟨child, Node.mem_children_of_select (selected ▸ List.mem_singleton_self child),
      turns, by rw [hl], hc⟩)
  induction h with
  | done n => exact ⟨[], Node.mem_courses.2 (Or.inl ⟨hv, rfl⟩), .done⟩
  | keyword selected label later ih =>
    obtain ⟨turns, hc, follows⟩ := ih hv
    have chosen := Node.chooses_of_select selected (by unfold Node.isArgument; rw [label]; rfl)
    unfold Node.token at chosen
    rw [label] at chosen
    exact ⟨_, onward selected label hc, .keyword chosen follows⟩
  | line selected label =>
    exact ⟨_, onward selected label (Node.mem_courses.2 (Or.inl ⟨hv, rfl⟩)),
      .line (Node.passes_of_select selected (by unfold Node.isArgument; rw [label]; rfl))⟩
  | argument selected label short accepted later ih =>
    obtain ⟨turns, hc, follows⟩ := ih hv
    exact ⟨_, onward selected label hc,
      .argument (Node.passes_of_select selected (by unfold Node.isArgument; rw [label]; rfl)) short accepted follows⟩

/-- Words that follow a course lead to its verb. -/
theorem Follows.traces (follows : Follows line device turns words steps) (apart : n.all Node.isApart = true)
    (hc : (verb, turns) ∈ n.courses) :
    ∃ last, Traces line device n words steps last ∧ last.verb = some verb := by
  induction follows generalizing n with
  | done => exact ⟨n, .done n, Node.verb_of_mem_courses hc⟩
  | keyword chosen later ih =>
    obtain ⟨child, hchild, heq, course⟩ := Node.mem_courses_cons hc
    obtain ⟨rfl, label⟩ := Turn.mk.inj heq
    obtain ⟨last, traces, hv⟩ := ih (Node.all_child apart hchild) course
    refine ⟨last, .keyword (Node.select_of_chooses (Node.all_self apart) ?_ ?_) label.symm traces, hv⟩
    · exact List.mem_filter.2 ⟨hchild, by unfold Node.isArgument; rw [← label]; rfl⟩
    · unfold Node.token
      rwa [← label]
  | line passed =>
    obtain ⟨child, hchild, heq, course⟩ := Node.mem_courses_cons hc
    obtain ⟨rfl, label⟩ := Turn.mk.inj heq
    refine ⟨child, .line (Node.select_of_passes (Node.all_self apart) hchild ?_ passed) label.symm,
      Node.verb_of_mem_courses course⟩
    unfold Node.isArgument
    rw [← label]
    rfl
  | argument passed short accepted later ih =>
    obtain ⟨child, hchild, heq, course⟩ := Node.mem_courses_cons hc
    obtain ⟨rfl, label⟩ := Turn.mk.inj heq
    obtain ⟨last, traces, hv⟩ := ih (Node.all_child apart hchild) course
    refine ⟨last, .argument (Node.select_of_passes (Node.all_self apart) hchild ?_ passed) label.symm short accepted
      traces, hv⟩
    unfold Node.isArgument
    rw [← label]
    rfl

end Walks

/-! ## Lines -/

/-- A line leads to a verb by some steps exactly if its words follow a course to it by them. -/
theorem parses_iff_follows {root : Node} (apart : root.all Node.isApart = true) {device : Option Device} {line : String}
    {steps : List Step} {verb : Verb} : Parses root device line steps verb ↔ Text.words line ≠ [] ∧
      ∃ turns, (verb, turns) ∈ root.courses ∧ Follows line.toList device turns (Text.words line) steps := by
  refine and_congr_right fun _ => ⟨?_, ?_⟩
  · rintro ⟨last, traces, hv⟩
    exact traces.follows hv
  · rintro ⟨turns, hc, follows⟩
    exact follows.traces apart hc

end NetRack
