import NetRack.Proofs.Resolver.Walk

/-!
# The steps of a walk

A line resolves exactly if its words lead through the grammar, step by step, to a node with a verb.  Each step
takes a keyword or an argument, and the arguments of the command and the words of its written form are read off
the steps.  Neither the columns of the line nor anything that is said of lines that go wrong plays a part.
-/

namespace NetRack

/-! ## Steps -/

/-- A step of a walk: the label that it comes to and the value that is taken there. -/
structure Step where
  label : NodeLabel
  value : ArgValue

/-- The name under which a label records its value. -/
def NodeLabel.name? : NodeLabel → Option String
  | keyword _ binds => Text.present? binds
  | argument name _ _ _ => some name

/-- Arguments with the value of a step. -/
def Arguments.record (args : Arguments) (s : Step) : Arguments :=
  match s.label.name? with
  | some name => args.insert name s.value
  | none => args

/-- The words of a line lead from a node to another by some steps. -/
inductive Traces (line : List Char) (device : Option Device) : Node → List Text.Word → List Step → Node → Prop where
  | done (n : Node) : Traces line device n [] [] n
  | keyword {n child last : Node} {word : Text.Word} {rest : List Text.Word} {token : String}
      {binds : Option String} {steps : List Step} (selected : n.select word.text = [child])
      (label : child.label = .keyword token binds) (later : Traces line device child rest steps last) :
      Traces line device n (word :: rest) (⟨.keyword token binds, .text token⟩ :: steps) last
  | line {n child : Node} {word : Text.Word} {rest : List Text.Word} {name : String} {low high : Option Int}
      (selected : n.select word.text = [child]) (label : child.label = .argument name .line low high) :
      Traces line device n (word :: rest)
        [⟨.argument name .line low high, .text (lineFrom line word.column)⟩] child
  | argument {n child last : Node} {word : Text.Word} {rest : List Text.Word} {name : String} {kind : ArgKind}
      {low high : Option Int} {value : ArgValue} {steps : List Step} (selected : n.select word.text = [child])
      (label : child.label = .argument name kind low high) (short : kind ≠ .line)
      (accepted : Argument.read kind low high device (argumentText kind word rest) = .ok value)
      (later : Traces line device child (afterArgument kind word rest) steps last) :
      Traces line device n (word :: rest) (⟨.argument name kind low high, value⟩ :: steps) last

section Traces

variable {line : List Char} {device : Option Device} {n child last : Node} {word : Text.Word}
  {rest : List Text.Word} {steps : List Step}

/-- Where a word selects a keyword, the first step is to it. -/
theorem Traces.after_keyword (h : Traces line device n (word :: rest) steps last)
    (selected : n.select word.text = [child]) {token : String} {binds : Option String}
    (label : child.label = .keyword token binds) : ∃ later,
      steps = ⟨.keyword token binds, .text token⟩ :: later ∧ Traces line device child rest later last := by
  cases h with
  | keyword selected' label' later =>
    obtain rfl := List.singleton_inj.1 (selected.symm.trans selected')
    cases label.symm.trans label'
    exact ⟨_, rfl, later⟩
  | line selected' label' =>
    obtain rfl := List.singleton_inj.1 (selected.symm.trans selected')
    cases label.symm.trans label'
  | argument selected' label' =>
    obtain rfl := List.singleton_inj.1 (selected.symm.trans selected')
    cases label.symm.trans label'

/-- Where a word selects an argument, the first step takes its value. -/
theorem Traces.after_argument (h : Traces line device n (word :: rest) steps last)
    (selected : n.select word.text = [child]) {name : String} {kind : ArgKind} {low high : Option Int}
    (label : child.label = .argument name kind low high) (short : kind ≠ .line) {value : ArgValue}
    (accepted : Argument.read kind low high device (argumentText kind word rest) = .ok value) : ∃ later,
      steps = ⟨.argument name kind low high, value⟩ :: later ∧
        Traces line device child (afterArgument kind word rest) later last := by
  cases h with
  | keyword selected' label' =>
    obtain rfl := List.singleton_inj.1 (selected.symm.trans selected')
    cases label.symm.trans label'
  | line selected' label' =>
    obtain rfl := List.singleton_inj.1 (selected.symm.trans selected')
    cases label.symm.trans label'
    exact absurd rfl short
  | argument selected' label' short' accepted' later =>
    obtain rfl := List.singleton_inj.1 (selected.symm.trans selected')
    cases label.symm.trans label'
    cases accepted.symm.trans accepted'
    exact ⟨_, rfl, later⟩

end Traces

/-! ## Commands that steps make -/

/-- A command is what some steps to a verb make of some arguments and the words before. -/
structure ResolvedCommand.Gathers (r : ResolvedCommand) (args : Arguments) (path : List String) (steps : List Step)
    (verb : Verb) : Prop where
  verb : r.verb = verb
  arguments : r.arguments = steps.foldl Arguments.record args
  path : r.path = path ++ steps.map (·.value.shown)

namespace LineContext

variable {c : LineContext} {w : Walk} {position : Nat} {words : List Text.Word} {r : ResolvedCommand} {child : Node}

theorem finish_eq_ok {verb : Verb} (hv : w.node.verb = some verb) :
    c.finish w = .ok ⟨verb, w.arguments, w.path, w.columns⟩ := by
  unfold finish Walk.finish
  rw [hv]

theorem verb_of_finish (h : c.finish w = .ok r) :
    ∃ verb, w.node.verb = some verb ∧ r = ⟨verb, w.arguments, w.path, w.columns⟩ := by
  unfold finish Walk.finish at h
  cases hv : w.node.verb with
  | none =>
    rw [hv] at h
    cases h
  | some verb =>
    rw [hv] at h
    exact ⟨verb, rfl, (Except.ok.inj h).symm⟩

section Gathers

variable {steps : List Step} {verb : Verb} {token name : String} {binds : Option String} {kind : ArgKind}
  {low high : Option Int} {column : Int} {value : ArgValue}

theorem gathers_keyword (h : r.Gathers (w.keyword child token binds).arguments (w.keyword child token binds).path
    steps verb) : r.Gathers w.arguments w.path (⟨.keyword token binds, .text token⟩ :: steps) verb := by
  refine ⟨h.verb, h.arguments, h.path.trans ?_⟩
  unfold Walk.keyword
  rw [List.append_assoc]
  rfl

theorem gathers_argument (h : r.Gathers (w.argument child name column value).arguments
    (w.argument child name column value).path steps verb) :
    r.Gathers w.arguments w.path (⟨.argument name kind low high, value⟩ :: steps) verb := by
  refine ⟨h.verb, h.arguments, h.path.trans ?_⟩
  unfold Walk.argument
  rw [List.append_assoc]
  rfl

end Gathers

/-- A walk that ends at a verb has taken steps that make its command. -/
theorem traces_of_walk (h : c.walk w position words = .ok (.ok r)) :
    ∃ steps last verb, Traces c.line c.device w.node words steps last ∧ last.verb = some verb ∧
      r.Gathers w.arguments w.path steps verb := by
  induction w, position, words using Walk.induction with
  | done w position =>
    unfold walk at h
    obtain ⟨verb, hv, rfl⟩ := verb_of_finish (Except.ok.inj h)
    exact ⟨[], w.node, verb, .done _, hv, rfl, rfl, (List.append_nil _).symm⟩
  | astray w position word rest hs =>
    obtain ⟨e, he⟩ : ∃ e, c.walk w position (word :: rest) = .ok (.error e) := walk_astray hs
    rw [he] at h
    cases h
  | keyword w position word rest child token binds hs hl ih =>
    rw [walk_keyword hs hl] at h
    obtain ⟨steps, last, verb, traces, hv, gathers⟩ := ih h
    exact ⟨_, last, verb, .keyword hs hl traces, hv, gathers_keyword gathers⟩
  | line w position word rest child name low high hs hl =>
    rw [walk_line hs hl] at h
    obtain ⟨verb, hv, rfl⟩ := verb_of_finish (Except.ok.inj h)
    exact ⟨_, child, verb, .line hs hl, hv, rfl, rfl, rfl⟩
  | argument w position word rest child name kind low high hs hl hk ih =>
    rw [walk_argument hs hl hk] at h
    split at h
    · cases h
    · cases h
    · rename_i value hread
      obtain ⟨steps, last, verb, traces, hv, gathers⟩ := ih _ value h
      exact ⟨_, last, verb, .argument hs hl hk hread traces, hv, gathers_argument gathers⟩

/-- Where words lead to a verb by some steps, a walk ends with the command that the steps make. -/
theorem walk_of_traces {n last : Node} {steps : List Step} (traces : Traces c.line c.device n words steps last)
    {verb : Verb} (hv : last.verb = some verb) (hw : w.node = n) :
    ∃ r, c.walk w position words = .ok (.ok r) ∧ r.Gathers w.arguments w.path steps verb := by
  induction traces generalizing w position with
  | done n =>
    unfold walk
    exact ⟨_, congrArg Except.ok (finish_eq_ok (hw ▸ hv)), rfl, rfl, (List.append_nil _).symm⟩
  | keyword selected label later ih =>
    rw [walk_keyword (hw ▸ selected) label]
    obtain ⟨r, hr, gathers⟩ := ih hv (w := w.keyword _ _ _) rfl
    exact ⟨r, hr, gathers_keyword gathers⟩
  | line selected label =>
    rw [walk_line (hw ▸ selected) label]
    exact ⟨_, congrArg Except.ok (finish_eq_ok hv), rfl, rfl, rfl⟩
  | argument selected label short accepted later ih =>
    rw [walk_argument (hw ▸ selected) label short, accepted]
    obtain ⟨r, hr, gathers⟩ := ih hv (w := w.argument _ _ _ _) rfl
    exact ⟨r, hr, gathers_argument gathers⟩

end LineContext

/-! ## Lines -/

/-- The words of a line lead through a grammar to a verb by some steps. -/
def Parses (root : Node) (device : Option Device) (line : String) (steps : List Step) (verb : Verb) : Prop :=
  Text.words line ≠ [] ∧
    ∃ last, Traces line.toList device root (Text.words line) steps last ∧ last.verb = some verb

variable {line : String} {root : Node} {device : Option Device} {offset : Int}

/-- A line that resolves leads to its verb by steps that make its command. -/
theorem parses_of_resolve {r : ResolvedCommand} (h : resolve line root device offset = .ok (some (.ok r))) :
    ∃ steps verb, Parses root device line steps verb ∧ r.Gathers ∅ [] steps verb := by
  obtain ⟨c, hc, hwalk⟩ := walk_of_resolve h
  obtain ⟨steps, node, verb, traces, hv, gathers⟩ := LineContext.traces_of_walk hwalk
  rw [hc.chars, hc.device] at traces
  refine ⟨steps, verb, ⟨fun none => ?_, node, traces, hv⟩, gathers⟩
  have count := hc.lastPosition
  rw [none] at count
  cases count

/-- A line that leads to a verb by some steps resolves to the command that the steps make. -/
theorem Parses.resolve {steps : List Step} {verb : Verb} (h : Parses root device line steps verb) (offset : Int) :
    ∃ r, resolve line root device offset = .ok (some (.ok r)) ∧ r.Gathers ∅ [] steps verb := by
  obtain ⟨some_word, node, traces, hv⟩ := h
  obtain ⟨c, hc, walked⟩ := resolve_eq_walk root device offset some_word
  rw [← hc.chars, ← hc.device] at traces
  have taken : ∃ r, c.walk { node := root } 0 (Text.words line) = .ok (.ok r) ∧ r.Gathers ∅ [] steps verb :=
    LineContext.walk_of_traces traces hv rfl
  obtain ⟨r, hr, gathers⟩ := taken
  exact ⟨r, by rw [walked, hr]; rfl, gathers⟩

end NetRack
