import NetRack.Console
import NetRack.Proofs.Resolver.Offending

/-!
# Lines that are the rest of another

A line that asks for another to be run is a keyword and the rest of the line, and no grammar has another way to
ask for it.  The words of the line are that keyword and the words of the rest, which stand as many columns further
on as the rest does.
-/

namespace NetRack

/-! ## Words of the rest of a line -/

namespace Text

variable {line : String} {before after : List Word} {word : Word}

/-- The words of a line from one of them on are those of the rest of the line, further on by where it begins. -/
theorem words_lineFrom (h : words line = before ++ word :: after) :
    words line = before ++ (words (lineFrom line.toList word.column)).map (Word.shift word.column) := by
  obtain ⟨a, b, hline, column, unbroken, -, leaves, -⟩ := exists_around h
  rw [Nat.zero_add] at column
  obtain ⟨blanks, more, hblanks, hmore, trimmed⟩ := exists_trimChars (word.text.toList ++ b)
  obtain rfl : blanks = [] := by
    obtain ⟨c, cs, hcs⟩ := List.exists_cons_of_ne_nil unbroken.1
    cases blanks with
    | nil => rfl
    | cons x blanks =>
      rw [hcs] at trimmed
      obtain rfl : c = x := (List.cons.inj trimmed).1
      have blank := hblanks c List.mem_cons_self
      rw [unbroken.2 c (by simp [hcs])] at blank
      cases blank
  have rest : (lineFrom line.toList word.column).toList = trimChars (word.text.toList ++ b) := by
    unfold lineFrom
    rw [hline, column, List.drop_left, String.toList_ofList]
  unfold words
  rw [rest, ← wordsFrom_shift (Nat.zero_le _), Nat.zero_add, column]
  conv_lhs => rw [hline, leaves, Nat.zero_add, trimmed, List.nil_append, wordsFrom_append_blanks hmore]

end Text

/-! ## Grammars with verbs of the rest of a line -/

namespace Node

/-- Whether a node is a keyword that is followed by the rest of the line alone, as an argument of a verb. -/
def takesRest (name : String) (v : Verb) (n : Node) : Bool :=
  match n.label, n.verb, n.children with
  | .keyword _ none, none, [leaf] => leaf.label = .argument name .line none none && leaf.verb = some v
  | _, _, _ => false

/-- Whether a verb can be reached in a grammar only by a keyword that is followed by the rest of the line. -/
def onlyOfRest (name : String) (v : Verb) (n : Node) : Bool :=
  n.verb ≠ some v && n.children.all fun child =>
    child.takesRest name v || (child.ends [child.label]).all fun e => e.1 ≠ v

end Node

/-- No grammar has a way to run a line but as the rest of one. -/
theorem root_onlyOfRest (m : Mode) (p : Grammar.Platform) :
    (Grammar.root m p).onlyOfRest "command" .runExec = true := by
  cases p with
  | host =>
    show Node.onlyOfRest "command" .runExec Grammar.hostGrammar = true
    decide
  | ios => cases m <;> decide

section Traces

variable {line : List Char} {device : Option Device} {n child last : Node} {word : Text.Word}
  {words rest : List Text.Word} {steps : List Step} {v : Verb}

/-- Words that lead to a verb lead to one of the grammar. -/
theorem Traces.mem_ends (h : Traces line device n words steps last) (hv : last.verb = some v)
    (trail : List NodeLabel) : ∃ e ∈ n.ends trail, e.1 = v := by
  have onward {n child : Node} {word : String} {trail : List NodeLabel} (selected : n.select word = [child])
      (later : ∃ e ∈ child.ends (child.label :: trail), e.1 = v) : ∃ e ∈ n.ends trail, e.1 = v := by
    obtain ⟨e, he, hv⟩ := later
    exact ⟨e, Node.mem_ends_of_child (Node.mem_children_of_select (selected ▸ List.mem_singleton_self child)) he, hv⟩
  induction h generalizing trail with
  | done n => exact ⟨_, Node.mem_ends_of_verb hv, rfl⟩
  | keyword selected label later ih => exact onward selected (ih hv _)
  | line selected label => exact onward selected ⟨_, Node.mem_ends_of_verb hv, rfl⟩
  | argument selected label short accepted later ih => exact onward selected (ih hv _)

/-- The first word selects a node from which the verb can be reached. -/
theorem Traces.first (h : Traces line device n (word :: rest) steps last) (hv : last.verb = some v) :
    ∃ child, n.select word.text = [child] ∧ ∃ e ∈ child.ends [child.label], e.1 = v := by
  cases h with
  | keyword selected label later => exact ⟨_, selected, later.mem_ends hv _⟩
  | line selected label => exact ⟨_, selected, _, Node.mem_ends_of_verb hv, rfl⟩
  | argument selected label short accepted later => exact ⟨_, selected, later.mem_ends hv _⟩

end Traces

namespace LineContext

variable {c : LineContext} {root : Node} {words : List Text.Word} {r : ResolvedCommand} {name : String}

/-- A walk to such a verb takes a keyword and the rest of the line. -/
theorem walk_takes_rest (only : root.onlyOfRest name r.verb = true)
    (h : c.walk { node := root } 0 words = .ok (.ok r)) : ∃ first second rest, words = first :: second :: rest ∧
      r.arguments = Table.insert ∅ name (.text (lineFrom c.line second.column)) ∧
      r.columns = Table.insert ∅ name (second.column + c.offset) := by
  obtain ⟨steps, last, verb, traces, hverb, gathers⟩ := traces_of_walk h
  obtain rfl := gathers.verb
  unfold Node.onlyOfRest at only
  simp only [Bool.and_eq_true, decide_eq_true_eq, List.all_eq_true, Bool.or_eq_true] at only
  obtain ⟨elsewhere, only⟩ := only
  cases words with
  | nil =>
    cases traces
    exact absurd hverb elsewhere
  | cons first words =>
    obtain ⟨child, selected, e, he, reached⟩ := traces.first hverb
    have mem := Node.mem_children_of_select (selected ▸ List.mem_singleton_self child)
    have takes : child.takesRest name r.verb = true := (only child mem).resolve_right fun never =>
      never e he reached
    unfold Node.takesRest at takes
    split at takes
    · rename_i token leaf label unfinished children
      obtain ⟨leaf_label, leaf_verb⟩ : leaf.label = .argument name .line none none ∧ leaf.verb = some r.verb := by
        simpa using takes
      have argument : leaf.isArgument = true := by
        unfold Node.isArgument
        rw [leaf_label]
        rfl
      rw [walk_keyword selected label] at h
      cases words with
      | nil =>
        unfold walk finish Walk.finish at h
        rw [show (Walk.keyword { node := root } child token none).node.verb = none from unfinished] at h
        cases h
      | cons second rest =>
        have leaf_selected : child.select second.text = [leaf] := by
          unfold Node.select Node.keywords Node.argument?
          simp [children, argument]
        rw [walk_line leaf_selected leaf_label] at h
        obtain ⟨verb, -, rfl⟩ := verb_of_finish (Except.ok.inj h)
        exact ⟨first, second, rest, rfl, rfl, rfl⟩
    · cases takes

end LineContext

namespace Console

variable {d : Device} {line payload : String} {mode : Mode} {offset column : Int}

/-- A line that asks for another to be run has a word before it, and the other is the rest of the line. -/
theorem request?_runExec (h : request? d line mode offset = .ok (some (.runExec payload column))) :
    ∃ first second rest, Text.words line = first :: second :: rest ∧
      payload = lineFrom line.toList second.column ∧ column = second.column + offset := by
  unfold request? at h
  obtain ⟨x, hx, h⟩ := bind_eq_ok.1 h
  have hx := liftM_eq_ok.1 hx
  split at h
  · cases h
  · cases h
  · rename_i r
    obtain ⟨q, hq, heq⟩ := bind_eq_ok.1 h
    cases heq
    have hq := liftM_eq_ok.1 hq
    unfold ResolvedCommand.request at hq
    split at hq
    · rename_i runs
      obtain ⟨c, hc, walked⟩ := walk_of_resolve hx
      obtain ⟨first, second, rest, hwords, arguments, columns⟩ :=
        LineContext.walk_takes_rest (runs ▸ root_onlyOfRest mode (platform d)) walked
      rw [hc.chars] at arguments
      rw [hc.offset] at columns
      obtain ⟨text, htext, heq⟩ := bind_eq_ok.1 hq
      cases heq
      unfold ResolvedCommand.text at htext
      rw [arguments, Table.get?_insert_self] at htext
      rw [columns, Table.get?_insert_self]
      exact ⟨first, second, rest, hwords, (Except.ok.inj htext).symm, rfl⟩
    · obtain ⟨command, -, heq⟩ := map_eq_ok.1 hq
      cases heq

end Console

end NetRack
