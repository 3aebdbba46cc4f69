import NetRack.Proofs.Resolver.Abbreviation

/-!
# The word at which a line goes wrong

A line that does not resolve names the first of its words that does not fit: the words before it lead through the
grammar, whatever comes after.  Of a word that selects nothing, or too much, the same is said however the line goes
on.  Only a line all words of which lead through the grammar is incomplete.
-/

namespace NetRack

/-- An error of a line that is resolved with an offset is about a word of the line. -/
structure ResolutionError.Names (e : ResolutionError) (line : String) (offset : Int) (word : Text.Word) : Prop where
  place : (Text.words line)[e.position]? = some word
  token : e.token = word.text
  column : e.column = word.column + offset

/-- What is wrong with a word that does not select exactly one of the nodes that may follow. -/
def Node.misleads? (n : Node) (word : String) : Option WordProblem :=
  match n.select word with
  | [] => some .unrecognized
  | [_] => none
  | _ :: _ :: _ => some .ambiguous

theorem Node.selects_of_not_misleads {n : Node} {word : String} (h : n.misleads? word = none) :
    ∃ child, n.select word = [child] := by
  unfold misleads? at h
  split at h
  · cases h
  · rename_i child selected
    exact ⟨child, selected⟩
  · cases h

/-! ## Words that are taken -/

/-- Walking a grammar over some words comes to a node with the last of them left. -/
inductive Arrives (device : Option Device) : Node → List Text.Word → Node → List Text.Word → Prop where
  | start (n : Node) (words : List Text.Word) : Arrives device n words n words
  | keyword {n child m : Node} {word : Text.Word} {rest left : List Text.Word} {token : String}
      {binds : Option String} (selected : n.select word.text = [child]) (label : child.label = .keyword token binds)
      (later : Arrives device child rest m left) : Arrives device n (word :: rest) m left
  | argument {n child m : Node} {word : Text.Word} {rest left : List Text.Word} {name : String} {kind : ArgKind}
      {low high : Option Int} {value : ArgValue} (selected : n.select word.text = [child])
      (label : child.label = .argument name kind low high) (short : kind ≠ .line)
      (accepted : Argument.read kind low high device (argumentText kind word rest) = .ok value)
      (later : Arrives device child (afterArgument kind word rest) m left) : Arrives device n (word :: rest) m left

/-- An argument takes one word, or two. -/
theorem length_argument (kind : ArgKind) (word : Text.Word) (rest : List Text.Word) :
    (afterArgument kind word rest).length + (if (numberAfter? kind word rest).isSome then 2 else 1) =
      rest.length + 1 := by
  unfold afterArgument
  cases rest with
  | nil => rfl
  | cons next more =>
    split
    · rw [List.tail_cons, List.length_cons]
    · rfl

variable {device : Option Device} {n m : Node} {words left : List Text.Word} {word : Text.Word}

/-- What comes after the next word plays no part in how it is come to. -/
theorem Arrives.cut (h : Arrives device n words m (word :: left)) : ∃ before, words = before ++ word :: left ∧
    ∀ tail : List Text.Word, (∀ other ∈ tail.head?, other = word) → Arrives device n (before ++ tail) m tail := by
  generalize heq : word :: left = all at h
  induction h with
  | start n words => exact ⟨[], heq.symm ▸ rfl, fun tail _ => .start n tail⟩
  | keyword selected label later ih =>
    obtain ⟨before, rfl, cut⟩ := ih heq
    exact ⟨_ :: before, by rw [← heq]; rfl, fun tail first => .keyword selected label (cut tail first)⟩
  | argument selected label short accepted later ih =>
    obtain ⟨before, rest, cut⟩ := ih heq
    rw [← heq] at rest
    obtain ⟨skipped, rfl, kept⟩ := argument_before rest
    refine ⟨_ :: skipped, by rw [← heq]; rfl, fun tail first => ?_⟩
    obtain ⟨text, after⟩ := kept tail fun other mem => by rw [first other mem]
    exact .argument selected label short (text ▸ accepted) (after ▸ cut tail first)

namespace LineContext

variable {c : LineContext} {w : Walk} {position : Nat} {e : ResolutionError}

theorem walk_misled {problem : WordProblem} (h : w.node.misleads? word.text = some problem) :
    c.walk w position (word :: left) = .ok (c.stop problem word position) := by
  unfold Node.misleads? at h
  unfold walk
  split at h
  · rename_i selected
    obtain rfl := Option.some.inj h
    simp only [selected]
  · cases h
  · rename_i selected
    obtain rfl := Option.some.inj h
    simp only [selected]

/-- A walk goes on from where it comes to. -/
theorem walk_of_arrives (w : Walk) (position : Nat) (h : Arrives c.device n words m left) (hw : w.node = n) :
    ∃ (w' : Walk) (position' : Nat), w'.node = m ∧ position' + left.length = position + words.length ∧
      c.walk w position words = c.walk w' position' left := by
  induction h generalizing w position with
  | start n words => exact ⟨w, position, hw, rfl, rfl⟩
  | keyword selected label later ih =>
    obtain ⟨w', position', node, count, same⟩ := ih (w.keyword _ _ _) (position + 1) rfl
    refine ⟨w', position', node, ?_, (walk_keyword (hw ▸ selected) label).trans same⟩
    rw [List.length_cons]
    omega
  | @argument n child m word rest left name kind low high value selected label short accepted later ih =>
    obtain ⟨w', position', node, count, same⟩ := ih (w.argument _ name (word.column + c.offset) value)
      (position + if (numberAfter? kind word rest).isSome then 2 else 1) rfl
    refine ⟨w', position', node, ?_, ?_⟩
    · have taken := length_argument kind word rest
      rw [List.length_cons]
      omega
    · rw [walk_argument (hw ▸ selected) label short, accepted]
      exact same

/-- A walk goes wrong at a word that it comes to, or all words lead to a node without a verb. -/
theorem walk_error (h : c.walk w position words = .ok (.error e)) :
    (∃ m word left position', Arrives c.device w.node words m (word :: left) ∧
      position' + left.length + 1 = position + words.length ∧ .error e = c.stop e.problem word position' ∧
      (m.misleads? word.text = some e.problem ∨ e.problem = .invalidArgument)) ∨
    ∃ steps last, Traces c.line c.device w.node words steps last ∧ last.verb = none ∧
      .error e = c.stop .incomplete c.last c.lastPosition := by
  have unfinished {w : Walk} (h : Except.ok (c.finish w) = (.ok (.error e) : Except Fault Resolution)) :
      w.node.verb = none ∧ .error e = c.stop .incomplete c.last c.lastPosition := by
    unfold finish Walk.finish at h
    split at h
    · cases h
    · exact ⟨‹_›, (Except.ok.inj h).symm⟩
  induction w, position, words using Walk.induction with
  | done w position =>
    unfold walk at h
    obtain ⟨verb, heq⟩ := unfinished h
    exact Or.inr ⟨[], w.node, .done _, verb, heq⟩
  | astray w position word rest hs =>
    cases misled : w.node.misleads? word.text with
    | some problem =>
      rw [walk_misled misled] at h
      cases h
      exact Or.inl ⟨w.node, word, rest, position, .start _ _, rfl, rfl, Or.inl misled⟩
    | none =>
      obtain ⟨child, hc⟩ := Node.selects_of_not_misleads misled
      exact absurd hc (hs child)
  | keyword w position word rest child token binds hs hl ih =>
    rw [walk_keyword hs hl] at h
    rcases ih h with ⟨m, at_word, left, position', arrives, count, heq, why⟩ | ⟨steps, last, traces, verb, heq⟩
    · refine Or.inl ⟨m, at_word, left, position', .keyword hs hl arrives, ?_, heq, why⟩
      rw [List.length_cons]
      omega
    · exact Or.inr ⟨_, last, .keyword hs hl traces, verb, heq⟩
  | line w position word rest child name low high hs hl =>
    rw [walk_line hs hl] at h
    obtain ⟨verb, heq⟩ := unfinished h
    exact Or.inr ⟨_, child, .line hs hl, verb, heq⟩
  | argument w position word rest child name kind low high hs hl hk ih =>
    rw [walk_argument hs hl hk] at h
    split at h
    · cases h
      exact Or.inl ⟨w.node, word, rest, position, .start _ _, rfl, rfl, Or.inr rfl⟩
    · cases h
    · rename_i value hread
      have taken := length_argument kind word rest
      rcases ih _ value h with ⟨m, at_word, left, position', arrives, count, heq, why⟩ |
          ⟨steps, last, traces, verb, heq⟩
      · refine Or.inl ⟨m, at_word, left, position', .argument hs hl hk hread arrives, ?_, heq, why⟩
        rw [List.length_cons]
        omega
      · exact Or.inr ⟨_, last, .argument hs hl hk hread traces, verb, heq⟩

end LineContext

/-! ## Lines -/

variable {line : String} {root : Node} {offset : Int} {e : ResolutionError} {before after : List Text.Word}

/-- A line the words of which lead to a node, with none of them left, resolves or is incomplete. -/
theorem resolve_of_arrives (h : Arrives device root (Text.words line) m []) :
    resolve line root device offset = .ok none ∨ (∃ r, resolve line root device offset = .ok (some (.ok r))) ∨
      ∃ e, resolve line root device offset = .ok (some (.error e)) ∧ e.problem = .incomplete := by
  by_cases none : Text.words line = []
  · refine Or.inl ?_
    unfold resolve
    rw [none]
    rfl
  · obtain ⟨c, ⟨-, rfl, -, -, -⟩, walked⟩ := resolve_eq_walk root device offset none
    obtain ⟨w, position, -, -, same⟩ := c.walk_of_arrives { node := root } 0 h rfl
    refine Or.inr ?_
    rw [walked, same]
    unfold LineContext.walk LineContext.finish Walk.finish
    split
    · exact Or.inl ⟨_, rfl⟩
    · exact Or.inr ⟨_, rfl, rfl⟩

/-- A line the words of which lead to one that misleads goes wrong there. -/
theorem resolve_of_misled (offset : Int) (h : Arrives device root (Text.words line) m (word :: after))
    (hwords : Text.words line = before ++ word :: after) {problem : WordProblem}
    (misled : m.misleads? word.text = some problem) :
    resolve line root device offset =
      .ok (some (.error ⟨problem, word.text, before.length, word.column + offset⟩)) := by
  have some_words : Text.words line ≠ [] := by simp [hwords]
  obtain ⟨c, ⟨-, rfl, rfl, -, -⟩, walked⟩ := resolve_eq_walk root device offset some_words
  obtain ⟨w, position, rfl, count, same⟩ := c.walk_of_arrives { node := root } 0 h rfl
  obtain rfl : position = before.length := by
    rw [hwords, List.length_append, List.length_cons] at count
    omega
  rw [walked, same, LineContext.walk_misled misled]
  rfl

/-- A line is some characters with the words before one, that word and what begins with a blank. -/
theorem words_take (h : Text.words line = before ++ word :: after) :
    Text.words (String.ofList (line.toList.take word.column)) = before ∧
      ∀ rest, Text.Breaks rest → ∃ after',
        Text.words (String.ofList (line.toList.take (word.column + word.text.length) ++ rest)) =
          before ++ word :: after' := by
  obtain ⟨a, b, hline, column, unbroken, -, leaves, -⟩ := Text.exists_around h
  rw [Nat.zero_add] at column
  unfold Text.words
  constructor
  · have nothing := leaves []
    rw [String.toList_ofList, hline, column, List.take_left]
    simpa [Text.wordsFrom, Text.finishWord] using nothing
  · intro rest breaks
    have upto : line.toList.take (word.column + word.text.length) = a ++ word.text.toList := by
      rw [hline, column, ← String.length_toList, ← List.append_assoc, ← List.length_append, List.take_left]
    refine ⟨Text.wordsFrom (a.length + word.text.length) [] rest, ?_⟩
    rw [String.toList_ofList, upto, List.append_assoc, leaves, Nat.zero_add, Text.wordsFrom_word unbroken breaks,
      String.ofList_toList, String.length_toList, ← column]

/-- A word at which a line goes wrong: the words before it lead to a node where it does not fit. -/
structure GoesWrongAt (root : Node) (device : Option Device) (line : String) (e : ResolutionError)
    (before : List Text.Word) (word : Text.Word) (after : List Text.Word) (m : Node) : Prop where
  words : Text.words line = before ++ word :: after
  position : e.position = before.length
  arrives : Arrives device root (Text.words line) m (word :: after)
  why : m.misleads? word.text = some e.problem ∨ e.problem = .invalidArgument

/-- A line that ends too early: all its words lead to a node without a verb. -/
structure EndsEarly (root : Node) (device : Option Device) (line : String) (e : ResolutionError) : Prop where
  problem : e.problem = .incomplete
  position : e.position + 1 = (Text.words line).length
  leads : ∃ steps last, Traces line.toList device root (Text.words line) steps last ∧ last.verb = none

/-- A line that does not resolve goes wrong at the word that it names, or ends too early and names the last. -/
theorem goes_wrong (h : resolve line root device offset = .ok (some (.error e))) : ∃ word, e.Names line offset word ∧
    ((∃ before after m, GoesWrongAt root device line e before word after m) ∨ EndsEarly root device line e) := by
  obtain ⟨c, ⟨hline, rfl, rfl, last, count_last⟩, hx⟩ := walk_of_resolve h
  rcases LineContext.walk_error hx with ⟨m, word, left, position, arrives, count, heq, why⟩ |
      ⟨steps, node, traces, verb, heq⟩
  · obtain ⟨before, hwords, -⟩ := arrives.cut
    obtain rfl : position = before.length := by
      rw [hwords, List.length_append, List.length_cons] at count
      omega
    have named := Except.error.inj heq
    have place := congrArg ResolutionError.position named
    refine ⟨word, ⟨?_, congrArg ResolutionError.token named, congrArg ResolutionError.column named⟩,
      Or.inl ⟨before, left, m, hwords, place, arrives, why⟩⟩
    rw [place, hwords]
    simp
  · obtain rfl := Except.error.inj heq
    exact ⟨c.last, ⟨last, rfl, rfl⟩, Or.inr ⟨rfl, count_last, steps, node, hline ▸ traces, verb⟩⟩

section GoesWrongAt

variable (h : GoesWrongAt root device line e before word after m)

include h

/-- A line that goes wrong at a word is not one that ends too early. -/
theorem GoesWrongAt.complete : e.problem ≠ .incomplete := by
  rcases h.why with misled | refused
  · intro incomplete
    rw [incomplete] at misled
    unfold Node.misleads? at misled
    split at misled <;> cases misled
  · rw [refused]
    nofun

/-- What stands before the word is blank, resolves or is incomplete. -/
theorem GoesWrongAt.ahead (offset : Int) :
    let ahead := resolve (String.ofList (line.toList.take word.column)) root device offset
    ahead = .ok none ∨ (∃ r, ahead = .ok (some (.ok r))) ∨
      ∃ e', ahead = .ok (some (.error e')) ∧ e'.problem = .incomplete := by
  obtain ⟨before', same, cut⟩ := h.arrives.cut
  obtain rfl : before = before' := List.append_cancel_right (h.words.symm.trans same)
  refine resolve_of_arrives (m := m) ?_
  rw [(words_take h.words).1]
  simpa using cut [] nofun

/-- However the line goes on after a word that misleads, it goes wrong there. -/
theorem GoesWrongAt.resumed (names : e.Names line offset word) (which : e.problem ≠ .invalidArgument)
    {rest : List Char} (breaks : Text.Breaks rest) :
    resolve (String.ofList (line.toList.take (word.column + word.text.length) ++ rest)) root device offset =
      .ok (some (.error e)) := by
  obtain ⟨before', same, cut⟩ := h.arrives.cut
  obtain rfl : before = before' := List.append_cancel_right (h.words.symm.trans same)
  obtain ⟨after', hwords'⟩ := (words_take h.words).2 rest breaks
  have again := resolve_of_misled offset (hwords' ▸ cut (word :: after') (by simp)) hwords'
    (h.why.resolve_right which)
  rw [again, ← h.position, ← names.token, ← names.column]

end GoesWrongAt

/-- A line that does not resolve names a word of it.  If the line is incomplete, that is the last word and all words
lead to a node without a verb.  If not, what stands before the word is blank, resolves or is incomplete, and unless
the word is an argument that is refused the line goes wrong there however it goes on. -/
theorem resolve_names_first_offending (h : resolve line root device offset = .ok (some (.error e))) :
    ∃ word, e.Names line offset word ∧
      (e.problem = .incomplete → e.position + 1 = (Text.words line).length ∧
        ∃ steps last, Traces line.toList device root (Text.words line) steps last ∧ last.verb = none) ∧
      (e.problem ≠ .incomplete →
        let ahead := resolve (String.ofList (line.toList.take word.column)) root device offset
        ahead = .ok none ∨ (∃ r, ahead = .ok (some (.ok r))) ∨
          ∃ e', ahead = .ok (some (.error e')) ∧ e'.problem = .incomplete) ∧
      (e.problem = .unrecognized ∨ e.problem = .ambiguous → ∀ rest, Text.Breaks rest →
        resolve (String.ofList (line.toList.take (word.column + word.text.length) ++ rest)) root device offset =
          .ok (some (.error e))) := by
  obtain ⟨word, names, ⟨before, after, m, wrong⟩ | early⟩ := goes_wrong h
  · refine ⟨word, names, fun incomplete => absurd incomplete wrong.complete, fun _ => wrong.ahead offset,
      fun which rest breaks => wrong.resumed names (fun refused => ?_) breaks⟩
    rw [refused] at which
    simp at which
  · refine ⟨word, names, fun _ => ⟨early.position, early.leads⟩, fun complete => absurd early.problem complete,
      fun which => ?_⟩
    rw [early.problem] at which
    simp at which

open Grammar in
/-- The name of an interface that is two words is one argument, and the word after it does not fit. -/
theorem resolve_names_word_after_interface : ∃ e,
    resolve "int gi 0/0 bogus" globalGrammar none 4 = .ok (some (.error e)) ∧
      e = ⟨.unrecognized, "bogus", 3, 15⟩ ∧ e.Names "int gi 0/0 bogus" 4 ⟨"bogus", 11⟩ ∧
      resolve "int gi 0/0 bogus again" globalGrammar none 4 = .ok (some (.error e)) := by
  have found : mistake? (resolve "int gi 0/0 bogus" globalGrammar none 4) =
      some ⟨.unrecognized, "bogus", 3, 15⟩ := by decide +kernel
  have third : (Text.words "int gi 0/0 bogus")[3]? = some ⟨"bogus", 11⟩ := by decide
  have more : String.ofList ("int gi 0/0 bogus".toList.take (11 + "bogus".length) ++ " again".toList) =
      "int gi 0/0 bogus again" := by decide
  generalize globalGrammar = root at *
  have resolves := mistake?_eq_some.1 found
  obtain ⟨word, names, -, -, again⟩ := resolve_names_first_offending resolves
  obtain rfl : ⟨"bogus", 11⟩ = word := Option.some.inj (third.symm.trans names.place)
  refine ⟨_, resolves, rfl, names, more ▸ again (Or.inl rfl) " again".toList ?_⟩
  exact Text.breaks_cons (by decide)

end NetRack
