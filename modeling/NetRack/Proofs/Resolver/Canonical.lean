import NetRack.Proofs.Edit
import NetRack.Proofs.Resolver.Course
import NetRack.Proofs.Resolver.WrittenForm

/-!
# Canonical lines

The words of the written form of a command, with single spaces between them, are a line that resolves to the
command again.  Keywords are written in full and values in their written form, which no keyword in their place
begins with.
-/

namespace NetRack

open Text

/-! ## Words with single spaces between them -/

/-- Texts with single spaces between them. -/
def spaced (texts : List (List Char)) : List Char := [' '].intercalate texts

theorem toList_intercalate (texts : List String) : (" ".intercalate texts).toList = spaced (texts.map String.toList) :=
  String.toList_intercalate ..

theorem spaced_cons (w : List Char) {texts : List (List Char)} (h : texts ≠ []) :
    spaced (w :: texts) = w ++ ' ' :: spaced texts := by
  obtain ⟨v, more, rfl⟩ := List.exists_cons_of_ne_nil h
  simp [spaced, List.intercalate]

theorem spaced_singleton (w : List Char) : spaced [w] = w := by simp [spaced, List.intercalate]

theorem wordsFrom_spaced {w : List Char} (hw : Unbroken w) (n : Nat) (texts : List (List Char)) :
    wordsFrom n [] (spaced (w :: texts)) =
      ⟨String.ofList w, n⟩ :: wordsFrom (n + w.length + 1) [] (spaced texts) := by
  by_cases h : texts = []
  · subst h
    have single := wordsFrom_word (n := n) hw breaks_nil
    rw [List.append_nil] at single
    rw [spaced_singleton, single]
    rfl
  · rw [spaced_cons w h, wordsFrom_word hw (breaks_cons (by decide))]
    conv_lhs =>
      arg 2
      unfold wordsFrom
    rw [if_pos (by decide)]
    rfl

/-! ## Words in their place -/

/-- A keyword of which only its own spelling is left, or an argument the written values of which no keyword in
its place begins with. -/
def Turn.isClear (t : Turn) : Bool :=
  match t.label with
  | .keyword token _ => Unbroken token.toList && lower token = token
  | .argument _ kind _ _ => kind = .word || kind = .line || t.rivals.all fun k => !k.toList.any isMark

theorem passes_of_mark {rivals : List String} (clear : (rivals.all fun k => !k.toList.any isMark) = true)
    {s : String} (marked : ∃ c ∈ s.toList, isMark c = true) : Passes rivals s := by
  intro k hk abbreviates
  obtain ⟨c, hc, mark⟩ := marked
  have kept : c ∈ k.toList := by
    refine abbreviates.subset ?_
    rw [lower_toList]
    exact mem_lowerAfter (isLower_of_isMark mark) hc
  have := List.all_eq_true.1 clear k hk
  rw [Bool.not_eq_true', List.any_eq_false] at this
  exact this c kept mark

theorem isTypeWord_of_isMarked {s : String} (marked : IsMarked s) : isTypeWord s = false := by
  obtain ⟨c, hc, mark⟩ := marked.mark
  unfold isTypeWord
  dsimp only
  rw [Bool.and_eq_false_iff]
  exact Or.inr (List.all_eq_false.2 ⟨c, hc, by simp [not_isTypeChar_of_isMark mark]⟩)

/-- What no number can follow is an argument of its own. -/
theorem argument_alone {kind : ArgKind} {word : Word} (alone : kind ≠ .interface ∨ isTypeWord word.text = false)
    (rest : List Word) : argumentText kind word rest = word.text ∧ afterArgument kind word rest = rest := by
  have none : numberAfter? kind word rest = none := by
    rw [numberAfter?_eq]
    cases rest with
    | nil => rfl
    | cons next rest =>
      have no_number : canBeNumber kind word next = false := by
        unfold canBeNumber
        rcases alone with kind | type
        · simp [kind]
        · simp [type]
      simp [Option.filter_some, no_number]
  unfold argumentText afterArgument
  rw [none]
  exact ⟨by simp, rfl⟩

/-! ## What is written of a course -/

variable {line line' : List Char} {device : Option Device} {turns : List Turn} {words : List Word} {steps : List Step}

/-- The written form of some steps. -/
def written (steps : List Step) : List (List Char) := steps.map (·.value.shown.toList)

variable {s : Step} {n : Nat}

theorem wordsFrom_written (hs : Unbroken s.value.shown.toList) : wordsFrom n [] (spaced (written (s :: steps))) =
    ⟨s.value.shown, n⟩ :: wordsFrom (n + s.value.shown.toList.length + 1) [] (spaced (written steps)) := by
  have first := wordsFrom_spaced hs n (written steps)
  rwa [String.ofList_toList] at first

theorem drop_of_written (rest : line.drop n = spaced (written (s :: steps))) (h : steps ≠ []) :
    line.drop (n + s.value.shown.toList.length + 1) = spaced (written steps) := by
  rw [show written (s :: steps) = s.value.shown.toList :: written steps from rfl,
    spaced_cons _ (by simpa [written] using h)] at rest
  rw [Nat.add_assoc, ← List.drop_drop, rest, ← List.drop_drop, List.drop_left]
  rfl

theorem trimChars_trimChars (cs : List Char) : trimChars (trimChars cs) = trimChars cs := by
  have twice := trim_trim (String.ofList cs)
  unfold trim at twice
  simpa using congrArg String.toList twice

theorem trimChars_word {w b : List Char} (hw : Unbroken w) (hb : Breaks b) :
    ∃ b', trimChars (w ++ b) = w ++ b' ∧ Breaks b' := by
  refine ⟨trimEndChars b, trimChars_append hw, fun c hc => ?_⟩
  obtain ⟨rest, heq⟩ := List.rdropWhile_prefix isBlank b
  have heq : trimEndChars b ++ rest = b := heq
  cases ht : trimEndChars b with
  | nil =>
    rw [ht] at hc
    cases hc
  | cons x xs =>
    rw [ht] at hc heq
    exact hb c (by rw [← heq]; exact hc)

/-- The rest of a line from one of its words on begins with that word. -/
theorem lineFrom_word {before after : List Word} {word : Word} (h : wordsFrom 0 [] line = before ++ word :: after) :
    Unbroken word.text.toList ∧
      ∃ b, (lineFrom line word.column).toList = word.text.toList ++ b ∧ Breaks b := by
  obtain ⟨a, b, hline, column, unbroken, breaks, -, -⟩ := exists_around h
  refine ⟨unbroken, ?_⟩
  unfold lineFrom
  rw [hline, column, Nat.zero_add, List.drop_left, String.toList_ofList]
  exact trimChars_word unbroken breaks

/-- What is written of the steps of a line follows the same course by the same steps. -/
theorem Follows.written (h : Follows line device turns words steps) (clear : ∀ t ∈ turns, t.isClear = true)
    (no_list : ∀ s ∈ steps, ∀ ids, s.value ≠ .vlans ids) (within : words <:+ wordsFrom 0 [] line)
    (rest : steps ≠ [] → line'.drop n = spaced (written steps)) :
    Follows line' device turns (wordsFrom n [] (spaced (written steps))) steps := by
  induction h generalizing n with
  | done => exact .done
  | @keyword rivals token binds turns word more steps chosen later ih =>
    obtain ⟨unbroken, lower⟩ := Bool.and_eq_true_iff.1 (clear _ List.mem_cons_self)
    have later := ih (fun t ht => clear t (by simp [ht])) (fun s hs => no_list s (by simp [hs]))
      ((List.suffix_cons word more).trans within) (drop_of_written (rest (List.cons_ne_nil _ _)))
    have unbroken : Unbroken token.toList := of_decide_eq_true unbroken
    rw [wordsFrom_written (s := ⟨.keyword token binds, .text token⟩) unbroken]
    exact .keyword ⟨chosen.mem, Or.inl (of_decide_eq_true lower)⟩ later
  | @line rivals name low high word more passed =>
    obtain ⟨before, hwords⟩ := within
    obtain ⟨unbroken, b, text, breaks⟩ := lineFrom_word hwords.symm
    have shown : NetRack.written [⟨.argument name .line low high, .text (lineFrom line word.column)⟩] =
        [(lineFrom line word.column).toList] := rfl
    have rest := rest (List.cons_ne_nil _ _)
    rw [shown, spaced_singleton] at rest ⊢
    have same : lineFrom line' n = lineFrom line word.column := by
      conv_lhs => unfold lineFrom
      rw [rest]
      unfold lineFrom
      rw [String.toList_ofList, trimChars_trimChars]
    have step : Follows line' device [⟨rivals, .argument name .line low high⟩]
        (⟨word.text, n⟩ :: wordsFrom (n + word.text.toList.length) [] b)
        [⟨.argument name .line low high, .text (lineFrom line' n)⟩] := .line passed
    rw [text, wordsFrom_word unbroken breaks, String.ofList_toList]
    rwa [same] at step
  | @argument rivals name kind low high value turns word more steps passed short accepted later ih =>
    have clear_here := clear _ List.mem_cons_self
    have after : afterArgument kind word more <:+ word :: more := by
      unfold afterArgument
      split
      · exact (List.tail_suffix more).trans (List.suffix_cons word more)
      · exact List.suffix_cons word more
    have later := ih (fun t ht => clear t (by simp [ht])) (fun s hs => no_list s (by simp [hs]))
      (after.trans within) (drop_of_written (rest (List.cons_ne_nil _ _)))
    have step (unbroken : Unbroken value.shown.toList) (passed : Passes rivals value.shown)
        (alone : kind ≠ .interface ∨ isTypeWord value.shown = false)
        (accepted : Argument.read kind low high device value.shown = .ok value) :
        Follows line' device (⟨rivals, .argument name kind low high⟩ :: turns)
          (wordsFrom n [] (spaced (NetRack.written (⟨.argument name kind low high, value⟩ :: steps))))
          (⟨.argument name kind low high, value⟩ :: steps) := by
      rw [wordsFrom_written unbroken]
      obtain ⟨text, after⟩ := @argument_alone kind ⟨value.shown, n⟩ alone
        (wordsFrom (n + value.shown.toList.length + 1) [] (spaced (NetRack.written steps)))
      exact .argument passed short (text.symm ▸ accepted) (after.symm ▸ later)
    by_cases word_kind : kind = .word
    · subst word_kind
      obtain ⟨before, hwords⟩ := within
      obtain ⟨unbroken, -⟩ := lineFrom_word hwords.symm
      obtain rfl : .text word.text = value := by
        rw [(argument_alone (Or.inl (by decide)) more).1] at accepted
        exact Except.ok.inj accepted
      exact step unbroken passed (Or.inl (by decide)) rfl
    · have no_vlans : kind ≠ .vlanList := by
        rintro rfl
        obtain ⟨set, -, rfl⟩ := map_eq_ok.1 accepted
        exact no_list _ List.mem_cons_self set.ids rfl
      obtain ⟨read_back, marked⟩ := Argument.read_shown accepted word_kind short no_vlans
      refine step marked.unbroken (passes_of_mark ?_ marked.mark) (Or.inr (isTypeWord_of_isMarked marked)) read_back
      unfold Turn.isClear at clear_here
      simpa [word_kind, short] using clear_here

/-! ## Lists of VLANs -/

theorem Follows.labels (h : Follows line device turns words steps) : steps.map Step.label = turns.map Turn.label := by
  induction h with
  | done => rfl
  | keyword chosen later ih => exact congrArg (_ :: ·) ih
  | line passed => rfl
  | argument passed short accepted later ih => exact congrArg (_ :: ·) ih

/-- Whether a label takes a list of VLANs. -/
def NodeLabel.takesList : NodeLabel → Bool
  | keyword _ _ => false
  | argument _ kind _ _ => kind = .vlanList

/-- A list of VLANs is the value of an argument that takes one. -/
theorem Follows.takesList (h : Follows line device turns words steps) {ids : List Int} (hs : s ∈ steps)
    (list : s.value = .vlans ids) : s.label.takesList = true := by
  induction h with
  | done => cases hs
  | keyword chosen later ih =>
    rcases List.mem_cons.1 hs with rfl | hs
    · cases list
    · exact ih hs
  | line passed =>
    rw [List.mem_singleton.1 hs] at list
    cases list
  | @argument rivals name kind low high value turns word rest steps passed short accepted later ih =>
    rcases List.mem_cons.1 hs with rfl | hs
    · obtain rfl : value = .vlans ids := list
      obtain ⟨rfl, -⟩ := Argument.read_eq_vlans accepted
      rfl
    · exact ih hs

/-- A list of VLANs that is taken last is among the arguments. -/
theorem exists_list {ids : List Int} (hs : s ∈ steps) (list : s.value = .vlans ids)
    (named : s.label.takesList = true) (last : ∀ s ∈ steps.dropLast, s.label.takesList = false) (args : Arguments) :
    ∃ name, (steps.foldl Arguments.record args).get? name = some (.vlans ids) := by
  obtain ⟨before, x, rfl⟩ := (List.eq_nil_or_concat' steps).resolve_left (List.ne_nil_of_mem hs)
  rw [List.dropLast_concat] at last
  obtain rfl : s = x := by
    rcases List.mem_append.1 hs with hs | hs
    · rw [last s hs] at named
      cases named
    · exact List.mem_singleton.1 hs
  cases hl : s.label with
  | keyword token binds =>
    rw [hl] at named
    cases named
  | argument name kind low high =>
    refine ⟨name, ?_⟩
    rw [List.foldl_append, List.foldl_cons, List.foldl_nil]
    unfold Arguments.record
    rw [hl]
    exact (Table.get?_insert ..).trans (by rw [if_pos rfl, list])

/-! ## Grammars -/

namespace Node

/-- What may follow the node is read as it was written, and nothing follows a list of VLANs. -/
def isClear (n : Node) : Bool :=
  n.children.all fun c => (Turn.mk n.rivals c.label).isClear && (!c.label.takesList || c.children.isEmpty)

/-- A grammar in which written forms are read as they were written. -/
def isCanonical (root : Node) : Bool := root.all isApart && root.all isClear

theorem courses_clear {n : Node} (clear : n.all isClear = true) {v : Verb} {turns : List Turn}
    (hc : (v, turns) ∈ n.courses) :
    (∀ t ∈ turns, t.isClear = true) ∧ ∀ t ∈ turns.dropLast, t.label.takesList = false := by
  induction turns generalizing n with
  | nil => exact ⟨by simp, by simp⟩
  | cons t turns ih =>
    obtain ⟨child, hchild, rfl, course⟩ := mem_courses_cons hc
    obtain ⟨here, last⟩ := Bool.and_eq_true_iff.1 (List.all_eq_true.1 (all_self clear) child hchild)
    obtain ⟨later, between⟩ := ih (all_child clear hchild) course
    refine ⟨List.forall_mem_cons.2 ⟨here, later⟩, ?_⟩
    cases turns with
    | nil => simp
    | cons next turns =>
      refine List.forall_mem_cons.2 ⟨?_, between⟩
      obtain ⟨grandchild, hgrandchild, -, -⟩ := mem_courses_cons course
      rcases Bool.or_eq_true_iff.1 last with no_list | childless
      · simpa using no_list
      · rw [List.isEmpty_iff.1 childless] at hgrandchild
        cases hgrandchild

end Node

open Grammar in
theorem root_isCanonical (mode : Mode) (platform : Platform) : (root mode platform).isCanonical = true := by
  cases platform with
  | host =>
    show hostGrammar.isCanonical = true
    decide +kernel
  | ios => cases mode <;> decide +kernel

/-! ## Lines -/

/-- In a canonical grammar what is written of the steps of a line, none of which takes a list of VLANs, leads the
same way. -/
theorem Parses.written {root : Node} (canonical : root.isCanonical = true) {line : String} {verb : Verb}
    (h : Parses root device line steps verb) (no_list : ∀ s ∈ steps, ∀ ids, s.value ≠ .vlans ids) :
    Parses root device (" ".intercalate (steps.map (·.value.shown))) steps verb := by
  obtain ⟨apart, clear⟩ := Bool.and_eq_true_iff.1 canonical
  obtain ⟨some_word, turns, hc, follows⟩ := (parses_iff_follows apart).1 h
  have chars : (" ".intercalate (steps.map (·.value.shown))).toList = spaced (NetRack.written steps) := by
    rw [toList_intercalate, List.map_map]
    rfl
  have again : Follows (spaced (NetRack.written steps)) device turns
      (wordsFrom 0 [] (spaced (NetRack.written steps))) steps :=
    follows.written (Node.courses_clear clear hc).1 no_list List.suffix_rfl fun _ => rfl
  refine (parses_iff_follows apart).2 ⟨fun none => ?_, turns, hc, ?_⟩
  · unfold Text.words at none
    rw [chars] at none
    rw [none] at again
    cases again
    cases hw : Text.words line with
    | nil => exact some_word hw
    | cons word rest =>
      rw [hw] at follows
      cases follows
  · unfold Text.words
    rw [chars]
    exact again

open Grammar in
/-- The words of the written form of a command, with single spaces between them, resolve to the command again,
in every grammar and for every device, unless the command lists VLANs. -/
theorem resolve_path (mode : Mode) (platform : Platform) {line : String} {offset : Int} {r : ResolvedCommand}
    (resolves : resolve line (root mode platform) device offset = .ok (some (.ok r)))
    (no_list : ∀ name ids, r.arguments.get? name ≠ some (.vlans ids)) :
    ∃ r', resolve (" ".intercalate r.path) (root mode platform) device offset = .ok (some (.ok r')) ∧
      r'.verb = r.verb ∧ r'.arguments = r.arguments ∧ r'.path = r.path := by
  have canonical := root_isCanonical mode platform
  obtain ⟨apart, clear⟩ := Bool.and_eq_true_iff.1 canonical
  obtain ⟨steps, verb, parses, gathers⟩ := parses_of_resolve resolves
  obtain ⟨-, turns, hc, follows⟩ := (parses_iff_follows apart).1 parses
  have last : ∀ s ∈ steps.dropLast, s.label.takesList = false := fun s hs => by
    have labels := follows.labels
    have hlabel : s.label ∈ (turns.map Turn.label).dropLast := by
      rw [← labels, ← List.map_dropLast]
      exact List.mem_map_of_mem hs
    rw [← List.map_dropLast] at hlabel
    obtain ⟨t, ht, heq⟩ := List.mem_map.1 hlabel
    rw [← heq]
    exact (Node.courses_clear clear hc).2 t ht
  have no_list : ∀ s ∈ steps, ∀ ids, s.value ≠ .vlans ids := fun s hs ids list => by
    obtain ⟨name, found⟩ := exists_list hs list (follows.takesList hs list) last ∅
    rw [← gathers.arguments] at found
    exact no_list name ids found
  have path : r.path = steps.map (·.value.shown) := gathers.path
  rw [path]
  obtain ⟨r', hr', gathers'⟩ := (parses.written canonical no_list).resolve offset
  exact ⟨r', hr', gathers'.verb.trans gathers.verb.symm, gathers'.arguments.trans gathers.arguments.symm,
    gathers'.path⟩

/-- Whether a value is a list of VLANs. -/
def ArgValue.isList : ArgValue → Bool
  | vlans _ => true
  | _ => false

open Grammar in
/-- A route through an interface the name of which is abbreviated, with a distance that begins with zeros. -/
theorem resolve_path_route :
    ∃ r, resolve "IP route 10.0.0.0  255.255.0.0 g0/1 007" (root .globalConfig .ios) none 0 = .ok (some (.ok r)) ∧
      (∀ name ids, r.arguments.get? name ≠ some (.vlans ids)) ∧
      " ".intercalate r.path = "ip route 10.0.0.0 255.255.0.0 GigabitEthernet0/1 7" ∧
      ∃ r', resolve "ip route 10.0.0.0 255.255.0.0 GigabitEthernet0/1 7" (root .globalConfig .ios) none 0 =
        .ok (some (.ok r')) ∧ r'.verb = r.verb ∧ r'.arguments = r.arguments ∧ r'.path = r.path := by
  have found : (command? (resolve "IP route 10.0.0.0  255.255.0.0 g0/1 007" (root .globalConfig .ios) none 0)).any
      (fun r => " ".intercalate r.path == "ip route 10.0.0.0 255.255.0.0 GigabitEthernet0/1 7" &&
        r.arguments.entries.all fun e => !e.2.isList) = true := by decide +kernel
  have again {r : ResolvedCommand}
      (resolves : resolve "IP route 10.0.0.0  255.255.0.0 g0/1 007" (root .globalConfig .ios) none 0 =
        .ok (some (.ok r))) := resolve_path .globalConfig .ios resolves
  generalize root .globalConfig .ios = grammar at found again ⊢
  obtain ⟨r, resolved, written⟩ := (Option.any_eq_true ..).1 found
  have resolves := command?_eq_some.1 resolved
  obtain ⟨path, values⟩ := Bool.and_eq_true_iff.1 written
  have no_list : ∀ name ids, r.arguments.get? name ≠ some (.vlans ids) := fun name ids list => by
    have := List.all_eq_true.1 values _ (Table.get?_eq_some.1 list)
    cases this
  have again := again resolves no_list
  rw [eq_of_beq path] at again
  exact ⟨r, resolves, no_list, eq_of_beq path, again⟩

end NetRack
