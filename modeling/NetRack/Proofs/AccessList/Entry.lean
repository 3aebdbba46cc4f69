import NetRack.Proofs.AccessList.Wording
import NetRack.Proofs.Ports.Line

/-!
# Lines that enter rules

A line asks for a rule exactly if its words spell the clause of that rule: in the configuration of an access list
by themselves, and in global configuration after the number of a list.  A line that asks for a named list names
its kind.
-/

namespace NetRack

/-! ## What steps record -/

/-- The value that some steps record last under a name. -/
def Step.recorded? (steps : List Step) (name : String) : Option ArgValue :=
  (steps.findRev? fun s => s.label.name? = some name).map (·.value)

theorem get?_record (args : Arguments) (s : Step) (name : String) :
    (args.record s).get? name = if s.label.name? = some name then some s.value else args.get? name := by
  unfold Arguments.record
  cases s.label.name? with
  | none => simp
  | some other =>
    simp only [Table.get?_insert, Option.some.injEq]
    by_cases h : name = other
    · rw [if_pos h, if_pos h.symm]
    · rw [if_neg h, if_neg (Ne.symm h)]

theorem get?_foldl_record (steps : List Step) (args : Arguments) (name : String) :
    (steps.foldl Arguments.record args).get? name = (Step.recorded? steps name).or (args.get? name) := by
  unfold Step.recorded?
  induction steps using List.reverseRecOn with
  | nil => rfl
  | append_singleton steps s ih =>
    rw [List.foldl_concat, get?_record, ih, List.findRev?_eq_find?_reverse, List.findRev?_eq_find?_reverse,
      List.reverse_concat, List.find?_cons]
    by_cases h : s.label.name? = some name
    · simp [h]
    · simp [h]

theorem recorded?_append (before after : List Step) (name : String) :
    Step.recorded? (before ++ after) name = (Step.recorded? after name).or (Step.recorded? before name) := by
  unfold Step.recorded?
  simp only [List.findRev?_eq_find?_reverse, List.reverse_append, List.find?_append]
  cases after.reverse.find? fun s => s.label.name? = some name <;> rfl

theorem ResolvedCommand.Gathers.get? {r : ResolvedCommand} {steps : List Step} {verb : Verb}
    (h : r.Gathers ∅ [] steps verb) (name : String) : r.arguments.get? name = Step.recorded? steps name := by
  rw [h.arguments, get?_foldl_record]
  exact Option.or_none

/-! ## The rule of a clause -/

/-- What is recorded of a side under its name. -/
def Endpoint.base : Endpoint → ArgValue
  | any => .text "any"
  | host a => .address a
  | bare a => .address a
  | within a _ => .address a

/-- What is recorded of the wildcard of a side. -/
def Endpoint.wildcard? : Endpoint → Option ArgValue
  | within _ b => some (.address b)
  | _ => none

section Rules

variable {r : ResolvedCommand} {c : Clause}

theorem pattern_eq {e : Endpoint} {name : String} (base : r.arguments.get? name = some e.base)
    (wildcard : r.arguments.get? (name ++ "_wildcard") = e.wildcard?) : r.pattern name = e.pattern := by
  unfold ResolvedCommand.pattern
  rw [base, wildcard]
  cases e <;> rfl

theorem word_eq {α : Type} [Vocabulary α] [Vocabulary.Lawful α] {name : String} {w : α}
    (h : r.arguments.get? name = some (.text (Vocabulary.spelling w))) : r.word name α = .ok w := by
  unfold ResolvedCommand.word ResolvedCommand.text
  rw [h, ok_bind, Vocabulary.Lawful.read?_spelling]
  rfl

theorem optional_of_none {α : Type} {get : String → Except Fault α} {name : String}
    (h : r.arguments.get? name = none) : r.optional name get = .ok none := by
  unfold ResolvedCommand.optional ResolvedCommand.has
  rw [Table.contains_eq_isSome, h]
  rfl

theorem optional_of_some {α : Type} {get : String → Except Fault α} {name : String} {v : ArgValue}
    (h : r.arguments.get? name = some v) : r.optional name get = some <$> get name := by
  unfold ResolvedCommand.optional ResolvedCommand.has
  rw [Table.contains_eq_isSome, h]
  rfl

/-- The arguments of a rule. -/
def ruleArguments : List String := ["action", "protocol", "src", "src_wildcard", "dst", "dst_wildcard"]

/-- Where the steps of a clause have recorded the arguments of a rule, the rule is that of the clause. -/
theorem ruleEntry_eq (h : ∀ name ∈ ruleArguments, r.arguments.get? name = Step.recorded? c.steps name) :
    r.ruleEntry = .ok c.entry := by
  unfold ResolvedCommand.ruleEntry
  have action := h "action" (by decide)
  have protocol := h "protocol" (by decide)
  have source := h "src" (by decide)
  have sourceWildcard := h "src_wildcard" (by decide)
  have destination := h "dst" (by decide)
  cases c with
  | standard a s =>
    have recorded : Step.recorded? (Clause.standard a s).steps "action" = some (.text (Vocabulary.spelling a)) ∧
        Step.recorded? (Clause.standard a s).steps "protocol" = none ∧
        Step.recorded? (Clause.standard a s).steps "src" = some s.base ∧
        Step.recorded? (Clause.standard a s).steps "src_wildcard" = s.wildcard? ∧
        Step.recorded? (Clause.standard a s).steps "dst" = none := by
      cases s <;> exact ⟨rfl, rfl, rfl, rfl, rfl⟩
    obtain ⟨ofAction, ofProtocol, ofBase, ofWildcard, ofDestination⟩ := recorded
    have no_destination : r.pattern "dst" = .any := by
      unfold ResolvedCommand.pattern
      rw [destination, ofDestination]
    rw [word_eq (action.trans ofAction), optional_of_none (protocol.trans ofProtocol), no_destination,
      pattern_eq (source.trans ofBase) (sourceWildcard.trans ofWildcard)]
    rfl
  | extended a p s d =>
    have recorded : Step.recorded? (Clause.extended a p s d).steps "action" =
          some (.text (Vocabulary.spelling a)) ∧
        Step.recorded? (Clause.extended a p s d).steps "protocol" = some (.text (Vocabulary.spelling p)) ∧
        Step.recorded? (Clause.extended a p s d).steps "src" = some s.base ∧
        Step.recorded? (Clause.extended a p s d).steps "src_wildcard" = s.wildcard? ∧
        Step.recorded? (Clause.extended a p s d).steps "dst" = some d.base ∧
        Step.recorded? (Clause.extended a p s d).steps "dst_wildcard" = d.wildcard? := by
      cases s <;> cases d <;> exact ⟨rfl, rfl, rfl, rfl, rfl, rfl⟩
    obtain ⟨ofAction, ofProtocol, ofBase, ofWildcard, ofBase', ofWildcard'⟩ := recorded
    rw [word_eq (action.trans ofAction), optional_of_some (protocol.trans ofProtocol),
      word_eq (protocol.trans ofProtocol), pattern_eq (source.trans ofBase) (sourceWildcard.trans ofWildcard),
      pattern_eq (destination.trans ofBase') ((h "dst_wildcard" (by decide)).trans ofWildcard')]
    rfl

end Rules

/-! ## The command of a rule -/

section Commands

variable {r : ResolvedCommand} {e : RuleEntry} {n : Int}

theorem verb_of_aclRule (h : r.command = .ok (.aclRule e)) : r.verb = .aclRule ∧ r.ruleEntry = .ok e := by
  have found : r.otherCommand? r.verb = some (.ok (.aclRule e)) := by
    cases r.gives h with
    | other found => exact found
  generalize r.verb = v at found ⊢
  cases v with
  | aclRule =>
    obtain ⟨e', he', heq⟩ := map_eq_ok.1 (Option.some.inj found)
    cases heq
    exact ⟨rfl, he'⟩
  | _ => simp [ResolvedCommand.otherCommand?, bind_eq_ok, map_eq_ok] at found

theorem verb_of_accessListNumbered (h : r.command = .ok (.global (.accessListNumbered n e))) :
    r.verb = .accessListNumbered ∧ r.int "number" = .ok n ∧ r.ruleEntry = .ok e := by
  have found := globalCommand?_of_command h
  generalize r.verb = v at found ⊢
  cases v with
  | accessListNumbered =>
    obtain ⟨m, hm, found⟩ := bind_eq_ok.1 (Option.some.inj found)
    obtain ⟨e', he', heq⟩ := bind_eq_ok.1 found
    cases heq
    exact ⟨rfl, hm, he'⟩
  | _ => simp [ResolvedCommand.globalCommand?, bind_eq_ok, map_eq_ok] at found

theorem verb_of_accessListNamed {kind : AclKind} {name : String}
    (h : r.command = .ok (.global (.accessListNamed kind name))) :
    r.verb = .accessListNamed ∧ r.word "acl_kind" AclKind = .ok kind ∧ r.text "name" = .ok name := by
  have found := globalCommand?_of_command h
  generalize r.verb = v at found ⊢
  cases v with
  | accessListNamed =>
    obtain ⟨kind', hkind, found⟩ := bind_eq_ok.1 (Option.some.inj found)
    obtain ⟨name', hname, heq⟩ := bind_eq_ok.1 found
    cases heq
    exact ⟨rfl, hkind, hname⟩
  | _ => simp [ResolvedCommand.globalCommand?, bind_eq_ok, map_eq_ok] at found

/-- The steps to a named list. -/
def namingSteps (kind : AclKind) (name : String) : List Step :=
  [⟨.keyword "ip" none, .text "ip"⟩, ⟨.keyword "access-list" none, .text "access-list"⟩,
    ⟨.keyword (Vocabulary.spelling kind) (some "acl_kind"), .text (Vocabulary.spelling kind)⟩,
    ⟨.argument "name" .word none none, .text name⟩]

/-- The kind and the name that steps to a named list have recorded. -/
theorem naming_eq {kind : AclKind} {name : String} {verb : Verb} (h : r.Gathers ∅ [] (namingSteps kind name) verb) :
    r.word "acl_kind" AclKind = .ok kind ∧ r.text "name" = .ok name := by
  refine ⟨word_eq (h.get? "acl_kind"), ?_⟩
  unfold ResolvedCommand.text
  rw [h.get?]
  rfl

/-- The steps to the rules of a numbered list. -/
def numberSteps (n : Int) : List Step :=
  [⟨.keyword "access-list" none, .text "access-list"⟩, ⟨.argument "number" .int (some 1) (some 199), .int n⟩]

/-- The number and the rule that steps to a numbered list have recorded. -/
theorem numbered_eq {c : Clause} {verb : Verb} (h : r.Gathers ∅ [] (numberSteps n ++ c.steps) verb) :
    r.int "number" = .ok n ∧ r.ruleEntry = .ok c.entry := by
  have apart : Step.recorded? c.steps "number" = none := by
    cases c with
    | standard a s => cases s <;> rfl
    | extended a p s d => cases s <;> cases d <;> rfl
  refine ⟨?_, ruleEntry_eq fun name hname => ?_⟩
  · unfold ResolvedCommand.int
    rw [h.get?, recorded?_append, apart]
    rfl
  · have before : ∀ name ∈ ruleArguments, Step.recorded? (numberSteps n) name = none := by
      simp only [ruleArguments, List.forall_mem_cons]
      exact ⟨rfl, rfl, rfl, rfl, rfl, rfl, nofun⟩
    rw [h.get?, recorded?_append, before name hname, Option.or_none]

end Commands

/-! ## Lines -/

namespace Console

variable {d : Device} {line : String} {c : Command} {e : RuleEntry} {n : Int}

/-- A line that asks for nothing is blank, and one that asks for something resolves to it. -/
theorem request?_eq_ok {q : Option Request} (h : request? d line d.mode 0 = .ok q) :
    q = none ∧ Text.words line = [] ∨
      ∃ r x, resolve line (Grammar.root d.mode (platform d)) (some d) 0 = .ok (some (.ok r)) ∧ r.request = .ok x ∧
        q = some x := by
  unfold request? at h
  obtain ⟨x, hx, h⟩ := bind_eq_ok.1 h
  have resolved := liftM_eq_ok.1 hx
  cases x with
  | none =>
    cases h
    refine Or.inl ⟨rfl, ?_⟩
    unfold resolve at resolved
    dsimp only at resolved
    split at resolved
    · rename_i blank
      exact List.getLast?_eq_none_iff.1 blank
    · obtain ⟨y, -, some⟩ := map_eq_ok.1 resolved
      cases some
  | some x =>
    cases x with
    | error e => cases h
    | ok r =>
      obtain ⟨request, hrequest, heq⟩ := bind_eq_ok.1 h
      cases heq
      exact Or.inr ⟨r, request, resolved, liftM_eq_ok.1 hrequest, rfl⟩

theorem request_eq_command {r : ResolvedCommand} :
    r.request = .ok (.command c) ↔ r.verb ≠ .runExec ∧ r.command = .ok c := by
  unfold ResolvedCommand.request
  split
  · rename_i runs
    refine iff_of_false (fun h => ?_) fun other => other.1 runs
    obtain ⟨payload, -, heq⟩ := bind_eq_ok.1 h
    cases heq
  · rename_i other
    refine ⟨fun h => ?_, fun h => map_eq_ok.2 ⟨c, h.2, rfl⟩⟩
    obtain ⟨c', hc, heq⟩ := map_eq_ok.1 h
    cases heq
    exact ⟨other, hc⟩

/-- A line asks for the command of what it resolves to. -/
theorem asks_iff : Asks d line c ↔
    ∃ r, resolve line (Grammar.root d.mode (platform d)) (some d) 0 = .ok (some (.ok r)) ∧
      r.verb ≠ .runExec ∧ r.command = .ok c := by
  constructor
  · intro asks
    rcases request?_eq_ok asks with ⟨none, -⟩ | ⟨r, x, resolved, request, heq⟩
    · cases none
    · cases heq
      exact ⟨r, resolved, request_eq_command.1 request⟩
  · rintro ⟨r, resolved, given⟩
    unfold Asks request?
    rw [resolved]
    show (liftM r.request >>= fun q => pure (some q) : Except Failure (Option Request)) = _
    rw [request_eq_command.2 given]
    rfl

/-- A line that asks for a command follows a course of the grammar, whose steps make the command. -/
theorem Asks.follows (asks : Asks d line c) : ∃ (steps : List Step) (turns : List Turn) (r : ResolvedCommand),
    (r.verb, turns) ∈ (Grammar.root d.mode (platform d)).courses ∧
      Follows line.toList (some d) turns (Text.words line) steps ∧ r.Gathers ∅ [] steps r.verb ∧
      r.verb.belongs d.mode (platform d) = true ∧ r.command = .ok c := by
  obtain ⟨r, resolved, -, hc⟩ := asks_iff.1 asks
  obtain ⟨steps, verb, parses, gathers⟩ := parses_of_resolve resolved
  obtain ⟨apart, -⟩ := Bool.and_eq_true_iff.1 (root_isCanonical d.mode (platform d))
  obtain ⟨-, turns, hturns, follows⟩ := (parses_iff_follows apart).1 parses
  obtain ⟨entry, hentry, verb_eq, -⟩ := resolve_follows resolved
  refine ⟨steps, turns, r, ?_, follows, ?_, ?_, hc⟩
  · rwa [gathers.verb]
  · rwa [gathers.verb]
  · rw [verb_eq]
    exact (root_serves hentry).2

/-- A line whose words follow a course of the grammar asks for the command that the steps make. -/
theorem asks_of_follows {verb : Verb} {turns : List Turn} {steps : List Step}
    (hturns : (verb, turns) ∈ (Grammar.root d.mode (platform d)).courses) (some_word : Text.words line ≠ [])
    (follows : Follows line.toList (some d) turns (Text.words line) steps) (other : verb ≠ .runExec)
    (makes : ∀ r : ResolvedCommand, r.Gathers ∅ [] steps verb → r.command = .ok c) : Asks d line c := by
  obtain ⟨apart, -⟩ := Bool.and_eq_true_iff.1 (root_isCanonical d.mode (platform d))
  obtain ⟨r, resolved, gathers⟩ :=
    ((parses_iff_follows apart).2 ⟨some_word, turns, hturns, follows⟩).resolve 0
  exact asks_iff.2 ⟨r, resolved, gathers.verb ▸ other, makes r gathers⟩

/-- The grammar of a console that is no end host. -/
theorem root_of_ios {mode : Mode} (hm : d.mode = mode) (ios : d.isA .pc = false) :
    Grammar.root d.mode (platform d) = Grammar.root mode .ios := by
  unfold platform
  rw [ios, hm]
  rfl

/-- What a line spells that asks for a rule of the list under configuration. -/
theorem Asks.clause (asks : Asks d line (.aclRule e)) : ∃ clause : Clause,
    clause.SpelledBy Grammar.aclGrammar.rivals ((Text.words line).map (·.text)) ∧ clause.entry = e := by
  obtain ⟨steps, turns, r, hturns, follows, gathers, belongs, command⟩ := asks.follows
  obtain ⟨verb, entry⟩ := verb_of_aclRule command
  rw [verb] at belongs hturns
  rw [root_of_ios asks.admissible (given_elsewhere belongs rfl).1] at hturns
  have course := Node.mem_coursesTo.2 hturns
  rw [show Grammar.root .aclConfig .ios = Grammar.aclGrammar from rfl, coursesTo_aclRule] at course
  obtain ⟨shape, hshape, rfl⟩ := List.mem_map.1 course
  obtain ⟨clause, spelled, rfl⟩ := Clause.exists_of_follows (Clause.full_of_mem_shapes hshape) follows
  rw [ruleEntry_eq fun name _ => gathers.get? name] at entry
  exact ⟨clause, spelled, Except.ok.inj entry⟩

/-- What a line spells that asks for a rule of a numbered list. -/
theorem Asks.numbered (asks : Asks d line (.global (.accessListNumbered n e))) :
    ∃ first number rest, ∃ clause : Clause, Text.words line = first :: number :: rest ∧
      Argument.readInt (some 1) (some 199) number.text.toList = .ok n ∧
      clause.SpelledBy actionWords (rest.map (·.text)) ∧ clause.entry = e := by
  obtain ⟨steps, turns, r, hturns, follows, gathers, belongs, command⟩ := asks.follows
  obtain ⟨verb, number, entry⟩ := verb_of_accessListNumbered command
  rw [verb] at belongs hturns
  obtain ⟨ios, mode⟩ := given_elsewhere belongs rfl
  rw [root_of_ios (of_decide_eq_true mode) ios] at hturns
  have course := Node.mem_coursesTo.2 hturns
  rw [show Grammar.root .globalConfig .ios = Grammar.globalGrammar from rfl, coursesTo_accessListNumbered] at course
  obtain ⟨shape, hshape, rfl⟩ := List.mem_map.1 course
  obtain ⟨first, _, _, hwords, -, rfl, after⟩ := follows_keyword.1 follows
  obtain ⟨word, rest, v, later, rfl, -, accepted, rfl, body⟩ := (follows_argument (by decide) (by decide)).1 after
  obtain ⟨m, hm, rfl⟩ := map_eq_ok.1 accepted
  obtain ⟨clause, spelled, rfl⟩ := Clause.exists_of_follows (Clause.full_of_mem_shapes hshape) body
  obtain ⟨ofNumber, ofEntry⟩ := numbered_eq gathers
  obtain rfl := Except.ok.inj (ofNumber.symm.trans number)
  exact ⟨first, word, rest, clause, hwords, hm, spelled, Except.ok.inj (ofEntry.symm.trans entry)⟩

/-- A line that asks for a named list has its name for its last word. -/
theorem Asks.named {kind : AclKind} {name : String} (asks : Asks d line (.global (.accessListNamed kind name))) :
    ∃ w w' w'' w₃ : Text.Word, Text.words line = [w, w', w'', w₃] ∧ w₃.text = name ∧
      (Text.lower w.text).toList <+: "ip".toList := by
  obtain ⟨steps, turns, r, hturns, follows, gathers, belongs, command⟩ := asks.follows
  obtain ⟨verb, -, hname⟩ := verb_of_accessListNamed command
  rw [verb] at belongs hturns
  rw [root_of_ios rfl (given_elsewhere belongs rfl).1] at hturns
  have course := Node.mem_coursesTo.2 hturns
  rw [coursesTo_accessListNamed asks.admissible.1] at course
  obtain ⟨kind', -, rfl⟩ := List.mem_map.1 course
  obtain ⟨w, _, _, hwords, chosen, rfl, after⟩ := follows_keyword.1 follows
  obtain ⟨w', _, _, rfl, -, rfl, after'⟩ := follows_keyword.1 after
  obtain ⟨w'', _, _, rfl, -, rfl, last⟩ := follows_keyword.1 after'
  obtain ⟨w₃, _, v, _, rfl, -, accepted, rfl, none⟩ := (follows_argument (by decide) (by decide)).1 last
  obtain ⟨rfl, rfl⟩ := follows_nil.1 none
  obtain rfl : .text w₃.text = v := Except.ok.inj accepted
  have gathers : r.Gathers ∅ [] (namingSteps kind' w₃.text) r.verb := gathers
  have found := (naming_eq gathers).2
  exact ⟨w, w', w'', w₃, hwords, Except.ok.inj (found.symm.trans hname), chosen.abbreviates⟩

/-- A line that begins with `access-list` does nothing but enter the rule of a numbered list. -/
theorem run_of_first {t : Topology} {x : Option Outcome} {first : Text.Word} {rest : List Text.Word}
    (ran : run t d line = .ok x) (hwords : Text.words line = first :: rest) (hfirst : first.text = "access-list") :
    ∃ n e o, Asks d line (.global (.accessListNumbered n e)) ∧ addNumberedRule d n e = .ok o := by
  obtain ⟨q, hq, ran⟩ := bind_eq_ok.1 ran
  rcases request?_eq_ok hq with ⟨-, blank⟩ | ⟨r, request, resolved, made, rfl⟩
  · rw [hwords] at blank
    cases blank
  obtain ⟨steps, verb, parses, gathers⟩ := parses_of_resolve resolved
  obtain ⟨apart, -⟩ := Bool.and_eq_true_iff.1 (root_isCanonical d.mode (platform d))
  obtain ⟨-, turns, hturns, follows⟩ := (parses_iff_follows apart).1 parses
  have course := List.all_eq_true.1 (courses_accessList d.mode (platform d)) _ hturns
  rw [hwords] at follows
  cases follows with
  | line => cases course
  | argument => cases course
  | @keyword rivals token binds turns _ _ steps chosen later =>
    have begins : "access-list".toList.isPrefixOf token.toList = true := by
      have abbreviates := chosen.abbreviates
      rw [hfirst, show Text.lower "access-list" = "access-list" by decide] at abbreviates
      exact List.isPrefixOf_iff_prefix.2 abbreviates
    have verb : r.verb = .accessListNumbered := by
      rw [gathers.verb]
      rcases Bool.or_eq_true_iff.1 course with other | verb
      · rw [begins] at other
        cases other
      · exact of_decide_eq_true verb
    unfold ResolvedCommand.request ResolvedCommand.command at made
    rw [if_neg (by simp [verb]), verb] at made
    obtain ⟨c, hc, rfl⟩ := map_eq_ok.1 made
    obtain ⟨given, hgiven, rfl⟩ := map_eq_ok.1 hc
    obtain ⟨n, -, hgiven⟩ := bind_eq_ok.1 hgiven
    obtain ⟨e, -, hgiven⟩ := bind_eq_ok.1 hgiven
    cases hgiven
    obtain ⟨o, done, -⟩ := map_eq_ok.1 ran
    exact ⟨n, e, o, hq, done⟩

/-! ## Lines that are given in full -/

/-- Words that spell a clause ask for its rule in the configuration of a list. -/
theorem asks_aclRule {clause : Clause} (mode : d.mode = .aclConfig) (ios : d.isA .pc = false)
    (spelled : clause.SpelledBy Grammar.aclGrammar.rivals ((Text.words line).map (·.text))) :
    Asks d line (.aclRule clause.entry) := by
  have course : clause.turns Grammar.aclGrammar.rivals ∈ (Grammar.root d.mode (platform d)).coursesTo .aclRule := by
    rw [root_of_ios mode ios, show Grammar.root .aclConfig .ios = Grammar.aclGrammar from rfl, coursesTo_aclRule,
      ← clause.turns_shape]
    exact List.mem_map_of_mem (Clause.shape_mem_shapes spelled)
  refine asks_of_follows (Node.mem_coursesTo.1 course) ?_ (spelled.follows rfl) (by decide) fun r gathers => ?_
  · rintro none
    rw [none] at spelled
    cases spelled
  · have entry := ruleEntry_eq fun name _ => gathers.get? name
    unfold ResolvedCommand.command
    rw [gathers.verb]
    show Command.aclRule <$> r.ruleEntry = _
    rw [entry]
    rfl

/-- The number of a list and words that spell a clause ask for its rule in global configuration. -/
theorem asks_accessListNumbered {clause : Clause} {first number : Text.Word} {rest : List Text.Word}
    (mode : d.mode = .globalConfig) (ios : d.isA .pc = false) (hwords : Text.words line = first :: number :: rest)
    (hfirst : first.text = "access-list")
    (read : Argument.readInt (some 1) (some 199) number.text.toList = .ok n)
    (spelled : clause.SpelledBy actionWords (rest.map (·.text))) :
    Asks d line (.global (.accessListNumbered n clause.entry)) := by
  have course : numbering ++ clause.turns actionWords ∈
      (Grammar.root d.mode (platform d)).coursesTo .accessListNumbered := by
    rw [root_of_ios mode ios, show Grammar.root .globalConfig .ios = Grammar.globalGrammar from rfl,
      coursesTo_accessListNumbered, ← clause.turns_shape]
    exact List.mem_map.2 ⟨_, Clause.shape_mem_shapes spelled, rfl⟩
  have follows : Follows line.toList (some d) (numbering ++ clause.turns actionWords) (Text.words line)
      (numberSteps n ++ clause.steps) := by
    rw [hwords]
    refine .keyword ?_ ((follows_argument (by decide) (by decide)).2
      ⟨number, rest, .int n, _, rfl, passes_nil _, ?_, rfl, spelled.follows rfl⟩)
    · rw [hfirst]
      exact .of_lower (by decide) (by decide)
    · exact map_eq_ok.2 ⟨n, read, rfl⟩
  refine asks_of_follows (Node.mem_coursesTo.1 course) (by simp [hwords]) follows (by decide) fun r gathers => ?_
  obtain ⟨number, entry⟩ := numbered_eq gathers
  unfold ResolvedCommand.command
  rw [gathers.verb]
  show Command.global <$> (do return .accessListNumbered (← r.int "number") (← r.ruleEntry)) = _
  rw [number, entry]
  rfl

/-- Four words ask for a named list. -/
theorem asks_accessListNamed {kind : AclKind} {w w' w'' w₃ : Text.Word}
    (mode : d.mode = .globalConfig ∨ d.mode = .aclConfig) (ios : d.isA .pc = false)
    (hwords : Text.words line = [w, w', w'', w₃]) (hw : w.text = "ip") (hw' : w'.text = "access-list")
    (hw'' : w''.text = Vocabulary.spelling kind) :
    Asks d line (.global (.accessListNamed kind w₃.text)) := by
  have config : d.mode.isConfig = true := by rcases mode with mode | mode <;> rw [mode] <;> rfl
  have course : naming (Grammar.root d.mode .ios).rivals (ipWords d.mode) kind ∈
      (Grammar.root d.mode (platform d)).coursesTo .accessListNamed := by
    rw [root_of_ios rfl ios, coursesTo_accessListNamed config]
    refine List.mem_map_of_mem ?_
    cases kind <;> decide
  have follows : Follows line.toList (some d) (naming (Grammar.root d.mode .ios).rivals (ipWords d.mode) kind)
      (Text.words line) (namingSteps kind w₃.text) := by
    rw [hwords]
    refine .keyword ?_ (.keyword ?_ (.keyword ?_ ((follows_argument (by decide) (by decide)).2
      ⟨w₃, [], .text w₃.text, [], rfl, passes_nil _, rfl, rfl, .done⟩)))
    · rw [hw]
      refine .of_lower ?_ (by decide)
      rcases mode with mode | mode <;> rw [mode] <;> decide
    · rw [hw']
      refine .of_lower ?_ (by decide)
      rcases mode with mode | mode <;> rw [mode] <;> decide
    · rw [hw'']
      cases kind <;> exact .of_lower (by decide) (by decide)
  refine asks_of_follows (Node.mem_coursesTo.1 course) (by simp [hwords]) follows (by decide) fun r gathers => ?_
  obtain ⟨hkind, hname⟩ := naming_eq gathers
  unfold ResolvedCommand.command
  rw [gathers.verb]
  show Command.global <$> (do return .accessListNamed (← r.word "acl_kind" AclKind) (← r.text "name")) = _
  rw [hkind, hname]
  rfl

end Console

end NetRack
