import NetRack.Proofs.AccessList.Clause
import NetRack.Proofs.Resolver.Canonical

/-!
# How clauses are worded

A clause is spelled by words, keywords of which may be abbreviated, and words spell one clause at most.  The words
of a line that follow a course of a rule spell a clause, whose values the steps take, and the words of a clause
follow its course.  The courses of the grammars to rules are those of clauses.
-/

namespace NetRack

/-! ## Keywords -/

namespace Chooses

variable {rivals more : List String} {w token token' : String}

theorem abbreviates (h : Chooses rivals w token) : (Text.lower w).toList <+: token.toList :=
  h.fits.elim (fun full => full ▸ List.prefix_rfl) And.left

/-- A word stands for one keyword. -/
theorem unique (h : Chooses rivals w token) (h' : Chooses rivals w token') : token = token' := by
  rcases h.fits, h'.fits with ⟨full | ⟨-, only⟩, full' | ⟨-, only'⟩⟩
  · exact full.symm.trans full'
  · exact only' token h.mem (full ▸ List.prefix_rfl)
  · exact (only token' h'.mem (full' ▸ List.prefix_rfl)).symm
  · exact only' token h.mem h.abbreviates

/-- With less keywords to choose from, a word stands for the same. -/
theorem of_subset (h : Chooses more w token) (sub : rivals ⊆ more) (mem : token ∈ rivals) : Chooses rivals w token :=
  ⟨mem, h.fits.imp id (And.imp id fun only k hk => only k (sub hk))⟩

/-- A keyword stands for itself. -/
theorem of_lower (mem : token ∈ rivals) (lower : Text.lower token = token) : Chooses rivals token token :=
  ⟨mem, Or.inl lower⟩

theorem not_passes (h : Chooses rivals w token) (passed : Passes rivals w) : False :=
  passed token h.mem h.abbreviates

end Chooses

/-- No keyword has a digit or a point. -/
def AreLetters (rivals : List String) : Prop := (rivals.all fun k => !k.toList.any Text.isMark) = true

/-- An address is no keyword. -/
theorem passes_of_address {rivals : List String} (letters : AreLetters rivals) {t : String} {a : Address}
    (h : Address.read? t = some a) : Passes rivals t := by
  obtain ⟨c, cs, front, digit⟩ := Address.digit_of_read? h
  exact passes_of_mark letters ⟨c, by simp [front], Text.isMark_of_isDigit digit⟩

/-! ## Clauses in words -/

/-- The keywords of actions. -/
def actionWords : List String := ["permit", "deny"]

/-- The keywords that may come after an action. -/
def bodyWords : List String := ["any", "host", "ip", "icmp", "tcp", "udp"]

/-- The keywords of the sides after a protocol. -/
def sideWords : List String := ["any", "host"]

/-- Words spell a side, where some keywords may stand. -/
inductive Endpoint.SpelledBy (keywords : List String) : Endpoint → List String → Prop where
  | any {w : String} (chosen : Chooses keywords w "any") : SpelledBy keywords any [w]
  | host {w t : String} {a : Address} (chosen : Chooses keywords w "host") (read : Address.read? t = some a) :
      SpelledBy keywords (host a) [w, t]
  | bare {t : String} {a : Address} (read : Address.read? t = some a) : SpelledBy keywords (bare a) [t]
  | within {t u : String} {a b : Address} (base : Address.read? t = some a) (wildcard : Address.read? u = some b) :
      SpelledBy keywords (within a b) [t, u]

/-- Whether a side is an address alone, which may stand for a host where there is no protocol. -/
def Endpoint.isBare : Endpoint → Bool
  | bare _ => true
  | _ => false

/-- Words spell a clause, where some keywords may stand for its action. -/
inductive Clause.SpelledBy (actions : List String) : Clause → List String → Prop where
  | standard {w : String} {action : RuleAction} {source : Endpoint} {words : List String}
      (chosen : Chooses actions w (Vocabulary.spelling action)) (ofSource : source.SpelledBy bodyWords words) :
      SpelledBy actions (standard action source) (w :: words)
  | extended {w w' : String} {action : RuleAction} {protocol : Protocol} {source destination : Endpoint}
      {words words' : List String} (chosen : Chooses actions w (Vocabulary.spelling action))
      (ofProtocol : Chooses bodyWords w' (Vocabulary.spelling protocol))
      (ofSource : source.SpelledBy sideWords words) (ofDestination : destination.SpelledBy sideWords words')
      (full : source.isBare = false ∧ destination.isBare = false) :
      SpelledBy actions (extended action protocol source destination) (w :: w' :: (words ++ words'))

theorem areLetters_bodyWords : AreLetters bodyWords := by
  unfold AreLetters bodyWords
  decide

theorem areLetters_sideWords : AreLetters sideWords := by
  unfold AreLetters sideWords
  decide

/-- The words of a vocabulary are spelled in different ways. -/
theorem Vocabulary.spelling_inj {α : Type} [Vocabulary α] [Vocabulary.Lawful α] {a b : α}
    (h : Vocabulary.spelling a = Vocabulary.spelling b) : a = b := by
  have read := Vocabulary.Lawful.read?_spelling a
  rw [h, Vocabulary.Lawful.read?_spelling b] at read
  exact (Option.some.inj read).symm

section Unique

variable {keywords actions : List String} {e e' : Endpoint} {words words' rest rest' : List String}

/-- Words that are not an address alone spell one side, and end where it ends. -/
theorem Endpoint.SpelledBy.unique (letters : AreLetters keywords) (h : e.SpelledBy keywords words)
    (h' : e'.SpelledBy keywords words') (full : e.isBare = false ∧ e'.isBare = false ∨ rest = [] ∧ rest' = [])
    (same : words ++ rest = words' ++ rest') : e = e' ∧ words = words' ∧ rest = rest' := by
  have no_keyword {w token : String} {a : Address} (chosen : Chooses keywords w token)
      (read : Address.read? w = some a) : False := chosen.not_passes (passes_of_address letters read)
  have apart {w : String} (any : Chooses keywords w "any") (host : Chooses keywords w "host") : False :=
    absurd (any.unique host) (by decide)
  cases h with
  | any chosen =>
    cases h' with
    | any => exact ⟨rfl, by simpa using same⟩
    | host chosen' => exact (apart chosen ((List.cons.inj same).1 ▸ chosen')).elim
    | bare read => exact (no_keyword ((List.cons.inj same).1 ▸ chosen) read).elim
    | within read => exact (no_keyword ((List.cons.inj same).1 ▸ chosen) read).elim
  | host chosen read =>
    cases h' with
    | any chosen' => exact (apart chosen' ((List.cons.inj same).1 ▸ chosen)).elim
    | host chosen' read' =>
      obtain ⟨rfl, rfl, rfl⟩ : _ ∧ _ ∧ _ := by simpa using same
      exact ⟨by rw [Option.some.inj (read.symm.trans read')], rfl, rfl⟩
    | bare read' => exact (no_keyword ((List.cons.inj same).1 ▸ chosen) read').elim
    | within read' => exact (no_keyword ((List.cons.inj same).1 ▸ chosen) read').elim
  | bare read =>
    obtain ⟨rfl, rfl⟩ := full.resolve_left fun h => by cases h.1
    cases h' with
    | any chosen => exact (no_keyword ((List.cons.inj same).1 ▸ chosen) read).elim
    | host chosen => exact (no_keyword ((List.cons.inj same).1 ▸ chosen) read).elim
    | bare read' =>
      obtain rfl : _ = _ := by simpa using same
      exact ⟨by rw [Option.some.inj (read.symm.trans read')], rfl, rfl⟩
    | within => simp at same
  | within base wildcard =>
    cases h' with
    | any chosen => exact (no_keyword ((List.cons.inj same).1 ▸ chosen) base).elim
    | host chosen => exact (no_keyword ((List.cons.inj same).1 ▸ chosen) base).elim
    | bare =>
      obtain ⟨rfl, rfl⟩ := full.resolve_left fun h => by cases h.2
      simp at same
    | within base' wildcard' =>
      obtain ⟨rfl, rfl, rfl⟩ : _ ∧ _ ∧ _ := by simpa using same
      exact ⟨by rw [Option.some.inj (base.symm.trans base'), Option.some.inj (wildcard.symm.trans wildcard')],
        rfl, rfl⟩

/-- A side does not begin with a keyword of another kind. -/
theorem Endpoint.SpelledBy.keyword_cases {w token : String} (letters : AreLetters keywords)
    (h : e.SpelledBy keywords (w :: words)) (chosen : Chooses keywords w token) : token = "any" ∨ token = "host" := by
  cases h with
  | any chosen' => exact Or.inl (chosen.unique chosen')
  | host chosen' => exact Or.inr (chosen.unique chosen')
  | bare read => exact (chosen.not_passes (passes_of_address letters read)).elim
  | within base => exact (chosen.not_passes (passes_of_address letters base)).elim

/-- Words spell one clause at most. -/
theorem Clause.SpelledBy.unique {c c' : Clause} {words : List String} (h : c.SpelledBy actions words)
    (h' : c'.SpelledBy actions words) : c = c' := by
  have no_protocol {w : String} {p : Protocol} {e : Endpoint} {words : List String}
      (chosen : Chooses bodyWords w (Vocabulary.spelling p)) (h : e.SpelledBy bodyWords (w :: words)) : False := by
    rcases h.keyword_cases areLetters_bodyWords chosen with any | host
    · revert any
      cases p <;> decide
    · revert host
      cases p <;> decide
  cases h with
  | standard chosen ofSource =>
    cases h' with
    | standard chosen' ofSource' =>
      obtain ⟨rfl, -, -⟩ := ofSource.unique areLetters_bodyWords ofSource' (Or.inr ⟨rfl, rfl⟩) rfl
      rw [Vocabulary.spelling_inj (chosen.unique chosen')]
    | extended _ ofProtocol => exact (no_protocol ofProtocol ofSource).elim
  | extended chosen ofProtocol ofSource ofDestination full =>
    generalize same : _ :: _ :: (_ ++ _) = words at h'
    cases h' with
    | standard _ ofSource' =>
      obtain ⟨-, rfl⟩ := List.cons.inj same
      exact (no_protocol ofProtocol ofSource').elim
    | extended chosen' ofProtocol' ofSource' ofDestination' full' =>
      obtain ⟨rfl, after⟩ := List.cons.inj same
      obtain ⟨rfl, sides⟩ := List.cons.inj after
      obtain ⟨rfl, -, rest⟩ := ofSource.unique areLetters_sideWords ofSource' (Or.inl ⟨full.1, full'.1⟩) sides
      obtain ⟨rfl, -, -⟩ := ofDestination.unique areLetters_sideWords ofDestination' (Or.inr ⟨rfl, rfl⟩)
        (congrArg (· ++ []) rest)
      rw [Vocabulary.spelling_inj (chosen.unique chosen'), Vocabulary.spelling_inj (ofProtocol.unique ofProtocol')]

end Unique

/-! ## The courses of clauses -/

/-- The side with zeros for its addresses. -/
def Endpoint.shape : Endpoint → Endpoint
  | any => any
  | host _ => host .zero
  | bare _ => bare .zero
  | within _ _ => within .zero .zero

/-- The clause with zeros for its addresses. -/
def Clause.shape : Clause → Clause
  | standard action source => standard action source.shape
  | extended action protocol source destination => extended action protocol source.shape destination.shape

/-- The course of a side through a grammar, recorded under a name. -/
def Endpoint.turns (rivals : List String) (name : String) : Endpoint → List Turn
  | any => [⟨rivals, .keyword "any" (some name)⟩]
  | host _ => [⟨rivals, .keyword "host" none⟩, ⟨[], .argument name .ipv4 none none⟩]
  | bare _ => [⟨rivals, .argument name .ipv4 none none⟩]
  | within _ _ =>
    [⟨rivals, .argument name .ipv4 none none⟩, ⟨[], .argument (name ++ "_wildcard") .wildcard none none⟩]

/-- The steps that take a side. -/
def Endpoint.steps (name : String) : Endpoint → List Step
  | any => [⟨.keyword "any" (some name), .text "any"⟩]
  | host a => [⟨.keyword "host" none, .text "host"⟩, ⟨.argument name .ipv4 none none, .address a⟩]
  | bare a => [⟨.argument name .ipv4 none none, .address a⟩]
  | within a b =>
    [⟨.argument name .ipv4 none none, .address a⟩, ⟨.argument (name ++ "_wildcard") .wildcard none none, .address b⟩]

/-- The course of a clause through a grammar. -/
def Clause.turns (actions : List String) : Clause → List Turn
  | standard action source =>
    ⟨actions, .keyword (Vocabulary.spelling action) (some "action")⟩ :: source.turns bodyWords "src"
  | extended action protocol source destination =>
    ⟨actions, .keyword (Vocabulary.spelling action) (some "action")⟩ ::
      ⟨bodyWords, .keyword (Vocabulary.spelling protocol) (some "protocol")⟩ ::
        (source.turns sideWords "src" ++ destination.turns sideWords "dst")

/-- The steps that take a clause. -/
def Clause.steps : Clause → List Step
  | standard action source =>
    ⟨.keyword (Vocabulary.spelling action) (some "action"), .text (Vocabulary.spelling action)⟩ :: source.steps "src"
  | extended action protocol source destination =>
    ⟨.keyword (Vocabulary.spelling action) (some "action"), .text (Vocabulary.spelling action)⟩ ::
      ⟨.keyword (Vocabulary.spelling protocol) (some "protocol"), .text (Vocabulary.spelling protocol)⟩ ::
        (source.steps "src" ++ destination.steps "dst")

theorem Endpoint.turns_shape (rivals : List String) (name : String) (e : Endpoint) :
    e.shape.turns rivals name = e.turns rivals name := by
  cases e <;> rfl

theorem Endpoint.isBare_shape (e : Endpoint) : e.shape.isBare = e.isBare := by cases e <;> rfl

theorem Clause.turns_shape (actions : List String) (c : Clause) : c.shape.turns actions = c.turns actions := by
  cases c with
  | standard action source => simp only [shape, turns, Endpoint.turns_shape]
  | extended action protocol source destination => simp only [shape, turns, Endpoint.turns_shape]

/-! ## Words on courses -/

section Words

variable {line : List Char} {device : Option Device} {rivals actions : List String} {name : String} {turns : List Turn}
  {words rest : List Text.Word} {steps : List Step}

/-- A word is read as an address where an address is expected. -/
theorem Argument.read_address {kind : ArgKind} (hk : kind = .ipv4 ∨ kind = .wildcard) {low high : Option Int}
    {raw : String} {v : ArgValue} :
    Argument.read kind low high device raw = .ok v ↔ ∃ a, Address.read? raw = some a ∧ v = .address a := by
  have read : Argument.read kind low high device raw = .address <$> Argument.readAddress raw := by
    rcases hk with rfl | rfl <;> rfl
  rw [read, map_eq_ok]
  unfold Argument.readAddress Argument.accept
  constructor
  · rintro ⟨a, ha, rfl⟩
    refine ⟨a, ?_, rfl⟩
    split at ha
    · cases ha
      assumption
    · cases ha
  · rintro ⟨a, ha, rfl⟩
    exact ⟨a, by rw [ha], rfl⟩

/-- Where a course goes by an argument of one word, a word that passes the keywords is read as the argument. -/
theorem follows_argument {kind : ArgKind} {low high : Option Int} (short : kind ≠ .line) (alone : kind ≠ .interface) :
    Follows line device (⟨rivals, .argument name kind low high⟩ :: turns) words steps ↔
      ∃ word rest v later, words = word :: rest ∧ Passes rivals word.text ∧
        Argument.read kind low high device word.text = .ok v ∧
        steps = ⟨.argument name kind low high, v⟩ :: later ∧ Follows line device turns rest later := by
  have single (word : Text.Word) (rest : List Text.Word) :
      argumentText kind word rest = word.text ∧ afterArgument kind word rest = rest :=
    argument_alone (Or.inl alone) rest
  constructor
  · intro h
    cases h with
    | line => exact absurd rfl short
    | argument passed short accepted later =>
      rw [(single _ _).1] at accepted
      rw [(single _ _).2] at later
      exact ⟨_, _, _, _, rfl, passed, accepted, rfl, later⟩
  · rintro ⟨word, rest, v, later, rfl, passed, accepted, rfl, follows⟩
    refine .argument passed short ?_ ?_
    · rwa [(single word rest).1]
    · rwa [(single word rest).2]

/-- Where a course goes by an address, a word that passes the keywords is the address. -/
theorem follows_address {kind : ArgKind} (hk : kind = .ipv4 ∨ kind = .wildcard) :
    Follows line device (⟨rivals, .argument name kind none none⟩ :: turns) words steps ↔
      ∃ word rest a later, words = word :: rest ∧ Passes rivals word.text ∧ Address.read? word.text = some a ∧
        steps = ⟨.argument name kind none none, .address a⟩ :: later ∧ Follows line device turns rest later := by
  rw [follows_argument (by rcases hk with rfl | rfl <;> decide) (by rcases hk with rfl | rfl <;> decide)]
  constructor
  · rintro ⟨word, rest, v, later, rfl, passed, accepted, rfl, follows⟩
    obtain ⟨a, ha, rfl⟩ := (Argument.read_address hk).1 accepted
    exact ⟨word, rest, a, later, rfl, passed, ha, rfl, follows⟩
  · rintro ⟨word, rest, a, later, rfl, passed, ha, rfl, follows⟩
    exact ⟨word, rest, _, later, rfl, passed, (Argument.read_address hk).2 ⟨a, ha, rfl⟩, rfl, follows⟩

theorem follows_keyword {token : String} {binds : Option String} :
    Follows line device (⟨rivals, .keyword token binds⟩ :: turns) words steps ↔
      ∃ word rest later, words = word :: rest ∧ Chooses rivals word.text token ∧
        steps = ⟨.keyword token binds, .text token⟩ :: later ∧ Follows line device turns rest later := by
  constructor
  · intro h
    cases h with
    | keyword chosen later => exact ⟨_, _, _, rfl, chosen, rfl, later⟩
  · rintro ⟨word, rest, later, rfl, chosen, rfl, follows⟩
    exact .keyword chosen follows

theorem follows_nil : Follows line device [] words steps ↔ words = [] ∧ steps = [] := by
  constructor
  · intro h
    cases h
    exact ⟨rfl, rfl⟩
  · rintro ⟨rfl, rfl⟩
    exact .done

theorem passes_nil (w : String) : Passes [] w := fun _ hk => by cases hk

/-- The words that follow the course of a side spell a side of its shape. -/
theorem Endpoint.exists_of_follows {e : Endpoint}
    (h : Follows line device (e.turns rivals name ++ turns) words steps) :
    ∃ (e' : Endpoint) (first rest : List Text.Word) (later : List Step), e'.shape = e.shape ∧ words = first ++ rest ∧ 
      e'.SpelledBy rivals (first.map (·.text)) ∧ steps = e'.steps name ++ later ∧
      Follows line device turns rest later := by
  cases e with
  | any =>
    obtain ⟨w, rest, later, rfl, chosen, rfl, last⟩ := follows_keyword.1 h
    exact ⟨any, [w], rest, later, rfl, rfl, .any chosen, rfl, last⟩
  | host =>
    obtain ⟨w, _, _, rfl, chosen, rfl, after⟩ := follows_keyword.1 h
    obtain ⟨t, rest, a, later, rfl, -, read, rfl, last⟩ := (follows_address (Or.inl rfl)).1 after
    exact ⟨host a, [w, t], rest, later, rfl, rfl, .host chosen read, rfl, last⟩
  | bare =>
    obtain ⟨t, rest, a, later, rfl, -, read, rfl, last⟩ := (follows_address (Or.inl rfl)).1 h
    exact ⟨bare a, [t], rest, later, rfl, rfl, .bare read, rfl, last⟩
  | within =>
    obtain ⟨t, _, a, _, rfl, -, base, rfl, after⟩ := (follows_address (Or.inl rfl)).1 h
    obtain ⟨u, rest, b, later, rfl, -, wildcard, rfl, last⟩ := (follows_address (Or.inr rfl)).1 after
    exact ⟨within a b, [t, u], rest, later, rfl, rfl, .within base wildcard, rfl, last⟩

/-- The words that spell a side follow its course. -/
theorem Endpoint.SpelledBy.follows {e : Endpoint} {texts : List String} (h : e.SpelledBy rivals texts)
    (letters : AreLetters rivals) (same : words.map (·.text) = texts) (later : Follows line device turns rest steps) :
    Follows line device (e.turns rivals name ++ turns) (words ++ rest) (e.steps name ++ steps) := by
  cases h with
  | any chosen =>
    obtain ⟨w, rfl, rfl⟩ : ∃ w, words = [w] ∧ w.text = _ := by simpa [List.map_eq_cons_iff] using same
    exact .keyword chosen later
  | host chosen read =>
    obtain ⟨w, t, rfl, rfl, rfl⟩ : ∃ w t, words = [w, t] ∧ w.text = _ ∧ t.text = _ := by
      simpa [List.map_eq_cons_iff] using same
    exact .keyword chosen ((follows_address (Or.inl rfl)).2 ⟨t, rest, _, _, rfl, passes_nil _, read, rfl, later⟩)
  | bare read =>
    obtain ⟨t, rfl, rfl⟩ : ∃ t, words = [t] ∧ t.text = _ := by simpa [List.map_eq_cons_iff] using same
    exact (follows_address (Or.inl rfl)).2 ⟨t, rest, _, _, rfl, passes_of_address letters read, read, rfl, later⟩
  | within base wildcard =>
    obtain ⟨t, u, rfl, rfl, rfl⟩ : ∃ t u, words = [t, u] ∧ t.text = _ ∧ u.text = _ := by
      simpa [List.map_eq_cons_iff] using same
    exact (follows_address (Or.inl rfl)).2 ⟨t, _, _, _, rfl, passes_of_address letters base, base, rfl,
      (follows_address (Or.inr rfl)).2 ⟨u, rest, _, _, rfl, passes_nil _, wildcard, rfl, later⟩⟩

theorem Endpoint.SpelledBy.follows_alone {e : Endpoint} {texts : List String} (h : e.SpelledBy rivals texts)
    (letters : AreLetters rivals) (same : words.map (·.text) = texts) :
    Follows line device (e.turns rivals name) words (e.steps name) := by
  have follows : Follows line device (e.turns rivals name ++ []) (words ++ []) (e.steps name ++ []) :=
    h.follows letters same .done
  rwa [List.append_nil, List.append_nil, List.append_nil] at follows

/-- The words that follow the course of a clause spell a clause of its shape. -/
theorem Clause.exists_of_follows {c : Clause} (full : ∀ action protocol source destination,
      c = extended action protocol source destination → source.isBare = false ∧ destination.isBare = false)
    (h : Follows line device (c.turns actions) words steps) :
    ∃ c' : Clause, c'.SpelledBy actions (words.map (·.text)) ∧ steps = c'.steps := by
  have same_bare {e e' : Endpoint} (shape : e'.shape = e.shape) : e'.isBare = e.isBare := by
    rw [← e.isBare_shape, ← e'.isBare_shape, shape]
  cases c with
  | standard action source =>
    obtain ⟨w, _, _, rfl, chosen, rfl, after⟩ := follows_keyword.1 h
    rw [← List.append_nil (source.turns _ _)] at after
    obtain ⟨source', first, _, _, -, rfl, ofSource, rfl, last⟩ := Endpoint.exists_of_follows after
    obtain ⟨rfl, rfl⟩ := follows_nil.1 last
    refine ⟨standard action source', ?_, by rw [List.append_nil]; rfl⟩
    rw [List.append_nil]
    exact .standard chosen ofSource
  | extended action protocol source destination =>
    obtain ⟨w, _, _, rfl, chosen, rfl, after⟩ := follows_keyword.1 h
    obtain ⟨w', _, _, rfl, ofProtocol, rfl, sides⟩ := follows_keyword.1 after
    obtain ⟨source', first, _, _, shape, rfl, ofSource, rfl, other⟩ := Endpoint.exists_of_follows sides
    rw [← List.append_nil (destination.turns _ _)] at other
    obtain ⟨destination', second, _, _, shape', rfl, ofDestination, rfl, last⟩ := Endpoint.exists_of_follows other
    obtain ⟨rfl, rfl⟩ := follows_nil.1 last
    refine ⟨extended action protocol source' destination', ?_, by rw [List.append_nil]; rfl⟩
    rw [List.append_nil, List.map_cons, List.map_cons, List.map_append]
    obtain ⟨bare, bare'⟩ := full _ _ _ _ rfl
    exact .extended chosen ofProtocol ofSource ofDestination
      ⟨(same_bare shape).trans bare, (same_bare shape').trans bare'⟩

/-- The words that spell a clause follow its course. -/
theorem Clause.SpelledBy.follows {c : Clause} {texts : List String} (h : c.SpelledBy actions texts)
    (same : words.map (·.text) = texts) : Follows line device (c.turns actions) words c.steps := by
  cases h with
  | standard chosen ofSource =>
    obtain ⟨w, body, rfl, rfl, ofBody⟩ := List.map_eq_cons_iff.1 same
    exact .keyword chosen (ofSource.follows_alone areLetters_bodyWords ofBody)
  | extended chosen ofProtocol ofSource ofDestination =>
    obtain ⟨w, _, rfl, rfl, ofBody⟩ := List.map_eq_cons_iff.1 same
    obtain ⟨w', _, rfl, rfl, ofSides⟩ := List.map_eq_cons_iff.1 ofBody
    obtain ⟨first, second, rfl, ofFirst, ofSecond⟩ := List.map_eq_append_iff.1 ofSides
    exact .keyword chosen (.keyword ofProtocol (ofSource.follows areLetters_sideWords ofFirst
      (ofDestination.follows_alone areLetters_sideWords ofSecond)))

end Words

/-! ## The courses of the grammars -/

namespace Clause

/-- The sides of clauses with a protocol, but for their addresses. -/
def sides : List Endpoint := [.any, .host .zero, .within .zero .zero]

/-- The clauses, but for their addresses. -/
def shapes : List Clause :=
  (Vocabulary.words : List RuleAction).flatMap fun action =>
    [Endpoint.any, .host .zero, .bare .zero, .within .zero .zero].map (standard action) ++
      (Vocabulary.words : List Protocol).flatMap fun protocol =>
        sides.flatMap fun source => sides.map (extended action protocol source)

theorem shape_mem_shapes {c : Clause} {actions words : List String} (h : c.SpelledBy actions words) :
    c.shape ∈ shapes := by
  have every_action (a : RuleAction) : a ∈ Vocabulary.words := by cases a <;> decide
  have every_protocol (p : Protocol) : p ∈ Vocabulary.words := by cases p <;> decide
  have among {e : Endpoint} (full : e.isBare = false) : e.shape ∈ sides := by
    cases e with
    | bare => cases full
    | _ => simp [Endpoint.shape, sides]
  refine List.mem_flatMap.2 ?_
  cases h with
  | @standard _ action source =>
    refine ⟨action, every_action action, List.mem_append_left _ (List.mem_map_of_mem ?_)⟩
    cases source <;> simp [Endpoint.shape]
  | @extended _ _ action protocol _ _ _ _ _ _ _ _ full =>
    refine ⟨action, every_action action, List.mem_append_right _ (List.mem_flatMap.2 ⟨protocol, every_protocol _, ?_⟩)⟩
    exact List.mem_flatMap.2 ⟨_, among full.1, List.mem_map_of_mem (among full.2)⟩

theorem full_of_mem_shapes {c : Clause} (h : c ∈ shapes) (action : RuleAction) (protocol : Protocol)
    (source destination : Endpoint) (same : c = extended action protocol source destination) :
    source.isBare = false ∧ destination.isBare = false := by
  have all : (shapes.all fun c => match c with
    | standard _ _ => true
    | extended _ _ source destination => !source.isBare && !destination.isBare) = true := by decide
  have full := List.all_eq_true.1 all c h
  rw [same] at full
  simpa using full

end Clause

/-- The ways through a grammar to a verb. -/
def Node.coursesTo (n : Node) (v : Verb) : List (List Turn) :=
  n.courses.filterMap fun c => if c.1 = v then some c.2 else none

theorem Node.mem_coursesTo {n : Node} {v : Verb} {turns : List Turn} :
    turns ∈ n.coursesTo v ↔ (v, turns) ∈ n.courses := by
  unfold coursesTo
  rw [List.mem_filterMap]
  constructor
  · rintro ⟨c, hc, same⟩
    split at same
    · rename_i verb
      cases same
      exact verb ▸ hc
    · cases same
  · exact fun hc => ⟨_, hc, if_pos rfl⟩

/-- The way to the rules of a numbered list. -/
def numbering : List Turn :=
  [⟨Grammar.globalGrammar.rivals, .keyword "access-list" none⟩, ⟨[], .argument "number" .int (some 1) (some 199)⟩]

open Grammar in
theorem coursesTo_aclRule :
    aclGrammar.coursesTo .aclRule = Clause.shapes.map (Clause.turns aclGrammar.rivals) := by decide +kernel

/-- The way to a named list of a kind, recorded with its name. -/
def naming (rivals rivals' : List String) (kind : AclKind) : List Turn :=
  [⟨rivals, .keyword "ip" none⟩, ⟨rivals', .keyword "access-list" none⟩,
    ⟨["standard", "extended"], .keyword (Vocabulary.spelling kind) (some "acl_kind")⟩,
    ⟨[], .argument "name" .word none none⟩]

/-- The keywords that may come after `ip` in a mode. -/
def ipWords (mode : Mode) : List String :=
  ((Grammar.root mode .ios).children.find? (·.token = "ip")).elim [] Node.rivals

open Grammar in
theorem coursesTo_accessListNamed {mode : Mode} (config : mode.isConfig = true) :
    (root mode .ios).coursesTo .accessListNamed =
      Vocabulary.words.map (naming (root mode .ios).rivals (ipWords mode)) := by
  cases mode <;> first
    | (cases config; done)
    | decide +kernel

open Grammar in
/-- Every course begins with a keyword, and only those to the rules of numbered lists begin with `access-list`. -/
theorem courses_accessList (mode : Mode) (platform : Platform) :
    ((root mode platform).courses.all fun c => match c.2 with
      | ⟨_, .keyword token _⟩ :: _ =>
        !"access-list".toList.isPrefixOf token.toList || c.1 = .accessListNumbered
      | _ => false) = true := by
  cases platform with
  | host =>
    show (hostGrammar.courses.all _) = true
    decide +kernel
  | ios => cases mode <;> decide +kernel

open Grammar in
theorem coursesTo_accessListNumbered : globalGrammar.coursesTo .accessListNumbered =
    Clause.shapes.map fun c => numbering ++ c.turns actionWords := by decide +kernel

end NetRack
