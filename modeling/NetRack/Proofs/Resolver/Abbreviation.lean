import Mathlib.Logic.Relation
import NetRack.Proofs.LowerCase
import NetRack.Proofs.Resolver.Steps
import NetRack.Proofs.Resolver.Words

/-!
# Abbreviations

A word of a line that selects a keyword may be written longer, up to the keyword in full, or in capitals.  It
selects the same keyword, and nothing after it is read otherwise: not the rest of the line, and not the name of
an interface that is two words.
-/

namespace NetRack

/-! ## Longer words select the same keyword -/

/-- A word that abbreviates a keyword no less than another. -/
structure Lengthens (word s token : String) : Prop where
  longer : (Text.lower word).toList.length ≤ (Text.lower s).toList.length
  abbreviates : (Text.lower s).toList <+: token.toList

namespace Lengthens

variable {word s token : String}

theorem extends_word (h : Lengthens word s token) (abbreviates : (Text.lower word).toList <+: token.toList) :
    (Text.lower word).toList <+: (Text.lower s).toList :=
  List.prefix_of_prefix_length_le abbreviates h.abbreviates h.longer

/-- What abbreviates a keyword without blanks has no blanks itself. -/
theorem unbroken (h : Lengthens word s token) (hword : word.toList ≠ [])
    (htoken : ∀ c ∈ token.toList, Text.isBlank c = false) : Text.Unbroken s.toList := by
  refine ⟨fun hs => ?_, fun c hc => ?_⟩
  · obtain ⟨c, cs, hcs⟩ := List.exists_cons_of_ne_nil hword
    obtain ⟨x, rest, image, -⟩ := Text.lowerChars_cons c cs
    have short := h.longer
    rw [Text.lower_toList, Text.lower_toList, hs, hcs, image] at short
    exact absurd short (by simp [Text.lowerChars, Text.lowerAfter])
  · rw [← Bool.not_eq_true]
    intro blank
    have kept : c ∈ (Text.lower s).toList := by
      rw [Text.lower_toList]
      exact Text.mem_lowerAfter (Text.isLower_of_isBlank blank) hc
    rw [htoken c (h.abbreviates.subset kept)] at blank
    cases blank

/-- A longer word begins with a digit if the word does. -/
theorem digit (h : Lengthens word s token) (abbreviates : (Text.lower word).toList <+: token.toList)
    (hword : word.toList ≠ []) :
    s.toList.head?.any Text.isPlainDigit = word.toList.head?.any Text.isPlainDigit := by
  have begins := h.extends_word abbreviates
  rw [Text.lower_toList, Text.lower_toList] at begins
  obtain ⟨c, cs, hcs⟩ := List.exists_cons_of_ne_nil hword
  obtain ⟨x, rest, image, digit⟩ := Text.lowerChars_cons c cs
  rw [hcs, image] at begins
  cases hs : s.toList with
  | nil =>
    rw [hs] at begins
    exact absurd (List.prefix_nil.1 begins) (by simp)
  | cons d ds =>
    obtain ⟨y, rest', image', digit'⟩ := Text.lowerChars_cons d ds
    rw [hs, image'] at begins
    obtain rfl := (List.cons_prefix_cons.1 begins).1
    rw [hcs]
    exact digit'.symm.trans digit

end Lengthens

namespace Node

variable {n child : Node} {word s : String}

theorem token_of_exact {w : String} (h : n.keywords.filter (·.token = w) = [child]) : child.token = w := by
  have found : child ∈ n.keywords.filter (·.token = w) := h ▸ List.mem_singleton_self child
  exact of_decide_eq_true (List.mem_filter.1 found).2

theorem prefix_of_only {w : String}
    (h : n.keywords.filter (fun c => w.toList.isPrefixOf c.token.toList) = [child]) :
    w.toList <+: child.token.toList := by
  have found : child ∈ n.keywords.filter fun c => w.toList.isPrefixOf c.token.toList :=
    h ▸ List.mem_singleton_self child
  exact List.isPrefixOf_iff_prefix.1 (List.mem_filter.1 found).2

/-- What a word selects as a keyword is one that it abbreviates, and the only one unless it is written in full. -/
theorem select_keyword (h : n.select word = [child]) (keyword : child.isArgument = false) :
    n.keywords.filter (·.token = Text.lower word) = [child] ∨
      n.keywords.filter (·.token = Text.lower word) = [] ∧
        n.keywords.filter (fun c => (Text.lower word).toList.isPrefixOf c.token.toList) = [child] := by
  unfold select at h
  dsimp only at h
  split at h
  · rename_i exact
    exact Or.inl (exact.trans h)
  · rename_i none
    split at h
    · have argument := List.find?_some (Option.mem_toList.1 (h ▸ List.mem_singleton_self child))
      rw [keyword] at argument
      cases argument
    · refine Or.inr ⟨none, ?_⟩
      have perm := sortBy_perm (keyLe token) (n.keywords.filter fun c =>
        (Text.lower word).toList.isPrefixOf c.token.toList)
      rw [h] at perm
      exact List.perm_singleton.1 perm.symm

theorem select_of_exact (h : n.keywords.filter (·.token = Text.lower s) = [child]) : n.select s = [child] := by
  unfold select
  dsimp only
  rw [h]

theorem select_of_abbreviates (none : n.keywords.filter (·.token = Text.lower s) = [])
    (h : n.keywords.filter (fun c => (Text.lower s).toList.isPrefixOf c.token.toList) = [child]) :
    n.select s = [child] := by
  unfold select
  dsimp only
  rw [none, h]
  rfl

/-- A word abbreviates the keyword that it selects. -/
theorem abbreviates_of_select (h : n.select word = [child]) (keyword : child.isArgument = false) :
    (Text.lower word).toList <+: child.token.toList := by
  rcases select_keyword h keyword with exact | ⟨-, only⟩
  · rw [← token_of_exact exact]
  · exact prefix_of_only only

/-- A word that abbreviates the selected keyword no less selects the same. -/
theorem select_lengthens (h : n.select word = [child]) (keyword : child.isArgument = false)
    (longer : Lengthens word s child.token) : n.select s = [child] := by
  have abbreviates : (Text.lower s).toList.isPrefixOf child.token.toList = true :=
    List.isPrefixOf_iff_prefix.2 longer.abbreviates
  rcases select_keyword h keyword with exact | ⟨-, only⟩
  · -- The word is the keyword in full, and so is the other.
    have full := token_of_exact exact
    have same : Text.lower s = Text.lower word := by
      have short := longer.longer
      rw [← full] at short
      exact (String.toList_injective (longer.abbreviates.eq_of_length_le short)).trans full
    exact select_of_exact (same ▸ exact)
  · have extends_word := longer.extends_word (abbreviates_of_select h keyword)
    -- What the longer word selects is among what the word selects.
    have among (q : Node → Bool) (imp : ∀ c, q c = true → (Text.lower word).toList.isPrefixOf c.token.toList = true) :
        n.keywords.filter q = [child].filter q := by
      rw [← filter_filter_of_imp imp, only]
    have abbreviated : n.keywords.filter (fun c => (Text.lower s).toList.isPrefixOf c.token.toList) = [child] := by
      rw [among _ fun c hc => List.isPrefixOf_iff_prefix.2
        (extends_word.trans (List.isPrefixOf_iff_prefix.1 hc))]
      simp [abbreviates]
    have exact := among (fun c => decide (c.token = Text.lower s)) fun c hc => by
      rw [of_decide_eq_true hc]
      exact List.isPrefixOf_iff_prefix.2 extends_word
    by_cases full : child.token = Text.lower s
    · exact select_of_exact (exact.trans (by simp [full]))
    · exact select_of_abbreviates (exact.trans (by simp [full])) abbreviated

end Node

namespace Node

mutual

/-- Whether all nodes of a grammar have a property. -/
def all (p : Node → Bool) : Node → Bool
  | mk label verb help children => p (mk label verb help children) && allOf p children

/-- Whether all nodes of several grammars have a property. -/
def allOf (p : Node → Bool) : List Node → Bool
  | [] => true
  | n :: rest => all p n && allOf p rest

end

variable {p : Node → Bool} {n child : Node}

theorem all_self (h : n.all p = true) : p n = true := by
  cases n
  exact (Bool.and_eq_true_iff.1 h).1

theorem all_of_mem {ns : List Node} (h : allOf p ns = true) (hn : n ∈ ns) : n.all p = true := by
  induction ns with
  | nil => cases hn
  | cons m ms ih =>
    obtain ⟨hm, hms⟩ := Bool.and_eq_true_iff.1 h
    rcases List.mem_cons.1 hn with rfl | hn
    · exact hm
    · exact ih hms hn

theorem all_child (h : n.all p = true) (hc : child ∈ n.children) : child.all p = true := by
  cases n
  exact all_of_mem (Bool.and_eq_true_iff.1 h).2 hc

end Node

/-! ## Words that select keywords -/

/-- Walking a grammar over the words of a line comes to a word that selects a keyword. -/
inductive KeywordAt (device : Option Device) : Node → List Text.Word → Text.Word → String → Prop where
  | here {n child : Node} {word : Text.Word} {rest : List Text.Word} {token : String} {binds : Option String}
      (selected : n.select word.text = [child]) (label : child.label = .keyword token binds) :
      KeywordAt device n (word :: rest) word token
  | afterKeyword {n child : Node} {first word : Text.Word} {rest : List Text.Word} {before token : String}
      {binds : Option String} (selected : n.select first.text = [child]) (label : child.label = .keyword before binds)
      (later : KeywordAt device child rest word token) : KeywordAt device n (first :: rest) word token
  | afterArgument {n child : Node} {first word : Text.Word} {rest : List Text.Word} {name token : String}
      {kind : ArgKind} {low high : Option Int} {value : ArgValue} (selected : n.select first.text = [child])
      (label : child.label = .argument name kind low high) (short : kind ≠ .line)
      (accepted : Argument.read kind low high device (argumentText kind first rest) = .ok value)
      (later : KeywordAt device child (afterArgument kind first rest) word token) :
      KeywordAt device n (first :: rest) word token

/-! ## The words after one -/

section Argument

variable {line line' : List Char} {kind : ArgKind} {word word' : Text.Word} {rest rest' : List Text.Word}

/-- Whether a word can be the number of an interface of which another is the type. -/
def canBeNumber (kind : ArgKind) (word next : Text.Word) : Bool :=
  kind = .interface && isTypeWord word.text && next.text.toList.head?.any Text.isPlainDigit

theorem numberAfter?_eq : numberAfter? kind word rest = rest.head?.filter (canBeNumber kind word) := by
  cases rest <;> rfl

theorem canBeNumber_alike {next next' : Text.Word} (same : word'.text = word.text) (texts : next'.text = next.text) :
    canBeNumber kind word' next' = canBeNumber kind word next := by
  unfold canBeNumber
  rw [same, texts]

/-- Alike words are the same argument and have alike words after it. -/
theorem argument_alike (same : word'.text = word.text) (alike : List.Forall₂ (Text.Alike line line') rest rest') :
    argumentText kind word' rest' = argumentText kind word rest ∧
      List.Forall₂ (Text.Alike line line') (afterArgument kind word rest) (afterArgument kind word' rest') := by
  unfold argumentText afterArgument
  rw [numberAfter?_eq, numberAfter?_eq, same]
  cases alike with
  | nil => exact ⟨rfl, .nil⟩
  | cons first more =>
    simp only [List.head?_cons, Option.filter_some, canBeNumber_alike same first.text]
    split
    · exact ⟨by simp [first.text], more⟩
    · exact ⟨rfl, .cons first more⟩

theorem afterArgument_subset (kind : ArgKind) (word : Text.Word) (rest : List Text.Word) :
    afterArgument kind word rest ⊆ rest := by
  unfold afterArgument
  split
  · exact List.tail_subset rest
  · exact fun _ h => h

/-- Other words after an argument, or none, leave the argument alone if the first of them begins with a digit just
if the one in its place does. -/
theorem argument_before {before after : List Text.Word} {next : Text.Word}
    (h : afterArgument kind word rest = before ++ next :: after) : ∃ skipped, rest = skipped ++ next :: after ∧
      ∀ tail : List Text.Word, (∀ other ∈ tail.head?,
          other.text.toList.head?.any Text.isPlainDigit = next.text.toList.head?.any Text.isPlainDigit) →
        argumentText kind word (skipped ++ tail) = argumentText kind word rest ∧
          afterArgument kind word (skipped ++ tail) = before ++ tail := by
  unfold argumentText afterArgument at *
  simp only [numberAfter?_eq] at *
  cases rest with
  | nil => exact absurd h (by simp)
  | cons first more =>
    simp only [List.head?_cons, Option.filter_some] at h
    cases number : canBeNumber kind word first with
    | true =>
      simp only [number, if_true, Option.isSome_some, List.tail_cons] at h
      exact ⟨first :: before, by rw [h]; rfl, fun tail _ => by simp [number]⟩
    | false =>
      simp only [number, Bool.false_eq_true, if_false, Option.isSome_none] at h
      refine ⟨before, h, fun tail digit => ?_⟩
      cases before with
      | nil =>
        obtain ⟨rfl, rfl⟩ := List.cons.inj h
        cases tail with
        | nil => simp [Option.filter_some, number]
        | cons other tail =>
          have same : canBeNumber kind word other = false := by
            unfold canBeNumber at number ⊢
            rw [digit other rfl]
            exact number
          simp [Option.filter_some, number, same]
      | cons b before =>
        obtain ⟨rfl, rfl⟩ := List.cons.inj h
        simp [number]

end Argument

/-! ## Lines with alike words -/

variable {line line' : List Char} {device : Option Device} {n last : Node} {words words' : List Text.Word}
  {steps : List Step} {word : Text.Word} {s token : String}

/-- Alike words lead the same way. -/
theorem Traces.alike (h : Traces line device n words steps last)
    (alike : List.Forall₂ (Text.Alike line line') words words') : Traces line' device n words' steps last := by
  induction h generalizing words' with
  | done n =>
    cases alike
    exact .done n
  | keyword selected label later ih =>
    cases alike with
    | cons first more => exact .keyword (first.text ▸ selected) label (ih more)
  | line selected label =>
    cases alike with
    | cons first more =>
      rw [← first.rest]
      exact .line (first.text ▸ selected) label
  | argument selected label short accepted later ih =>
    cases alike with
    | cons first more =>
      obtain ⟨text, after⟩ := argument_alike first.text more
      exact .argument (first.text ▸ selected) label short (text ▸ accepted) (ih after)

/-- A word abbreviates the keyword that it comes to select. -/
theorem KeywordAt.abbreviates (h : KeywordAt device n words word token) :
    (Text.lower word.text).toList <+: token.toList := by
  induction h with
  | here selected label =>
    have found := Node.abbreviates_of_select selected (by unfold Node.isArgument; rw [label]; rfl)
    unfold Node.token at found
    rwa [label] at found
  | afterKeyword selected label later ih => exact ih
  | afterArgument selected label short accepted later ih => exact ih

theorem KeywordAt.mem (h : KeywordAt device n words word token) : word ∈ words := by
  induction h with
  | here selected label => exact List.mem_cons_self
  | afterKeyword selected label later ih => exact List.mem_cons_of_mem _ ih
  | afterArgument selected label short accepted later ih =>
    exact List.mem_cons_of_mem _ (afterArgument_subset _ _ _ ih)

/-- Whether a keyword has no blanks. -/
def Node.isPlain (n : Node) : Bool := n.isArgument || !n.token.toList.any Text.isBlank

/-- In a grammar the keywords of which have no blanks, none is selected that has. -/
theorem KeywordAt.unbroken (h : KeywordAt device n words word token)
    (plain : n.all Node.isPlain = true) :
    ∀ c ∈ token.toList, Text.isBlank c = false := by
  have onward {m child : Node} {w : String} (selected : m.select w = [child])
      (plain : m.all Node.isPlain = true) :=
    Node.all_child plain (Node.mem_children_of_select (selected ▸ List.mem_singleton_self child))
  induction h with
  | @here n child word rest token binds selected label =>
    have found := Node.all_self (onward selected plain)
    unfold Node.isPlain Node.isArgument Node.token at found
    rw [label] at found
    simpa [NodeLabel.isArgument, NodeLabel.token] using found
  | afterKeyword selected label later ih => exact ih (onward selected plain)
  | afterArgument selected label short accepted later ih => exact ih (onward selected plain)

/-- A longer word in the place of one that selects a keyword leads the same way. -/
theorem Traces.lengthen (at_word : KeywordAt device n words word token) (longer : Lengthens word.text s token)
    (some_char : word.text.toList ≠ []) (traces : Traces line device n words steps last) :
    ∃ before after, words = before ++ word :: after ∧
      ∀ line' column after', List.Forall₂ (Text.Alike line line') after after' →
        Traces line' device n (before ++ ⟨s, column⟩ :: after') steps last := by
  have digit := longer.digit at_word.abbreviates some_char
  induction at_word generalizing steps with
  | here selected label =>
    obtain ⟨later, rfl, more⟩ := traces.after_keyword selected label
    refine ⟨[], _, rfl, fun line' column after' alike => .keyword ?_ label (more.alike alike)⟩
    exact Node.select_lengthens selected (by unfold Node.isArgument; rw [label]; rfl)
      (by unfold Node.token; rwa [label])
  | afterKeyword selected label at_word ih =>
    obtain ⟨later, rfl, more⟩ := traces.after_keyword selected label
    obtain ⟨before, after, rfl, respelt⟩ := ih longer some_char more digit
    exact ⟨_ :: before, after, rfl, fun line' column after' alike =>
      .keyword selected label (respelt line' column after' alike)⟩
  | afterArgument selected label short accepted at_word ih =>
    obtain ⟨later, rfl, more⟩ := traces.after_argument selected label short accepted
    obtain ⟨before, after, heq, respelt⟩ := ih longer some_char more digit
    obtain ⟨skipped, rfl, kept⟩ := argument_before heq
    refine ⟨_ :: skipped, after, rfl, fun line' column after' alike => ?_⟩
    obtain ⟨text, rest⟩ := kept (⟨s, column⟩ :: after') (by simpa using digit)
    exact .argument selected label short (text ▸ accepted) (rest ▸ respelt line' column after' alike)

/-! ## Lines -/

/-- A line and the same line with a word that selects a keyword written longer. -/
inductive Respells (root : Node) (device : Option Device) : String → String → Prop where
  | word {line : String} {word : Text.Word} {token s : String}
      (at_word : KeywordAt device root (Text.words line) word token) (longer : Lengthens word.text s token) :
      Respells root device line (Text.respell line word s)

variable {root : Node} {a b : String} {verb : Verb}

theorem Parses.respells (plain : root.all Node.isPlain = true)
    (h : Parses root device a steps verb) (respells : Respells root device a b) : Parses root device b steps verb := by
  obtain ⟨-, last, traces, hv⟩ := h
  cases respells with
  | @word word token s at_word longer =>
    obtain ⟨before, after, hwords⟩ := List.append_of_mem at_word.mem
    obtain ⟨_, _, -, -, unbroken, -⟩ := Text.exists_around hwords
    obtain ⟨before, after, hwords, respelt⟩ := traces.lengthen at_word longer unbroken.1
    obtain ⟨after', hwords', alike⟩ :=
      Text.words_respell hwords (longer.unbroken unbroken.1 (at_word.unbroken plain))
    unfold Parses
    rw [hwords']
    exact ⟨by simp, last, respelt _ _ _ alike, hv⟩

/-- A line that resolves still resolves to the same command when words that select keywords are written
longer, in capitals or not, up to the keywords in full. -/
theorem resolve_respells (plain : root.all Node.isPlain = true)
    {offset : Int} {r : ResolvedCommand} (resolves : resolve a root device offset = .ok (some (.ok r)))
    (respells : Relation.ReflTransGen (Respells root device) a b) :
    ∃ r', resolve b root device offset = .ok (some (.ok r')) ∧ r'.verb = r.verb ∧ r'.arguments = r.arguments ∧
      r'.path = r.path := by
  obtain ⟨steps, verb, parses, gathers⟩ := parses_of_resolve resolves
  have parses' : Parses root device b steps verb := by
    induction respells with
    | refl => exact parses
    | tail _ one ih => exact ih.respells plain one
  obtain ⟨r', hr', gathers'⟩ := parses'.resolve offset
  exact ⟨r', hr', gathers'.verb.trans gathers.verb.symm, gathers'.arguments.trans gathers.arguments.symm,
    gathers'.path.trans gathers.path.symm⟩

open Grammar in
/-- The type of an interface is a word of its own and the keyword before it is abbreviated. -/
theorem resolve_respells_interface : globalGrammar.all Node.isPlain = true ∧
    (∃ r, resolve "int gi 0/0" globalGrammar none 0 = .ok (some (.ok r)) ∧
      r.path = ["interface", "GigabitEthernet0/0"]) ∧
    Respells globalGrammar none "int gi 0/0" "INTERF gi 0/0" ∧
    ∃ r, resolve "INTERF gi 0/0" globalGrammar none 0 = .ok (some (.ok r)) ∧
      r.path = ["interface", "GigabitEthernet0/0"] := by
  have plain : globalGrammar.all Node.isPlain = true := by decide +kernel
  have found : (command? (resolve "int gi 0/0" globalGrammar none 0)).any
      (·.path == ["interface", "GigabitEthernet0/0"]) = true := by decide +kernel
  have selected : (globalGrammar.select "int").map Node.label = [.keyword "interface" none] := by decide +kernel
  have words : Text.words "int gi 0/0" = ⟨"int", 0⟩ :: [⟨"gi", 4⟩, ⟨"0/0", 7⟩] := by decide
  have respelt : Text.respell "int gi 0/0" ⟨"int", 0⟩ "INTERF" = "INTERF gi 0/0" := by decide
  have longer : Lengthens "int" "INTERF" "interface" := ⟨by decide, by decide⟩
  generalize globalGrammar = root at *
  obtain ⟨r, resolves, path⟩ : ∃ r, resolve "int gi 0/0" root none 0 = .ok (some (.ok r)) ∧
      r.path = ["interface", "GigabitEthernet0/0"] := by
    obtain ⟨r, resolved, path⟩ := (Option.any_eq_true ..).1 found
    exact ⟨r, command?_eq_some.1 resolved, eq_of_beq path⟩
  have respells : Respells root none "int gi 0/0" "INTERF gi 0/0" := by
    obtain ⟨child, hchild, label⟩ := List.map_eq_singleton_iff.1 selected
    rw [← respelt]
    refine .word ?_ longer
    rw [words]
    exact .here hchild label
  obtain ⟨r', resolves', -, -, path'⟩ := resolve_respells plain resolves (.single respells)
  exact ⟨plain, ⟨r, resolves, path⟩, respells, r', resolves', path'.trans path⟩

end NetRack
