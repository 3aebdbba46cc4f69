import NetRack.Proofs.Order
import NetRack.Proofs.Resolver.Numeral
import NetRack.Resolver.Basic

/-!
# What a walk gathers

A walk that ends at a verb has gathered an argument for every label on its way that records one, and
each of them is a value that the label allows.  A walk fails exactly if it comes to look at a word with
a numeral that has too many digits.
-/

namespace NetRack

/-! ## Labels and what they record -/

namespace NodeLabel

/-- Whether a word is recorded under a name. -/
def records (name : String) : NodeLabel → Bool
  | keyword _ binds => Text.present? binds = some name
  | argument n _ _ _ => n = name

/-- Whether a label allows a value. -/
def Allows (device : Option Device) (l : NodeLabel) (v : ArgValue) : Prop :=
  match l with
  | keyword token _ => v = .text token
  | argument _ kind low high => ∃ raw, Argument.read kind low high device raw = .ok v

end NodeLabel

/-- Every argument is one that the last label that records it allows. -/
def Arguments.Follow (device : Option Device) (trail : List NodeLabel) (args : Arguments) : Prop :=
  ∀ name, match trail.find? (·.records name) with
    | some l => ∃ v, args.get? name = some v ∧ l.Allows device v
    | none => args.get? name = none

theorem Arguments.follow_nil (device : Option Device) : Arguments.Follow device [] (∅ : Arguments) :=
  fun _ => rfl

section Follow

variable {device : Option Device} {trail : List NodeLabel} {args : Arguments}

theorem Arguments.Follow.insert (h : args.Follow device trail) {l : NodeLabel} {name : String}
    (hl : ∀ n, l.records n = decide (name = n)) {v : ArgValue} (hv : l.Allows device v) :
    Arguments.Follow device (l :: trail) (Table.insert args name v) := by
  intro n
  rw [List.find?_cons, hl, Table.get?_insert]
  by_cases hn : name = n
  · rw [if_pos hn.symm]
    simp only [hn, decide_true]
    exact ⟨v, rfl, hv⟩
  · rw [if_neg (Ne.symm hn)]
    simp only [hn, decide_false]
    exact h n

theorem Arguments.Follow.skip (h : args.Follow device trail) {l : NodeLabel}
    (hl : ∀ n, l.records n = false) : Arguments.Follow device (l :: trail) args := by
  intro n
  rw [List.find?_cons, hl]
  exact h n

end Follow

namespace Node

mutual

/-- The verbs in a grammar, each with the labels on the way to it, the last one first. -/
def ends (trail : List NodeLabel) : Node → List (Verb × List NodeLabel)
  | mk _ verb _ children => verb.toList.map (fun v => (v, trail)) ++ endsOfAll trail children

/-- The verbs in several grammars that may follow the same labels. -/
def endsOfAll (trail : List NodeLabel) : List Node → List (Verb × List NodeLabel)
  | [] => []
  | n :: rest => ends (n.label :: trail) n ++ endsOfAll trail rest

end

theorem mem_endsOfAll {trail : List NodeLabel} {ns : List Node} {n : Node} {e : Verb × List NodeLabel}
    (hn : n ∈ ns) (he : e ∈ n.ends (n.label :: trail)) : e ∈ endsOfAll trail ns := by
  induction ns with
  | nil => cases hn
  | cons m ms ih =>
    unfold endsOfAll
    rcases List.mem_cons.1 hn with rfl | hn
    · exact List.mem_append_left _ he
    · exact List.mem_append_right _ (ih hn)

theorem mem_ends_of_child {trail : List NodeLabel} {n child : Node} {e : Verb × List NodeLabel}
    (hc : child ∈ n.children) (he : e ∈ child.ends (child.label :: trail)) : e ∈ n.ends trail := by
  cases n with
  | mk label verb help children =>
    unfold ends
    exact List.mem_append_right _ (mem_endsOfAll hc he)

theorem mem_ends_of_verb {trail : List NodeLabel} {n : Node} {v : Verb} (hv : n.verb = some v) :
    (v, trail) ∈ n.ends trail := by
  cases n with
  | mk label verb help children =>
    unfold ends
    rw [show verb = some v from hv]
    exact List.mem_append_left _ (by simp)

/-- A word selects among what may follow. -/
theorem mem_children_of_select {n child : Node} {w : String} (h : child ∈ n.select w) :
    child ∈ n.children := by
  have among {p : Node → Bool} (hp : child ∈ n.keywords.filter p) : child ∈ n.children :=
    (List.mem_filter.1 (List.mem_filter.1 hp).1).1
  unfold select at h
  dsimp only at h
  split at h
  · rename_i found
    exact among (found ▸ h)
  · split at h
    · exact List.mem_of_find?_eq_some (Option.mem_toList.1 h)
    · exact among (mem_sortBy.1 h)

theorem mem_ends_of_selected {trail : List NodeLabel} {n child : Node} {word : String} {e : Verb × List NodeLabel}
    (hs : n.select word = [child]) (he : e ∈ child.ends (child.label :: trail)) : e ∈ n.ends trail :=
  mem_ends_of_child (mem_children_of_select (hs ▸ List.mem_singleton_self child)) he

end Node

/-! ## One step of a walk -/

/-- The text that is read as an argument of a kind; the name of an interface may be two words. -/
def argumentText (kind : ArgKind) (word : Text.Word) (rest : List Text.Word) : String :=
  word.text ++ ((numberAfter? kind word rest).map (·.text)).getD ""

/-- The words after an argument. -/
def afterArgument (kind : ArgKind) (word : Text.Word) (rest : List Text.Word) : List Text.Word :=
  if (numberAfter? kind word rest).isSome then rest.tail else rest

theorem length_afterArgument (kind : ArgKind) (word : Text.Word) (rest : List Text.Word) :
    (afterArgument kind word rest).length ≤ rest.length := by
  unfold afterArgument
  split
  · rw [List.length_tail]
    omega
  · exact le_refl _

/-- The induction along a walk.  A step may take two words, and what holds of a walk has to follow from what holds of
whatever an argument leads to. -/
@[elab_as_elim]
theorem Walk.induction {motive : Walk → Nat → List Text.Word → Prop}
    (done : ∀ w position, motive w position [])
    (astray : ∀ w position word rest, (∀ child, w.node.select word.text ≠ [child]) →
      motive w position (word :: rest))
    (keyword : ∀ w position word rest child token binds, w.node.select word.text = [child] →
      child.label = .keyword token binds → motive (w.keyword child token binds) (position + 1) rest →
      motive w position (word :: rest))
    (line : ∀ w position word rest child name low high, w.node.select word.text = [child] →
      child.label = .argument name .line low high → motive w position (word :: rest))
    (argument : ∀ w position word rest child name kind low high, w.node.select word.text = [child] →
      child.label = .argument name kind low high → kind ≠ .line →
      (∀ column value, motive (w.argument child name column value)
        (position + if (numberAfter? kind word rest).isSome then 2 else 1) (afterArgument kind word rest)) →
      motive w position (word :: rest))
    (w : Walk) (position : Nat) (words : List Text.Word) : motive w position words := by
  induction hn : words.length using Nat.strong_induction_on generalizing words w position with
  | _ n ih =>
    cases words with
    | nil => exact done w position
    | cons word rest =>
      rw [List.length_cons] at hn
      by_cases hs : ∃ child, w.node.select word.text = [child]
      · obtain ⟨child, hs⟩ := hs
        cases hl : child.label with
        | keyword token binds =>
          exact keyword w position word rest child token binds hs hl (ih rest.length (by omega) _ _ rest rfl)
        | argument name kind low high =>
          by_cases hk : kind = .line
          · subst hk
            exact line w position word rest child name low high hs hl
          · have shorter := length_afterArgument kind word rest
            exact argument w position word rest child name kind low high hs hl hk fun _ _ =>
              ih _ (by omega) _ _ (afterArgument kind word rest) rfl
      · exact astray w position word rest fun child hc => hs ⟨child, hc⟩

namespace LineContext

variable {c : LineContext} {w : Walk} {position : Nat} {word : Text.Word} {rest : List Text.Word} {child : Node}

theorem walk_astray (h : ∀ child, w.node.select word.text ≠ [child]) :
    ∃ e, c.walk w position (word :: rest) = .ok (.error e) := by
  unfold walk
  split
  · exact ⟨_, rfl⟩
  · exact ⟨_, rfl⟩
  · rename_i child hs
    exact absurd hs (h child)

theorem walk_keyword (hs : w.node.select word.text = [child]) {token : String} {binds : Option String}
    (hl : child.label = .keyword token binds) :
    c.walk w position (word :: rest) = c.walk (w.keyword child token binds) (position + 1) rest := by
  conv_lhs => unfold walk
  simp only [hs, hl]

variable {name : String} {kind : ArgKind} {low high : Option Int}

theorem walk_line (hs : w.node.select word.text = [child]) (hl : child.label = .argument name .line low high) :
    c.walk w position (word :: rest) = .ok (c.finish
      (w.argument child name (word.column + c.offset) (.text (lineFrom c.line word.column)))) := by
  conv_lhs => unfold walk
  simp only [hs, hl, if_true]

theorem walk_argument (hs : w.node.select word.text = [child])
    (hl : child.label = .argument name kind low high) (hk : kind ≠ .line) :
    c.walk w position (word :: rest) =
      match Argument.read kind low high c.device (argumentText kind word rest) with
      | .error .refused => .ok (c.stop .invalidArgument word position)
      | .error (.fault f) => .error f
      | .ok value => c.walk (w.argument child name (word.column + c.offset) value)
          (position + if (numberAfter? kind word rest).isSome then 2 else 1) (afterArgument kind word rest) := by
  conv_lhs => unfold walk
  simp only [hs, hl, if_neg hk]
  unfold argumentText afterArgument
  cases Argument.read kind low high c.device (word.text ++ ((numberAfter? kind word rest).map (·.text)).getD "") with
  | error e => cases e <;> rfl
  | ok value =>
    cases hn : numberAfter? kind word rest with
    | none => rfl
    | some next =>
      cases rest with
      | nil => cases hn
      | cons r rs => rfl

/-! ## Walks that end at a verb -/

theorem finish_follows {w : Walk} {r : ResolvedCommand} {trail : List NodeLabel} (hw : c.finish w = .ok r)
    (h : w.arguments.Follow c.device trail) :
    ∃ e ∈ w.node.ends trail, r.verb = e.1 ∧ r.arguments.Follow c.device e.2 := by
  unfold finish Walk.finish at hw
  cases hv : w.node.verb with
  | none =>
    rw [hv] at hw
    cases hw
  | some v =>
    rw [hv] at hw
    cases hw
    exact ⟨(v, trail), Node.mem_ends_of_verb hv, rfl, h⟩

theorem keyword_follows {w : Walk} {trail : List NodeLabel} (h : w.arguments.Follow c.device trail)
    {token : String} {binds : Option String} (hl : child.label = .keyword token binds) :
    (w.keyword child token binds).arguments.Follow c.device (child.label :: trail) := by
  rw [hl]
  unfold Walk.keyword
  dsimp only
  cases hb : Text.present? binds with
  | none =>
    refine h.skip fun n => ?_
    show decide (Text.present? binds = some n) = false
    rw [hb]
    rfl
  | some name =>
    refine h.insert (fun n => ?_) rfl
    show decide (Text.present? binds = some n) = decide (name = n)
    rw [hb]
    simp

theorem argument_follows {w : Walk} {trail : List NodeLabel} (h : w.arguments.Follow c.device trail)
    (hl : child.label = .argument name kind low high) {column : Int} {value : ArgValue} {raw : String}
    (hv : Argument.read kind low high c.device raw = .ok value) :
    (w.argument child name column value).arguments.Follow c.device (child.label :: trail) := by
  rw [hl]
  exact h.insert (fun _ => rfl) ⟨raw, hv⟩

/-- What a walk resolves to is one of the ways through the grammar, with arguments that follow it. -/
theorem walk_follows {w : Walk} {position : Nat} {words : List Text.Word} {r : ResolvedCommand}
    {trail : List NodeLabel} (hw : c.walk w position words = .ok (.ok r))
    (h : w.arguments.Follow c.device trail) :
    ∃ e ∈ w.node.ends trail, r.verb = e.1 ∧ r.arguments.Follow c.device e.2 := by
  induction w, position, words using Walk.induction generalizing trail with
  | done w position =>
    unfold walk at hw
    exact finish_follows (Except.ok.inj hw) h
  | astray w position word rest hs =>
    obtain ⟨e, he⟩ : ∃ e, c.walk w position (word :: rest) = .ok (.error e) := walk_astray hs
    rw [he] at hw
    cases hw
  | keyword w position word rest child token binds hs hl ih =>
    rw [walk_keyword hs hl] at hw
    obtain ⟨e, he, follows⟩ := ih hw (keyword_follows h hl)
    exact ⟨e, Node.mem_ends_of_selected hs he, follows⟩
  | line w position word rest child name low high hs hl =>
    rw [walk_line hs hl] at hw
    obtain ⟨e, he, follows⟩ := finish_follows (Except.ok.inj hw) (argument_follows h hl rfl)
    exact ⟨e, Node.mem_ends_of_selected hs he, follows⟩
  | argument w position word rest child name kind low high hs hl hk ih =>
    rw [walk_argument hs hl hk] at hw
    split at hw
    · cases hw
    · cases hw
    · rename_i value hread
      obtain ⟨e, he, follows⟩ := ih _ value hw (argument_follows h hl hread)
      exact ⟨e, Node.mem_ends_of_selected hs he, follows⟩

/-! ## Walks that fail -/

end LineContext

/-- Walking a grammar over the words of a line comes to look at a text as an argument of a kind. -/
inductive LooksAt (device : Option Device) : Node → List Text.Word → ArgKind → String → Prop where
  | here {node child : Node} {word : Text.Word} {rest : List Text.Word} {name : String} {kind : ArgKind}
      {low high : Option Int} (selected : node.select word.text = [child])
      (label : child.label = .argument name kind low high) (short : kind ≠ .line) :
      LooksAt device node (word :: rest) kind (argumentText kind word rest)
  | afterKeyword {node child : Node} {word : Text.Word} {rest : List Text.Word} {token : String}
      {binds : Option String} {kind : ArgKind} {raw : String} (selected : node.select word.text = [child])
      (label : child.label = .keyword token binds) (later : LooksAt device child rest kind raw) :
      LooksAt device node (word :: rest) kind raw
  | afterArgument {node child : Node} {word : Text.Word} {rest : List Text.Word} {name : String}
      {kind : ArgKind} {low high : Option Int} {value : ArgValue} {other : ArgKind} {raw : String}
      (selected : node.select word.text = [child]) (label : child.label = .argument name kind low high)
      (short : kind ≠ .line)
      (accepted : Argument.read kind low high device (argumentText kind word rest) = .ok value)
      (later : LooksAt device child (afterArgument kind word rest) other raw) :
      LooksAt device node (word :: rest) other raw

/-- Walking a grammar over the words of a line comes to look at a numeral with too many digits. -/
def MeetsOverlong (device : Option Device) (node : Node) (words : List Text.Word) : Prop :=
  ∃ kind raw, LooksAt device node words kind raw ∧ Argument.Overlong kind device raw

section MeetsOverlong

variable {device : Option Device} {node child : Node} {word : Text.Word} {rest : List Text.Word}

theorem not_meetsOverlong_nil : ¬MeetsOverlong device node [] := by
  rintro ⟨kind, raw, hlooks, -⟩
  cases hlooks

theorem not_meetsOverlong_astray (hs : ∀ child, node.select word.text ≠ [child]) :
    ¬MeetsOverlong device node (word :: rest) := by
  rintro ⟨kind, raw, hlooks, -⟩
  cases hlooks with
  | here selected => exact hs _ selected
  | afterKeyword selected => exact hs _ selected
  | afterArgument selected => exact hs _ selected

variable (hs : node.select word.text = [child])

include hs

theorem meetsOverlong_keyword {token : String} {binds : Option String}
    (hl : child.label = .keyword token binds) :
    MeetsOverlong device node (word :: rest) ↔ MeetsOverlong device child rest := by
  constructor
  · rintro ⟨kind, raw, hlooks, hlong⟩
    cases hlooks with
    | here selected label =>
      obtain rfl := List.singleton_inj.1 (hs.symm.trans selected)
      rw [hl] at label
      cases label
    | afterKeyword selected label later =>
      obtain rfl := List.singleton_inj.1 (hs.symm.trans selected)
      exact ⟨kind, raw, later, hlong⟩
    | afterArgument selected label =>
      obtain rfl := List.singleton_inj.1 (hs.symm.trans selected)
      rw [hl] at label
      cases label
  · rintro ⟨kind, raw, hlooks, hlong⟩
    exact ⟨kind, raw, .afterKeyword hs hl hlooks, hlong⟩

variable {name : String} {kind : ArgKind} {low high : Option Int}
  (hl : child.label = .argument name kind low high)

include hl

theorem meetsOverlong_argument : MeetsOverlong device node (word :: rest) ↔ kind ≠ .line ∧
    (Argument.Overlong kind device (argumentText kind word rest) ∨
      ∃ value, Argument.read kind low high device (argumentText kind word rest) = .ok value ∧
        MeetsOverlong device child (afterArgument kind word rest)) := by
  constructor
  · rintro ⟨other, raw, hlooks, hlong⟩
    cases hlooks with
    | here selected label short =>
      obtain rfl := List.singleton_inj.1 (hs.symm.trans selected)
      rw [hl] at label
      cases label
      exact ⟨short, Or.inl hlong⟩
    | afterKeyword selected label =>
      obtain rfl := List.singleton_inj.1 (hs.symm.trans selected)
      rw [hl] at label
      cases label
    | afterArgument selected label short accepted later =>
      obtain rfl := List.singleton_inj.1 (hs.symm.trans selected)
      rw [hl] at label
      cases label
      exact ⟨short, Or.inr ⟨_, accepted, other, raw, later, hlong⟩⟩
  · rintro ⟨short, hlong | ⟨value, accepted, other, raw, later, hlong⟩⟩
    · exact ⟨kind, _, .here hs hl short, hlong⟩
    · exact ⟨other, raw, .afterArgument hs hl short accepted later, hlong⟩

end MeetsOverlong

/-- A walk fails exactly if it comes to look at a numeral with too many digits. -/
theorem LineContext.walk_error_iff {c : LineContext} {w : Walk} {position : Nat} {words : List Text.Word}
    {f : Fault} :
    c.walk w position words = .error f ↔ MeetsOverlong c.device w.node words ∧ f = .badNumber := by
  induction w, position, words using Walk.induction with
  | done w position =>
    unfold walk
    exact ⟨(fun h => by cases h), fun h => absurd h.1 not_meetsOverlong_nil⟩
  | astray w position word rest hs =>
    obtain ⟨e, he⟩ : ∃ e, c.walk w position (word :: rest) = .ok (.error e) := walk_astray hs
    rw [he]
    exact ⟨(fun h => by cases h), fun h => absurd h.1 (not_meetsOverlong_astray hs)⟩
  | keyword w position word rest child token binds hs hl ih =>
    rw [walk_keyword hs hl, meetsOverlong_keyword hs hl]
    exact ih
  | line w position word rest child name low high hs hl =>
    rw [walk_line hs hl, meetsOverlong_argument hs hl]
    exact ⟨(fun h => by cases h), fun h => absurd rfl h.1.1⟩
  | argument w position word rest child name kind low high hs hl hk ih =>
    have fault (g : Fault) : Argument.read kind low high c.device (argumentText kind word rest) =
        .error (.fault g) ↔ _ := Argument.read_fault_iff
    rw [walk_argument hs hl hk, meetsOverlong_argument hs hl]
    cases hread : Argument.read kind low high c.device (argumentText kind word rest) with
    | error e =>
      rw [hread] at fault
      cases e with
      | refused =>
        refine ⟨(fun h => by cases h), ?_⟩
        rintro ⟨⟨-, hlong | ⟨value, hv, -⟩⟩, hf⟩
        · cases (fault f).2 ⟨hlong, hf⟩
        · cases hv
      | fault g =>
        obtain ⟨hlong, rfl⟩ := (fault g).1 rfl
        exact ⟨fun h => ⟨⟨hk, Or.inl hlong⟩, (Except.error.inj h).symm⟩, fun h => by rw [h.2]⟩
    | ok value =>
      refine (ih _ value).trans (and_congr_left fun hf => ?_)
      constructor
      · exact fun h => ⟨hk, Or.inr ⟨value, rfl, h⟩⟩
      · rintro ⟨-, hlong | ⟨-, -, h⟩⟩
        · have fails := (fault .badNumber).2 ⟨hlong, rfl⟩
          rw [hread] at fails
          cases fails
        · exact h

/-! ## Lines -/

variable {line : String} {root : Node} {device : Option Device} {offset : Int}

/-- A line does not resolve for a cause exactly if a numeral with too many digits is looked at. -/
theorem resolve_error_iff {f : Fault} : resolve line root device offset = .error f ↔
    MeetsOverlong device root (Text.words line) ∧ f = .badNumber := by
  unfold resolve
  dsimp only
  cases hw : (Text.words line).getLast? with
  | none =>
    rw [List.getLast?_eq_none_iff] at hw
    rw [hw]
    exact ⟨(fun h => by cases h), fun h => absurd h.1 not_meetsOverlong_nil⟩
  | some last => exact map_eq_error.trans LineContext.walk_error_iff

/-- The command that a line resolves to, if it does. -/
def command? : Except Fault (Option Resolution) → Option ResolvedCommand
  | .ok (some (.ok r)) => some r
  | _ => none

/-- The error of a line that does not resolve. -/
def mistake? : Except Fault (Option Resolution) → Option ResolutionError
  | .ok (some (.error e)) => some e
  | _ => none

theorem command?_eq_some {x : Except Fault (Option Resolution)} {r : ResolvedCommand} :
    command? x = some r ↔ x = .ok (some (.ok r)) := by
  rcases x with f | _ | e | r <;> simp [command?]

theorem mistake?_eq_some {x : Except Fault (Option Resolution)} {e : ResolutionError} :
    mistake? x = some e ↔ x = .ok (some (.error e)) := by
  rcases x with f | _ | e | r <;> simp [mistake?]

/-- The context of a line that is resolved for a device, with columns counted from an offset. -/
structure LineContext.IsOf (c : LineContext) (line : String) (device : Option Device) (offset : Int) : Prop where
  chars : c.line = line.toList
  device : c.device = device
  offset : c.offset = offset
  last : (Text.words line)[c.lastPosition]? = some c.last
  lastPosition : c.lastPosition + 1 = (Text.words line).length

/-- What a line with words resolves to is a walk over them. -/
theorem resolve_eq_walk (root : Node) (device : Option Device) (offset : Int) (h : Text.words line ≠ []) :
    ∃ c : LineContext, c.IsOf line device offset ∧
      resolve line root device offset = some <$> c.walk { node := root } 0 (Text.words line) := by
  have some_words := List.length_pos_iff.2 h
  refine ⟨⟨line.toList, device, offset, (Text.words line).getLast h, (Text.words line).length - 1⟩,
    ⟨rfl, rfl, rfl, ?_, ?_⟩, ?_⟩
  · rw [← List.getLast?_eq_getElem?, List.getLast?_eq_some_getLast h]
  · dsimp only
    omega
  · unfold resolve
    dsimp only
    rw [List.getLast?_eq_some_getLast h]

/-- What a line resolves to is what a walk over its words comes to. -/
theorem walk_of_resolve {x : Resolution} (h : resolve line root device offset = .ok (some x)) :
    ∃ c : LineContext, c.IsOf line device offset ∧ c.walk { node := root } 0 (Text.words line) = .ok x := by
  have some_words : Text.words line ≠ [] := by
    intro none
    unfold resolve at h
    rw [none] at h
    cases h
  obtain ⟨c, hc, walked⟩ := resolve_eq_walk root device offset some_words
  rw [walked] at h
  obtain ⟨x, hx, heq⟩ := map_eq_ok.1 h
  cases heq
  exact ⟨c, hc, hx⟩

/-- What a line resolves to is a way through the grammar, with arguments that follow it. -/
theorem resolve_follows {r : ResolvedCommand} (h : resolve line root device offset = .ok (some (.ok r))) :
    ∃ e ∈ root.ends [], r.verb = e.1 ∧ r.arguments.Follow device e.2 := by
  obtain ⟨c, hc, hwalk⟩ := walk_of_resolve h
  rw [← hc.device]
  exact LineContext.walk_follows hwalk (Arguments.follow_nil _)

/-- A line whose first word selects a keyword resolves to a verb beyond that keyword. -/
theorem resolve_beyond {r : ResolvedCommand} (h : resolve line root device offset = .ok (some (.ok r)))
    {word : Text.Word} {rest : List Text.Word} (hw : Text.words line = word :: rest) {child : Node}
    (hs : root.select word.text = [child]) {token : String} {binds : Option String}
    (hl : child.label = .keyword token binds) : ∃ e ∈ child.ends [child.label], r.verb = e.1 := by
  obtain ⟨c, -, hwalk⟩ := walk_of_resolve h
  rw [hw, LineContext.walk_keyword hs hl] at hwalk
  have follows := LineContext.keyword_follows (w := { node := root }) (Arguments.follow_nil c.device) hl
  obtain ⟨e, he, hverb, -⟩ := LineContext.walk_follows hwalk follows
  exact ⟨e, he, hverb⟩

end NetRack
