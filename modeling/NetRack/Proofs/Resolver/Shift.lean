import NetRack.Proofs.Frame.Line
import Mathlib.Data.List.DropRight

/-!
# A line within a line

A line that stands within another, or has blanks around it, has the same words in other columns.  It
resolves to the same, or goes wrong at the same word for the same reason: nothing but columns is told by
where the line stands.
-/

namespace NetRack

/-! ## Words in other columns -/

namespace Text

/-- A word that stands further on. -/
def Word.shift (k : Nat) (w : Word) : Word := { w with column := w.column + k }

theorem finishWord_shift {k n : Nat} {pending : List Char} (h : pending.length ≤ n) :
    finishWord (n + k) pending = (finishWord n pending).map (Word.shift k) := by
  unfold finishWord
  split
  · rfl
  · rw [Nat.sub_add_comm h]
    rfl

/-- Words of a line that starts further on are further on. -/
theorem wordsFrom_shift {k n : Nat} {pending cs : List Char} (h : pending.length ≤ n) :
    wordsFrom (n + k) pending cs = (wordsFrom n pending cs).map (Word.shift k) := by
  induction cs generalizing n pending with
  | nil => exact finishWord_shift h
  | cons c rest ih =>
    unfold wordsFrom
    split
    · rw [finishWord_shift h, Nat.add_right_comm, ih (Nat.zero_le _), List.map_append]
    · rw [Nat.add_right_comm, ih (by simpa using h)]

theorem wordsFrom_blanks {n : Nat} {pending blanks : List Char} (h : ∀ c ∈ blanks, isBlank c = true) :
    wordsFrom n pending blanks = finishWord n pending := by
  induction blanks generalizing n pending with
  | nil => rfl
  | cons c rest ih =>
    unfold wordsFrom
    rw [if_pos (h c (by simp)), ih fun d hd => h d (by simp [hd])]
    exact List.append_nil _

/-- Blanks after a line make no words. -/
theorem wordsFrom_append_blanks {n : Nat} {pending cs blanks : List Char} (h : ∀ c ∈ blanks, isBlank c = true) :
    wordsFrom n pending (cs ++ blanks) = wordsFrom n pending cs := by
  induction cs generalizing n pending with
  | nil => exact wordsFrom_blanks h
  | cons c rest ih =>
    rw [List.cons_append]
    unfold wordsFrom
    rw [ih, ih]

/-- Blanks before a line move its words. -/
theorem wordsFrom_blanks_append {n : Nat} {blanks cs : List Char} (h : ∀ c ∈ blanks, isBlank c = true) :
    wordsFrom n [] (blanks ++ cs) = wordsFrom (n + blanks.length) [] cs := by
  induction blanks generalizing n with
  | nil => rfl
  | cons c rest ih =>
    rw [List.cons_append, List.length_cons]
    conv_lhs => unfold wordsFrom
    rw [if_pos (h c (by simp)), ih fun d hd => h d (by simp [hd]), Nat.add_right_comm n 1]
    rfl

/-- A line that begins within a word begins with that word. -/
theorem wordsFrom_pending {n : Nat} {pending cs : List Char} (h : pending ≠ []) :
    ∃ text rest, wordsFrom n pending cs = ⟨text, n - pending.length⟩ :: rest := by
  induction cs generalizing n pending with
  | nil =>
    unfold wordsFrom finishWord
    rw [if_neg (by simpa using h)]
    exact ⟨_, _, rfl⟩
  | cons c rest ih =>
    unfold wordsFrom
    split
    · unfold finishWord
      rw [if_neg (by simpa using h)]
      exact ⟨_, _, rfl⟩
    · obtain ⟨text, rest, heq⟩ := @ih (n + 1) (c :: pending) (List.cons_ne_nil _ _)
      refine ⟨text, rest, heq.trans ?_⟩
      rw [List.length_cons, Nat.add_sub_add_right]

/-- A line with a character that is not blank has a word. -/
theorem words_of_not_blank {s : String} (h : ∃ c ∈ s.toList, isBlank c = false) :
    ∃ word rest, words s = word :: rest := by
  obtain ⟨c, hc, blank⟩ := h
  have some_word : ∀ (cs pending : List Char) (n : Nat), c ∈ cs → wordsFrom n pending cs ≠ [] := by
    intro cs
    induction cs with
    | nil => intro pending n hc; cases hc
    | cons x cs ih =>
      intro pending n hc
      unfold wordsFrom
      split
      · rename_i hx
        rcases List.mem_cons.1 hc with rfl | hc
        · rw [blank] at hx
          cases hx
        · exact fun hnil => ih [] (n + 1) hc (List.append_eq_nil_iff.1 hnil).2
      · obtain ⟨text, rest, heq⟩ := @wordsFrom_pending (n + 1) _ cs (List.cons_ne_nil x pending)
        rw [heq]
        exact List.cons_ne_nil _ _
  exact List.exists_cons_of_ne_nil (some_word s.toList [] 0 hc)

/-! ## Blanks around a line -/

/-- A line is the blanks before it, the line without blanks around it and the blanks after it. -/
theorem exists_trimChars (cs : List Char) : ∃ before after : List Char, (∀ c ∈ before, isBlank c = true) ∧
    (∀ c ∈ after, isBlank c = true) ∧ cs = before ++ trimChars cs ++ after := by
  refine ⟨cs.takeWhile isBlank, (cs.dropWhile isBlank).rtakeWhile isBlank, fun c => List.mem_takeWhile_imp,
    fun c => List.mem_rtakeWhile_imp, ?_⟩
  rw [List.append_assoc, show trimChars cs = (cs.dropWhile isBlank).rdropWhile isBlank from rfl,
    List.rdropWhile_append_rtakeWhile, List.takeWhile_append_dropWhile]

theorem trimEndChars_append_blanks {cs blanks : List Char} (h : ∀ c ∈ blanks, isBlank c = true) :
    trimEndChars (cs ++ blanks) = trimEndChars cs := by
  unfold trimEndChars
  rw [List.reverse_append, List.dropWhile_append_of_pos fun c hc => h c (List.mem_reverse.1 hc)]

/-- Blanks after a line do not count. -/
theorem trimChars_append_blanks {cs blanks : List Char} (h : ∀ c ∈ blanks, isBlank c = true) :
    trimChars (cs ++ blanks) = trimChars cs := by
  unfold trimChars
  rw [List.dropWhile_append]
  split
  · rename_i hnil
    have all : blanks.dropWhile isBlank = [] := List.dropWhile_eq_nil_iff.2 h
    rw [all, List.isEmpty_iff.1 hnil]
  · exact trimEndChars_append_blanks h

theorem trimChars_dropWhile (cs : List Char) : trimChars (cs.dropWhile isBlank) = trimChars cs := by
  unfold trimChars
  rw [List.dropWhile_idempotent]

/-- The words of a line are those of the line without blanks around it, further on by the blanks before. -/
theorem words_trim (s : String) : ∃ k, words s = (words (trim s)).map (Word.shift k) ∧
    ∀ column, lineFrom s.toList (column + k) = lineFrom (trim s).toList column := by
  obtain ⟨before, after, hbefore, hafter, heq⟩ := exists_trimChars s.toList
  have chars : (trim s).toList = trimChars s.toList := String.toList_ofList
  refine ⟨before.length, ?_, fun column => ?_⟩
  · unfold words
    rw [chars]
    conv_lhs => rw [heq]
    rw [wordsFrom_append_blanks hafter, wordsFrom_blanks_append hbefore]
    exact wordsFrom_shift (Nat.zero_le _)
  · unfold lineFrom
    rw [chars]
    conv_lhs => rw [heq]
    rw [List.append_assoc, Nat.add_comm, ← List.drop_drop, List.drop_left, List.drop_append,
      trimChars_append_blanks fun c hc => hafter c (List.mem_of_mem_drop hc)]

/-- A line that begins with a word has that word where it begins. -/
theorem wordsFrom_head {n : Nat} {c : Char} {cs : List Char} (h : isBlank c = false) {word : Word}
    {rest : List Word} (hw : wordsFrom n [] (c :: cs) = word :: rest) : word.column = n := by
  unfold wordsFrom at hw
  rw [if_neg (by simp [h])] at hw
  obtain ⟨text, more, heq⟩ := @wordsFrom_pending (n + 1) _ cs (List.cons_ne_nil c [])
  rw [heq] at hw
  rw [← (List.cons.inj hw).1]
  simp

/-- The rest of a line from its first word on is the line without blanks around it. -/
theorem lineFrom_first {s : String} {word : Word} {rest : List Word} (h : words s = word :: rest) :
    lineFrom s.toList word.column = trim s := by
  have split := List.takeWhile_append_dropWhile (p := isBlank) (l := s.toList)
  have blanks : ∀ c ∈ s.toList.takeWhile isBlank, isBlank c = true := fun c => List.mem_takeWhile_imp
  have first : word.column = (s.toList.takeWhile isBlank).length := by
    unfold words at h
    rw [← split, wordsFrom_blanks_append blanks, Nat.zero_add] at h
    cases hrest : s.toList.dropWhile isBlank with
    | nil =>
      rw [hrest] at h
      cases h
    | cons c cs =>
      have hc : isBlank c = false := by
        have := List.head_dropWhile_not isBlank (l := s.toList) (by simp [hrest])
        simpa [hrest] using this
      rw [hrest] at h
      exact wordsFrom_head hc h
  have dropped : s.toList.drop word.column = s.toList.dropWhile isBlank := by
    rw [first]
    conv_lhs =>
      arg 2
      rw [← split]
    exact List.drop_left
  unfold lineFrom trim
  rw [dropped, trimChars_dropWhile]

end Text

/-! ## Walks -/

/-- A walk without its columns. -/
def Walk.bare (w : Walk) : Walk := { w with columns := ∅ }

/-- What a line resolves to, without columns. -/
def Resolution.bare : Resolution → Resolution
  | .ok r => .ok { r with columns := ∅ }
  | .error e => .error { e with column := 0 }

namespace LineContext

/-- A line has the words of another so many columns further on, and arguments are read alike. -/
structure Shifts (k : Nat) (c c' : LineContext) : Prop where
  rest : ∀ column, lineFrom c'.line (column + k) = lineFrom c.line column
  read : ∀ kind low high raw, Argument.read kind low high c'.device raw = Argument.read kind low high c.device raw
  last : c'.last.text = c.last.text
  lastPosition : c'.lastPosition = c.lastPosition

variable {k : Nat} {c c' : LineContext} {w w' : Walk}

theorem finish_shift (h : c.Shifts k c') (hw : w'.bare = w.bare) :
    Resolution.bare (c'.finish w') = Resolution.bare (c.finish w) := by
  obtain ⟨hnode, harguments, -, hpath⟩ := Walk.mk.inj hw
  unfold finish Walk.finish
  rw [hnode, h.last, h.lastPosition]
  cases w.node.verb with
  | none => rfl
  | some v =>
    rw [harguments, hpath]
    rfl

theorem keyword_bare (hw : w'.bare = w.bare) (node : Node) (token : String) (binds : Option String) :
    (w'.keyword node token binds).bare = (w.keyword node token binds).bare := by
  obtain ⟨-, harguments, -, hpath⟩ := Walk.mk.inj hw
  unfold Walk.keyword Walk.bare
  rw [harguments, hpath]

theorem argument_bare (hw : w'.bare = w.bare) (node : Node) (name : String) (column column' : Int)
    (value : ArgValue) : (w'.argument node name column' value).bare = (w.argument node name column value).bare := by
  obtain ⟨-, harguments, -, hpath⟩ := Walk.mk.inj hw
  unfold Walk.argument Walk.bare
  rw [harguments, hpath]

end LineContext

theorem numberAfter?_shift (k : Nat) (kind : ArgKind) (word : Text.Word) (rest : List Text.Word) :
    numberAfter? kind (word.shift k) (rest.map (Text.Word.shift k)) =
      (numberAfter? kind word rest).map (Text.Word.shift k) := by
  unfold numberAfter?
  cases rest with
  | nil => rfl
  | cons next rest =>
    dsimp only [List.map_cons]
    rw [apply_ite (Option.map (Text.Word.shift k))]
    rfl

theorem argumentText_shift (k : Nat) (kind : ArgKind) (word : Text.Word) (rest : List Text.Word) :
    argumentText kind (word.shift k) (rest.map (Text.Word.shift k)) = argumentText kind word rest := by
  unfold argumentText
  rw [numberAfter?_shift]
  cases numberAfter? kind word rest <;> rfl

theorem afterArgument_shift (k : Nat) (kind : ArgKind) (word : Text.Word) (rest : List Text.Word) :
    afterArgument kind (word.shift k) (rest.map (Text.Word.shift k)) =
      (afterArgument kind word rest).map (Text.Word.shift k) := by
  unfold afterArgument
  rw [numberAfter?_shift, Option.isSome_map, ← List.map_tail]
  split <;> rfl

/-- A walk over words that stand further on resolves to the same. -/
theorem LineContext.walk_shift {k : Nat} {c c' : LineContext} (h : c.Shifts k c') {w w' : Walk}
    (hw : w'.bare = w.bare) (position : Nat) (words : List Text.Word) :
    Resolution.bare <$> c'.walk w' position (words.map (Text.Word.shift k)) =
      Resolution.bare <$> c.walk w position words := by
  induction w, position, words using Walk.induction generalizing w' with
  | done w position =>
    unfold walk
    exact congrArg Except.ok (finish_shift h hw)
  | astray w position word rest hs =>
    have hnode : w'.node = w.node := (Walk.mk.inj hw).1
    rw [List.map_cons]
    unfold walk
    rw [show w'.node.select (word.shift k).text = w.node.select word.text by rw [hnode]; rfl]
    split
    · rfl
    · rfl
    · rename_i child hc
      exact absurd hc (hs child)
  | keyword w position word rest child token binds hs hl ih =>
    have hs' : w'.node.select (word.shift k).text = [child] := (Walk.mk.inj hw).1 ▸ hs
    rw [List.map_cons, walk_keyword hs hl, walk_keyword hs' hl]
    exact ih (keyword_bare hw child token binds)
  | line w position word rest child name low high hs hl =>
    have hs' : w'.node.select (word.shift k).text = [child] := (Walk.mk.inj hw).1 ▸ hs
    rw [List.map_cons, walk_line hs hl, walk_line hs' hl]
    refine congrArg Except.ok (finish_shift h ?_)
    rw [show lineFrom c'.line (word.shift k).column = _ from h.rest word.column]
    exact argument_bare hw ..
  | argument w position word rest child name kind low high hs hl hk ih =>
    have hs' : w'.node.select (word.shift k).text = [child] := (Walk.mk.inj hw).1 ▸ hs
    rw [List.map_cons, walk_argument hs hl hk, walk_argument hs' hl hk, argumentText_shift, afterArgument_shift,
      numberAfter?_shift, Option.isSome_map, h.read]
    split
    · rfl
    · rfl
    · exact ih _ _ (argument_bare hw ..)

/-! ## Lines -/

/-- A line without blanks around it resolves to what the line resolves to, wherever either stands. -/
theorem resolve_trim {d d' : Device} (same : d.SameNames d') (line : String) (root : Node) (offset offset' : Int) :
    Option.map Resolution.bare <$> resolve line root (some d') offset' =
      Option.map Resolution.bare <$> resolve (Text.trim line) root (some d) offset := by
  obtain ⟨k, hwords, hrest⟩ := Text.words_trim line
  unfold resolve
  dsimp only
  rw [hwords, List.getLast?_map]
  cases hlast : (Text.words (Text.trim line)).getLast? with
  | none => rfl
  | some last =>
    have shifts : LineContext.Shifts k
        ⟨(Text.trim line).toList, some d, offset, last, (Text.words (Text.trim line)).length - 1⟩
        ⟨line.toList, some d', offset', last.shift k,
          ((Text.words (Text.trim line)).map (Text.Word.shift k)).length - 1⟩ :=
      ⟨hrest, Argument.read_congr same, rfl, by rw [List.length_map]⟩
    have walks := LineContext.walk_shift shifts (w := { node := root }) rfl 0 (Text.words (Text.trim line))
    have given {x x' : Except Fault Resolution} (h : Resolution.bare <$> x' = Resolution.bare <$> x) :
        Option.map Resolution.bare <$> (some <$> x') = Option.map Resolution.bare <$> (some <$> x) := by
      rcases map_eq_map h with ⟨f, rfl, rfl⟩ | ⟨r, r', rfl, rfl, hr⟩
      · rfl
      · exact congrArg (fun r => Except.ok (some r)) hr
    exact given walks

namespace Console

/-- A failure without columns. -/
def bareFailure : Failure → Failure
  | .unresolved e => .unresolved { e with column := 0 }
  | f => f

/-- What a line asks for, without columns. -/
def bareRequest : Request → Request
  | .runExec payload _ => .runExec payload 0
  | r => r

theorem request_bare (r r' : ResolvedCommand) (h : Resolution.bare (.ok r) = Resolution.bare (.ok r')) :
    bareRequest <$> r.request = bareRequest <$> r'.request := by
  obtain ⟨verb, arguments, path, columns⟩ := r
  obtain ⟨verb', arguments', path', columns'⟩ := r'
  obtain ⟨rfl, rfl, rfl, -⟩ := ResolvedCommand.mk.inj (Except.ok.inj h)
  unfold ResolvedCommand.request
  dsimp only
  split
  · show bareRequest <$> (ResolvedCommand.text ⟨verb, arguments, path, columns⟩ "command" >>= _) =
      bareRequest <$> (ResolvedCommand.text ⟨verb, arguments, path, columns⟩ "command" >>= _)
    cases ResolvedCommand.text ⟨verb, arguments, path, columns⟩ "command" <;> rfl
  · rfl

/-- What a line asks for does not depend on where the line stands and on the blanks around it. -/
theorem request?_trim {d d' : Device} (same : d.SameNames d') (line : String) (mode : Mode)
    (offset offset' : Int) :
    (Option.map bareRequest <$> request? d' line mode offset').mapError bareFailure =
      (Option.map bareRequest <$> request? d (Text.trim line) mode offset).mapError bareFailure := by
  have platforms : platform d' = platform d := by
    unfold platform Device.isA
    rw [same.type]
  unfold request?
  rw [platforms]
  rcases map_eq_map (resolve_trim same line (Grammar.root mode (platform d)) offset offset') with
    ⟨f, hx, hx'⟩ | ⟨x, x', hx, hx', alike⟩
  · rw [hx, hx']
  · rw [hx, hx', liftM_ok, ok_bind, liftM_ok, ok_bind]
    cases x with
    | none =>
      cases x' with
      | none => rfl
      | some y => cases alike
    | some x =>
      cases x' with
      | none => cases alike
      | some x' =>
        have alike := Option.some.inj alike
        cases x with
        | error e =>
          cases x' with
          | ok r' => cases alike
          | error e' => exact congrArg (fun e => Except.error (Failure.unresolved e)) (Except.error.inj alike)
        | ok r =>
          cases x' with
          | error e' => cases alike
          | ok r' =>
            dsimp only
            rcases map_eq_map (request_bare r r' alike) with ⟨f, hq, hq'⟩ | ⟨q, q', hq, hq', bare⟩
            · rw [hq, hq']
            · rw [hq, hq']
              exact congrArg (fun q => Except.ok (some q)) bare

end Console

end NetRack
