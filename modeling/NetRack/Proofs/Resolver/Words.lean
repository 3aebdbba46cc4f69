import NetRack.Proofs.Resolver.Shift

/-!
# Lines put together

A line that is put together from words with blanks between them has these words, and every line is so put
together around each of its words.  A word can be taken out of a line and another put in its place.
-/

namespace NetRack.Text

/-- Characters that make one word. -/
def Unbroken (cs : List Char) : Prop := cs ≠ [] ∧ ∀ c ∈ cs, isBlank c = false

theorem unbroken_iff {cs : List Char} : (!cs.isEmpty && cs.all (!isBlank ·)) = true ↔ Unbroken cs := by
  simp [Unbroken]

instance (cs : List Char) : Decidable (Unbroken cs) := decidable_of_iff _ unbroken_iff

/-- Characters before which a word may end. -/
def Breaks (cs : List Char) : Prop := ∀ c ∈ cs.head?, isBlank c = true

variable {n : Nat} {w cs rest : List Char}

theorem breaks_nil : Breaks [] := fun _ hc => by cases hc

theorem breaks_cons {c : Char} (h : isBlank c = true) : Breaks (c :: cs) := fun x hx => by
  obtain rfl : c = x := by simpa using hx
  exact h

/-! ## Words of a line that is put together -/

/-- Characters that are not blank go on with the word that they stand in. -/
theorem wordsFrom_run {pending : List Char} (h : ∀ c ∈ w, isBlank c = false) :
    wordsFrom n pending (w ++ rest) = wordsFrom (n + w.length) (w.reverse ++ pending) rest := by
  induction w generalizing n pending with
  | nil => rfl
  | cons c w ih =>
    rw [List.cons_append]
    conv_lhs => unfold wordsFrom
    rw [if_neg (by simp [h c (by simp)]), ih fun d hd => h d (by simp [hd])]
    simp [Nat.add_comm w.length, Nat.add_assoc]

/-- A line that begins with a word. -/
theorem wordsFrom_word (hw : Unbroken w) (hrest : Breaks rest) :
    wordsFrom n [] (w ++ rest) = ⟨String.ofList w, n⟩ :: wordsFrom (n + w.length) [] rest := by
  have finished : finishWord (n + w.length) w.reverse = [⟨String.ofList w, n⟩] := by
    unfold finishWord
    simp [hw.1]
  rw [wordsFrom_run hw.2, List.append_nil]
  cases rest with
  | nil => exact finished
  | cons c rest =>
    have blank := hrest c rfl
    unfold wordsFrom
    rw [if_pos blank, finished]
    unfold finishWord
    rw [if_pos blank]
    rfl

theorem dropWhile_isBlank (h : ∀ c ∈ cs, isBlank c = false) : cs.dropWhile isBlank = cs := by
  cases cs with
  | nil => rfl
  | cons c rest => exact List.dropWhile_cons_of_neg (by simp [h c List.mem_cons_self])

/-- There is nothing to trim around characters that are not blank. -/
theorem trimChars_eq_self (h : ∀ c ∈ cs, isBlank c = false) : trimChars cs = cs := by
  unfold trimChars trimEndChars
  rw [dropWhile_isBlank h, dropWhile_isBlank fun c hc => h c (List.mem_reverse.1 hc), List.reverse_reverse]

/-- Behind a word, only the end of a line is trimmed. -/
theorem trimChars_append {b : List Char} (hw : Unbroken w) : trimChars (w ++ b) = w ++ trimEndChars b := by
  obtain ⟨c, cs, rfl⟩ := List.exists_cons_of_ne_nil hw.1
  have first : isBlank c = false := hw.2 c List.mem_cons_self
  have last := dropWhile_isBlank fun x hx => hw.2 x (List.mem_reverse.1 hx)
  unfold trimChars
  rw [List.cons_append, List.dropWhile_cons_of_neg (by simp [first]), ← List.cons_append]
  unfold trimEndChars
  rw [List.reverse_append, List.dropWhile_append]
  split
  · rename_i none
    rw [last, List.isEmpty_iff.1 none]
    simp
  · simp

/-! ## Lines around a word -/

/-- Characters that have some words, after which another word may begin. -/
def Leaves (n : Nat) (cs : List Char) (before : List Word) : Prop :=
  ∀ rest, wordsFrom n [] (cs ++ rest) = before ++ wordsFrom (n + cs.length) [] rest

/-- A line that has words is some blanks, the first word and what begins with a blank. -/
theorem exists_first (cs : List Char) : wordsFrom n [] cs = [] ∨ ∃ blanks w rest, cs = blanks ++ (w ++ rest) ∧
    (∀ c ∈ blanks, isBlank c = true) ∧ Unbroken w ∧ Breaks rest := by
  have split := List.takeWhile_append_dropWhile (p := isBlank) (l := cs)
  have blanks : ∀ c ∈ cs.takeWhile isBlank, isBlank c = true := fun c => List.mem_takeWhile_imp
  cases hcs : cs.dropWhile isBlank with
  | nil =>
    rw [hcs, List.append_nil] at split
    rw [← split, wordsFrom_blanks blanks]
    exact Or.inl rfl
  | cons c more =>
    have hc : isBlank c = false := by
      have head := List.head_dropWhile_not isBlank (l := cs) (by simp [hcs])
      simpa [hcs] using head
    refine Or.inr ⟨_, (c :: more).takeWhile (!isBlank ·), (c :: more).dropWhile (!isBlank ·), ?_, blanks,
      ⟨by simp [hc], fun x hx => by simpa using List.mem_takeWhile_imp hx⟩, fun x hx => ?_⟩
    · rw [List.takeWhile_append_dropWhile, ← hcs, split]
    · have head := List.head?_dropWhile_not (!isBlank ·) (c :: more)
      rw [Option.mem_def.1 hx] at head
      simpa using head

/-- A line around one of its words. -/
theorem exists_around {before after : List Word} {word : Word} (h : wordsFrom n [] cs = before ++ word :: after) :
    ∃ a b, cs = a ++ (word.text.toList ++ b) ∧ word.column = n + a.length ∧ Unbroken word.text.toList ∧
      Breaks b ∧ Leaves n a before ∧ after = wordsFrom (word.column + word.text.length) [] b := by
  induction hlen : cs.length using Nat.strong_induction_on generalizing cs n before with
  | _ length ih =>
    rcases exists_first (n := n) cs with none | ⟨blanks, w, rest, rfl, hblanks, hw, hrest⟩
    · rw [none] at h
      exact absurd h (by simp)
    · have leaves (more : List Char) : wordsFrom n [] (blanks ++ more) = wordsFrom (n + blanks.length) [] more :=
        wordsFrom_blanks_append hblanks
      rw [leaves, wordsFrom_word hw hrest] at h
      cases before with
      | nil =>
        obtain ⟨rfl, rfl⟩ := List.cons.inj h
        refine ⟨blanks, rest, by simp, rfl, by simpa using hw, hrest, leaves, ?_⟩
        simp
      | cons first before =>
        obtain ⟨rfl, later⟩ := List.cons.inj h
        have shorter : rest.length < length := by
          have some_char := List.length_pos_iff.2 hw.1
          simp only [List.length_append] at hlen
          omega
        obtain ⟨a, b, rfl, column, unbroken, breaks, left, rfl⟩ := ih _ shorter later rfl
        refine ⟨blanks ++ w ++ a, b, by simp, by simp [column, Nat.add_assoc], unbroken, breaks,
          fun more => ?_, rfl⟩
        -- What follows the first word begins with a blank, which is one of those before the next word.
        have hmore : Breaks (a ++ more) := by
          cases a with
          | nil =>
            obtain ⟨c, cs, hcs⟩ := List.exists_cons_of_ne_nil unbroken.1
            have head := hrest c (by simp [hcs])
            rw [unbroken.2 c (by simp [hcs])] at head
            cases head
          | cons c a => exact breaks_cons (hrest c rfl)
        rw [List.append_assoc, List.append_assoc, leaves, wordsFrom_word hw hmore, left more]
        simp [Nat.add_assoc]

/-! ## Another word in the place of one -/

/-- A line with another word in the place of one of its words. -/
def respell (line : String) (word : Word) (s : String) : String :=
  String.ofList (line.toList.take word.column ++ (s.toList ++ line.toList.drop (word.column + word.text.length)))

/-- A word of a line and one of another that have the same text and the same rest of the line from there on. -/
structure Alike (line line' : List Char) (word word' : Word) : Prop where
  text : word'.text = word.text
  rest : lineFrom line' word'.column = lineFrom line word.column

/-- The words of the end of a line, whatever stands before it. -/
theorem wordsFrom_alike (a a' b : List Char) : List.Forall₂ (Alike (a ++ b) (a' ++ b))
    (wordsFrom a.length [] b) (wordsFrom a'.length [] b) := by
  have moved (a : List Char) : wordsFrom a.length [] b = (wordsFrom 0 [] b).map (Word.shift a.length) := by
    rw [← wordsFrom_shift (Nat.zero_le _), Nat.zero_add]
  have rest (a : List Char) (column : Nat) : lineFrom (a ++ b) (column + a.length) = lineFrom b column := by
    unfold lineFrom
    rw [Nat.add_comm, ← List.drop_drop, List.drop_left]
  rw [moved a, moved a', List.forall₂_map_left_iff, List.forall₂_map_right_iff, List.forall₂_same]
  exact fun word _ => ⟨rfl, (rest a' word.column).trans (rest a word.column).symm⟩

/-- With another word in the place of one the line has the same words before and alike words after it. -/
theorem words_respell {line s : String} {before after : List Word} {word : Word}
    (h : words line = before ++ word :: after) (hs : Unbroken s.toList) :
    ∃ after', words (respell line word s) = before ++ ⟨s, word.column⟩ :: after' ∧
      List.Forall₂ (Alike line.toList (respell line word s).toList) after after' := by
  obtain ⟨a, b, hline, column, -, breaks, leaves, hafter⟩ := exists_around h
  rw [Nat.zero_add] at column
  have respelt : (respell line word s).toList = a ++ (s.toList ++ b) := by
    unfold respell
    rw [hline, column, ← String.length_toList, ← List.drop_drop, List.take_left, List.drop_left, List.drop_left,
      String.toList_ofList]
  refine ⟨wordsFrom (a.length + s.length) [] b, ?_, ?_⟩
  · unfold words
    rw [respelt, leaves, Nat.zero_add, wordsFrom_word hs breaks, column,
      String.ofList_toList, String.length_toList]
  · rw [respelt, hline, hafter, column, ← String.length_toList, ← String.length_toList, ← List.length_append,
      ← List.length_append, ← List.append_assoc, ← List.append_assoc]
    exact wordsFrom_alike _ _ b

end NetRack.Text
