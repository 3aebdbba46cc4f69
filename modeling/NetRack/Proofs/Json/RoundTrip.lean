import NetRack.Proofs.Json.Numeral
import NetRack.Proofs.Json.Text
import NetRack.Proofs.Result

/-!
# Printed values

Plain data is read back from its text in every layout that leaves characters as they are.  The data
must have no doubles and no halves of pairs, distinct names in each object, no numbers of too many
digits, and no more brackets within each other than the reader allows.
-/

namespace NetRack.Json

variable {style : Style} {cs rest : List Char}

/-- Whether a value has neither doubles nor halves of pairs, gives no name twice in an object, and has
at most `room` brackets within each other. -/
inductive Fits : Nat → Json → Prop where
  | null {room : Nat} : Fits room null
  | bool {room : Nat} (b : Bool) : Fits room (bool b)
  | int {room : Nat} (n : Int) : Fits room (int n)
  | text {room : Nat} (s : String) : Fits room (text s)
  | array {room : Nat} {items : List Json} (inner : ∀ v ∈ items, Fits room v) : Fits (room + 1) (array items)
  | object {room : Nat} {fields : List (String × Json)} (inner : ∀ f ∈ fields, Fits room f.2)
      (names : (fields.map Prod.fst).Nodup) : Fits (room + 1) (object fields)

theorem Fits.mono {room room' : Nat} {v : Json} (h : Fits room v) (le : room ≤ room') : Fits room' v := by
  induction h generalizing room' with
  | null => exact .null
  | bool b => exact .bool b
  | int n => exact .int n
  | text s => exact .text s
  | array _ ih =>
    obtain ⟨room', rfl⟩ := Nat.exists_eq_add_one_of_ne_zero (Nat.ne_of_gt (Nat.zero_lt_of_lt le))
    exact .array fun v hv => ih v hv (Nat.le_of_succ_le_succ le)
  | object _ names ih =>
    obtain ⟨room', rfl⟩ := Nat.exists_eq_add_one_of_ne_zero (Nat.ne_of_gt (Nat.zero_lt_of_lt le))
    exact .object (fun f hf => ih f hf (Nat.le_of_succ_le_succ le)) names

/-! ## White space -/

theorem skipSpace_append (h : ∀ c ∈ cs, isSpace c = true) : skipSpace (cs ++ rest) = skipSpace rest :=
  List.dropWhile_append_of_pos h

theorem skipSpace_cons {c : Char} (h : isSpace c = false) : skipSpace (c :: rest) = c :: rest :=
  List.dropWhile_cons_of_neg (by simp [h])

theorem isSpace_of_mem_lineBreak {depth : Nat} {c : Char} (h : c ∈ lineBreak style depth) :
    isSpace c = true := by
  unfold lineBreak at h
  split at h
  · cases h
  · rcases List.mem_cons.1 h with rfl | h
    · decide
    · rw [List.eq_of_mem_replicate h]
      decide

/-- The white space of a layout between a line's end and a symbol is skipped. -/
theorem skipSpace_lineBreak {depth : Nat} {c : Char} (h : isSpace c = false) :
    skipSpace (lineBreak style depth ++ c :: rest) = c :: rest := by
  rw [skipSpace_append fun c hc => isSpace_of_mem_lineBreak hc, skipSpace_cons h]

theorem separator_eq (style : Style) (depth : Nat) :
    ∃ blanks, separator style depth = ',' :: blanks ∧ ∀ c ∈ blanks, isSpace c = true := by
  unfold separator
  split
  · split
    · exact ⟨[' '], rfl, List.forall_mem_singleton.2 rfl⟩
    · exact ⟨[], rfl, by simp⟩
  · exact ⟨_, rfl, fun c hc => isSpace_of_mem_lineBreak hc⟩

theorem colon_eq (style : Style) : ∃ blanks, colon style = ':' :: blanks ∧ ∀ c ∈ blanks, isSpace c = true := by
  unfold colon
  split
  · exact ⟨[' '], rfl, List.forall_mem_singleton.2 rfl⟩
  · exact ⟨[], rfl, by simp⟩

theorem stops_cons {c : Char} (h : c ∈ [',', ']', '}', '\n']) : Stops (c :: rest) := by
  intro d hd
  cases hd
  revert h
  simp only [List.mem_cons, List.not_mem_nil, or_false]
  rintro (rfl | rfl | rfl | rfl) <;> decide

/-- A numeral ends where an element or a bracket follows on a line of its own or on the same one. -/
theorem stops_lineBreak {depth : Nat} {c : Char} (h : c ∈ [']', '}']) :
    Stops (lineBreak style depth ++ c :: rest) := by
  unfold lineBreak
  split
  · exact stops_cons (List.mem_cons_of_mem _ (List.mem_append_left ['\n'] h))
  · exact stops_cons (by simp)

/-! ## Where a value begins -/

/-- Whether a value can begin at the front of the text. -/
def Begins (cs : List Char) : Prop := ∃ c rest, cs = c :: rest ∧ isSpace c = false ∧ c ≠ ']'

theorem Begins.append (h : Begins cs) (rest : List Char) : Begins (cs ++ rest) := by
  obtain ⟨c, cs, rfl, hc⟩ := h
  exact ⟨c, cs ++ rest, rfl, hc⟩

theorem Begins.skipSpace (h : Begins cs) : skipSpace cs = cs := by
  obtain ⟨c, cs, rfl, hc, -⟩ := h
  exact skipSpace_cons hc

theorem begins_intText (n : Int) : Begins (Text.intText n).toList := by
  obtain ⟨c, cs, digits, hc⟩ := Text.intText_front n
  refine ⟨c, cs, digits, Bool.eq_false_iff.2 fun space => ?_, ?_⟩
  · simp only [isSpace, Bool.or_eq_true, beq_iff_eq] at space
    rcases space with ((rfl | rfl) | rfl) | rfl <;> exact absurd hc (by decide)
  · rintro rfl
    exact absurd hc (by decide)

theorem Fits.begins {room depth : Nat} {v : Json} (h : Fits room v) : Begins (print style depth v) := by
  cases h with
  | null => exact ⟨'n', _, rfl, by decide, by decide⟩
  | bool b => cases b <;> exact ⟨_, _, rfl, by decide, by decide⟩
  | int n => exact begins_intText n
  | text s => exact ⟨'"', _, rfl, by decide, by decide⟩
  | @array room items _ => cases items <;> exact ⟨'[', _, rfl, by decide, by decide⟩
  | @object room fields _ _ => cases fields <;> exact ⟨'{', _, rfl, by decide, by decide⟩

/-! ## What the reader does at each symbol -/

section Reader

variable {fuel room : Nat} {tail more : List Char} {v : Json} {items : List Json} {points : List Nat}
  {done fields : List (List Nat × Json)}

theorem readValue_text (h : readText cs = .ok (points, rest)) :
    readValue (fuel + 1) room ('"' :: cs) = .ok (ofPoints points, rest) := by
  rw [readValue.eq_2, h]
  rfl

theorem readValue_array (front : Begins (skipSpace cs))
    (h : readItems fuel room (skipSpace cs) = .ok (items, rest)) :
    readValue (fuel + 1) (room + 1) ('[' :: cs) = .ok (array items, rest) := by
  obtain ⟨c, inner, eq, -, close⟩ := front
  rw [readValue.eq_4]
  rw [eq] at h ⊢
  split
  · rename_i heq
    exact absurd (List.cons.inj heq).1 close
  · rw [h]
    rfl

theorem readValue_object (front : skipSpace cs = '"' :: more)
    (h : readFields fuel room [] ('"' :: more) = .ok (fields, rest)) :
    readValue (fuel + 1) (room + 1) ('{' :: cs) = .ok (ofFields fields, rest) := by
  rw [readValue.eq_6]
  simp [front, h]

theorem readItems_last (value : readValue fuel room cs = .ok (v, tail))
    (close : skipSpace tail = ']' :: rest) : readItems (fuel + 1) room cs = .ok ([v], rest) := by
  rw [readItems.eq_2]
  simp [value, close]

theorem readItems_next (value : readValue fuel room cs = .ok (v, tail))
    (comma : skipSpace tail = ',' :: more)
    (h : readItems fuel room (skipSpace more) = .ok (items, rest)) :
    readItems (fuel + 1) room cs = .ok (v :: items, rest) := by
  rw [readItems.eq_2]
  simp [value, comma, h]

theorem readFields_last (name : readText cs = .ok (points, tail)) (mark : skipSpace tail = ':' :: more)
    {tail' : List Char} (value : readValue fuel room (skipSpace more) = .ok (v, tail'))
    (close : skipSpace tail' = '}' :: rest) :
    readFields (fuel + 1) room done ('"' :: cs) = .ok (setField points v done, rest) := by
  rw [readFields.eq_2]
  simp [name, mark, value, close]

theorem readFields_next (name : readText cs = .ok (points, tail)) (mark : skipSpace tail = ':' :: more)
    {tail' more' : List Char} (value : readValue fuel room (skipSpace more) = .ok (v, tail'))
    (comma : skipSpace tail' = ',' :: more') :
    readFields (fuel + 1) room done ('"' :: cs) =
      readFields fuel room (setField points v done) (skipSpace more') := by
  rw [readFields.eq_2]
  simp [name, mark, value, comma]

end Reader

/-! ## Elements and fields -/

/-- Whether a value is read back from its text, at whatever depth it stands and whatever follows it. -/
def ReadsBack (style : Style) (room : Nat) (v : Json) : Prop :=
  ∀ fuel depth rest, Stops rest → 2 * (print style depth v).length < fuel →
    readValue fuel room (print style depth v ++ rest) = .ok (v, rest)

section Lists

variable {room depth outer : Nat}

/-- The elements of an array are read back up to the closing bracket. -/
theorem readItems_print {v : Json} {items : List Json}
    (h : ∀ w ∈ v :: items, Fits room w ∧ ReadsBack style room w) (fuel : Nat)
    (enough : 2 * (print style depth v ++ printItems style depth items).length + 1 < fuel) :
    readItems fuel room (print style depth v ++ (printItems style depth items ++
      (lineBreak style outer ++ ']' :: rest))) = .ok (v :: items, rest) := by
  induction items generalizing v fuel with
  | nil =>
    obtain ⟨fuel, rfl⟩ := Nat.exists_eq_add_one_of_ne_zero (Nat.ne_of_gt (Nat.zero_lt_of_lt enough))
    simp only [printItems, List.append_nil, List.nil_append] at enough ⊢
    refine readItems_last ((h v (by simp)).2 fuel depth _ (stops_lineBreak (by simp)) (by omega)) ?_
    exact skipSpace_lineBreak (by decide)
  | cons w items ih =>
    obtain ⟨fuel, rfl⟩ := Nat.exists_eq_add_one_of_ne_zero (Nat.ne_of_gt (Nat.zero_lt_of_lt enough))
    obtain ⟨blanks, hsep, hblanks⟩ := separator_eq style depth
    simp only [printItems, hsep, List.cons_append, List.append_assoc, List.length_append,
      List.length_cons] at enough ⊢
    refine readItems_next ((h v (by simp)).2 fuel depth _ (stops_cons (by simp)) (by omega))
      (skipSpace_cons (by decide)) ?_
    rw [skipSpace_append hblanks, ((h w (by simp)).1.begins.append _).skipSpace]
    refine ih (fun u hu => h u (List.mem_cons_of_mem v hu)) fuel ?_
    rw [List.length_append]
    omega

/-- A field as the reader holds it. -/
def spelled (f : String × Json) : List Nat × Json := (Text.pointsOf f.1, f.2)

theorem pointsOf_injective {s t : String} (h : Text.pointsOf s = Text.pointsOf t) : s = t := by
  have := Text.ofPoints?_pointsOf s
  rw [h, Text.ofPoints?_pointsOf] at this
  exact (Option.some.inj this).symm

theorem setField_new {points : List Nat} {v : Json} {done : List (List Nat × Json)}
    (h : points ∉ done.map Prod.fst) : setField points v done = done ++ [(points, v)] := by
  refine if_neg fun known => h ?_
  obtain ⟨f, hf, same⟩ := List.any_eq_true.1 known
  exact List.mem_map.2 ⟨f, hf, of_decide_eq_true same⟩

theorem ofFields_spelled (fields : List (String × Json)) : ofFields (fields.map spelled) = object fields := by
  have named : (fields.map spelled).mapM (fun f => (Text.ofPoints? f.1).map (·, f.2)) = some fields := by
    induction fields with
    | nil => rfl
    | cons f fields ih => simp [List.mapM_cons, ih, spelled, Text.ofPoints?_pointsOf]
  rw [ofFields, named]

theorem printText_append (plain : style.asciiOnly = false) (s : String) (rest : List Char) :
    printText style s ++ rest = '"' :: (s.toList.flatMap (printChar false) ++ '"' :: rest) := by
  rw [printText, plain]
  simp

section Field

variable {fuel : Nat} {k : String} {v : Json} {done : List (List Nat × Json)} {tail more : List Char}
  (plain : style.asciiOnly = false) (fits : Fits room v) (back : ReadsBack style room v) (stops : Stops tail)
  (enough : 2 * (print style depth v).length < fuel)

include fits back stops enough

/-- The value of a printed field is read up to what follows it. -/
theorem readValue_gap {gap : List Char} (blank : ∀ c ∈ gap, isSpace c = true) :
    readValue fuel room (skipSpace (gap ++ (print style depth v ++ tail))) = .ok (v, tail) := by
  rw [skipSpace_append blank, (fits.begins.append _).skipSpace]
  exact back fuel depth tail stops enough

include plain

theorem readFields_close (close : skipSpace tail = '}' :: rest) :
    readFields (fuel + 1) room done (printText style k ++ (colon style ++ (print style depth v ++ tail))) =
      .ok (setField (Text.pointsOf k) v done, rest) := by
  obtain ⟨gap, hcolon, hgap⟩ := colon_eq style
  rw [printText_append plain, hcolon, List.cons_append]
  exact readFields_last (readText_printed k _) (skipSpace_cons (by decide))
    (readValue_gap fits back stops enough hgap) close

theorem readFields_comma (comma : skipSpace tail = ',' :: more) :
    readFields (fuel + 1) room done (printText style k ++ (colon style ++ (print style depth v ++ tail))) =
      readFields fuel room (setField (Text.pointsOf k) v done) (skipSpace more) := by
  obtain ⟨gap, hcolon, hgap⟩ := colon_eq style
  rw [printText_append plain, hcolon, List.cons_append]
  exact readFields_next (readText_printed k _) (skipSpace_cons (by decide))
    (readValue_gap fits back stops enough hgap) comma

end Field

variable (rest depth outer) in
/-- The fields of an object are read back up to the closing bracket, after those already read. -/
theorem readFields_print (plain : style.asciiOnly = false) {k : String} {v : Json}
    {fields : List (String × Json)} (done : List (List Nat × Json))
    (h : ∀ f ∈ (k, v) :: fields, Fits room f.2 ∧ ReadsBack style room f.2)
    (names : (((k, v) :: fields).map Prod.fst).Nodup)
    (new : ∀ f ∈ (k, v) :: fields, Text.pointsOf f.1 ∉ done.map Prod.fst) (fuel : Nat)
    (enough : 2 * (print style depth v ++ printFields style depth fields).length + 1 < fuel) :
    readFields fuel room done (printText style k ++ (colon style ++ (print style depth v ++
      (printFields style depth fields ++ (lineBreak style outer ++ '}' :: rest))))) =
      .ok (done ++ ((k, v) :: fields).map spelled, rest) := by
  induction fields generalizing k v done fuel with
  | nil =>
    obtain ⟨fuel, rfl⟩ := Nat.exists_eq_add_one_of_ne_zero (Nat.ne_of_gt (Nat.zero_lt_of_lt enough))
    obtain ⟨fits, back⟩ : Fits room v ∧ ReadsBack style room v := h (k, v) (by simp)
    rw [List.length_append] at enough
    rw [printFields, List.nil_append, readFields_close plain fits back (stops_lineBreak (by simp)) (by omega)
      (skipSpace_lineBreak (by decide)), setField_new (new (k, v) (by simp))]
    rfl
  | cons f fields ih =>
    obtain ⟨fuel, rfl⟩ := Nat.exists_eq_add_one_of_ne_zero (Nat.ne_of_gt (Nat.zero_lt_of_lt enough))
    obtain ⟨fits, back⟩ : Fits room v ∧ ReadsBack style room v := h (k, v) (by simp)
    obtain ⟨l, w⟩ := f
    obtain ⟨blanks, hsep, hblanks⟩ := separator_eq style depth
    simp only [printFields, hsep, List.cons_append, List.append_assoc, List.length_append,
      List.length_cons] at enough ⊢
    rw [readFields_comma plain fits back (stops_cons (by simp)) (by omega) (skipSpace_cons (by decide)),
      skipSpace_append hblanks, setField_new (new (k, v) (by simp)), printText_append plain,
      skipSpace_cons (by decide), ← printText_append plain]
    have fresh : ∀ f ∈ (l, w) :: fields, Text.pointsOf f.1 ∉ (done ++ [(Text.pointsOf k, v)]).map Prod.fst := by
      intro f hf known
      rw [List.map_append, List.mem_append] at known
      rcases known with known | known
      · exact new f (List.mem_cons_of_mem _ hf) known
      · have same : f.1 = k := pointsOf_injective (by simpa using known)
        exact (List.nodup_cons.1 names).1 (List.mem_map.2 ⟨f, hf, same⟩)
    rw [ih _ (fun f hf => h f (List.mem_cons_of_mem _ hf)) (List.nodup_cons.1 names).2 fresh fuel
      (by rw [List.length_append]; omega), List.append_assoc]
    rfl

end Lists

/-! ## Whole values -/

theorem areBrief_iff {items : List Json} : areBrief items = true ↔ ∀ v ∈ items, v.isBrief = true := by
  induction items with
  | nil => simp [areBrief]
  | cons v items ih => simp [areBrief, ih]

theorem areBriefFields_iff {fields : List (String × Json)} :
    areBriefFields fields = true ↔ ∀ f ∈ fields, f.2.isBrief = true := by
  induction fields with
  | nil => simp [areBriefFields]
  | cons f fields ih => simp [areBriefFields, ih]

theorem readValue_atom {fuel room : Nat} {c : Char} (h : c ≠ '"' ∧ c ≠ '[' ∧ c ≠ '{') :
    readValue (fuel + 1) room (c :: cs) = readAtom (c :: cs) := by
  obtain ⟨quote, bracket, brace⟩ := h
  refine readValue.eq_7 _ _ _ ?_ ?_ ?_ ?_ ?_ <;> simp_all

theorem ReadsBack.of_succ {room : Nat} {v : Json}
    (h : ∀ fuel depth rest, Stops rest → 2 * (print style depth v).length ≤ fuel →
      readValue (fuel + 1) room (print style depth v ++ rest) = .ok (v, rest)) : ReadsBack style room v := by
  intro fuel depth rest stops enough
  obtain ⟨fuel, rfl⟩ := Nat.exists_eq_add_one_of_ne_zero (Nat.ne_of_gt (Nat.zero_lt_of_lt enough))
  exact h fuel depth rest stops (by omega)

theorem readsBack_int {room : Nat} {n : Int} (brief : Text.isBrief n = true) : ReadsBack style room (int n) := by
  refine .of_succ fun fuel depth rest stops _ => ?_
  obtain ⟨c, cs, digits, hc⟩ := Text.intText_front n
  have atomic : c ≠ '"' ∧ c ≠ '[' ∧ c ≠ '{' := by
    refine ⟨?_, ?_, ?_⟩ <;> rintro rfl <;> exact absurd hc (by decide)
  rw [print, digits, List.cons_append, readValue_atom atomic, ← List.cons_append, ← digits,
    readAtom_intText brief stops]

theorem readsBack_array {room : Nat} {items : List Json}
    (h : ∀ v ∈ items, Fits room v ∧ ReadsBack style room v) : ReadsBack style (room + 1) (array items) := by
  refine .of_succ fun fuel depth rest _ enough => ?_
  cases items with
  | nil =>
    rw [print]
    rfl
  | cons v items =>
    rw [print] at enough ⊢
    simp only [List.cons_append, List.append_assoc, List.length_cons, List.length_append, List.nil_append] at enough ⊢
    have front : skipSpace (lineBreak style (depth + 1) ++ (print style (depth + 1) v ++
        (printItems style (depth + 1) items ++ (lineBreak style depth ++ ']' :: rest)))) =
        print style (depth + 1) v ++ (printItems style (depth + 1) items ++ (lineBreak style depth ++ ']' :: rest)) := by
      rw [skipSpace_append fun c hc => isSpace_of_mem_lineBreak hc,
        ((h v (by simp)).1.begins.append _).skipSpace]
    refine readValue_array ?_ ?_
    · rw [front]
      exact (h v (by simp)).1.begins.append _
    · rw [front]
      exact readItems_print h fuel (by rw [List.length_append]; omega)

theorem readsBack_object (plain : style.asciiOnly = false) {room : Nat} {fields : List (String × Json)}
    (h : ∀ f ∈ fields, Fits room f.2 ∧ ReadsBack style room f.2) (names : (fields.map Prod.fst).Nodup) :
    ReadsBack style (room + 1) (object fields) := by
  refine .of_succ fun fuel depth rest _ enough => ?_
  cases fields with
  | nil =>
    rw [print]
    rfl
  | cons f fields =>
    obtain ⟨k, v⟩ := f
    rw [print] at enough ⊢
    simp only [List.cons_append, List.append_assoc, List.length_cons, List.length_append, List.nil_append] at enough ⊢
    have read := readFields_print rest (depth + 1) depth plain [] h names (by simp) fuel
      (by rw [List.length_append]; omega)
    rw [printText_append plain] at read ⊢
    rw [readValue_object _ read, List.nil_append, ofFields_spelled]
    rw [skipSpace_append fun c hc => isSpace_of_mem_lineBreak hc, skipSpace_cons (by decide)]

/-- A value is read back from its text. -/
theorem Fits.readsBack (plain : style.asciiOnly = false) {room : Nat} {v : Json} (h : Fits room v)
    (brief : v.isBrief = true) : ReadsBack style room v := by
  induction h with
  | null => exact .of_succ fun fuel depth rest _ _ => readValue_atom (by decide)
  | bool b =>
    refine .of_succ fun fuel depth rest _ _ => ?_
    cases b <;> exact readValue_atom (by decide)
  | int n => exact readsBack_int brief
  | text s =>
    refine .of_succ fun fuel depth rest _ _ => ?_
    rw [print, printText_append plain, readValue_text (readText_printed s rest), ofPoints_pointsOf]
  | @array room items inner ih =>
    exact readsBack_array fun v hv => ⟨inner v hv, ih v hv (areBrief_iff.1 brief v hv)⟩
  | @object room fields inner names ih =>
    exact readsBack_object plain (fun f hf => ⟨inner f hf, ih f hf (areBriefFields_iff.1 brief f hf)⟩) names

end NetRack.Json
