import NetRack.Proofs.AccessList.Entering

/-!
# Entering a configuration again

The lines that the access lists of a device are printed as make the same lists at a device that has none, but for those
whose name is a number and says something else about the list than it is: that the name of a list is a number says that
the list is entered in global configuration, under that number and with the kind that goes with it.  So the lists come
back exactly if every list with rules whose name is a number has the number from 1 to 199 for its name, without needless
zeros, and is of the kind of the number.
-/

namespace NetRack

open Console

/-! ## One list -/

theorem Clause.kind_printed (c : Clause) : c.printed.kind = c.kind := by cases c <;> rfl

/-- A list has what is printed of some clauses, entered again. -/
structure AccessList.Shows (l : AccessList) (kind : AclKind) (clauses : List Clause) : Prop where
  known : l.kind = .known kind
  rules : l.rules = distinct ((clauses.map Clause.printed).map fun c => c.entry.rule)

/-- Some lists have come to have what is printed of one more list.  There need not be such a list if nothing is
printed. -/
structure Adds (acls : Table String AccessList) (name : String) (kind : AclKind) (clauses : List Clause)
    (acls' : Table String AccessList) : Prop where
  others : ∀ other, other ≠ name → acls'.get? other = acls.get? other
  list : acls'.get? name = none ∧ clauses = [] ∨ ∃ l, acls'.get? name = some l ∧ l.Shows kind clauses

section List

variable {acls acls' : Table String AccessList} {name : String} {kind : AclKind} {clauses : List Clause}
  {l : AccessList}

/-- The next clause of a list can be added to it. -/
theorem Adds.next (h : Adds acls name kind clauses acls') {c : Clause} (alike : c.kind = kind) :
    ∃ l', ((acls'.get? name).getD { name, kind := .known kind }).append c.printed.entry = .ok l' ∧
      ∀ acls'' : Table String AccessList,
        (∀ other, acls''.get? other = if other = name then some l' else acls'.get? other) →
        Adds acls name kind (clauses ++ [c]) acls'' := by
  have shows : ((acls'.get? name).getD { name, kind := .known kind }).Shows kind clauses := by
    rcases h.list with ⟨none, rfl⟩ | ⟨l, hl, shows⟩
    · rw [none]
      exact ⟨rfl, rfl⟩
    · rw [hl]
      exact shows
  obtain ⟨l', append⟩ := (AccessList.append_eq_ok_iff shows.known).2 (c.kind_printed.trans alike)
  refine ⟨l', append, fun acls'' get? => ⟨fun other apart => ?_, Or.inr ⟨l', ?_, ?_, ?_⟩⟩⟩
  · rw [get?, if_neg apart, h.others other apart]
  · rw [get?, if_pos rfl]
  · exact (AccessList.append_kind append).trans shows.known
  · rw [List.map_append, List.map_append, List.map_singleton, List.map_singleton, distinct_concat, ← shows.rules]
    exact AccessList.append_rules append

/-- The rules of a list are printed in the words of what is printed of its clauses. -/
theorem AccessList.Has.map_aclRule (h : l.Has kind clauses) (f : String → String) :
    (l.rules.map fun r => f (Show.aclRule r l.kind)) =
      clauses.flatMap fun c => [f (" ".intercalate c.printed.written)] := by
  rw [h.rules, h.known, List.map_map, ← List.map_eq_flatMap]
  refine List.map_congr_left fun c hc => congrArg f ?_
  rw [← h.alike c hc]
  exact aclRule_eq c

namespace Topology

variable {explainer : Option Explainer} {device : String} {t : Topology} {d : Device} {list : Option String}

theorem readInt_number {n : Int} (low : 1 ≤ n) (high : n ≤ 199) :
    Argument.readInt (some 1) (some 199) (Text.intText n).toList = .ok n :=
  Argument.readInt_within (by omega) low high (by decide)

/-- The name of a numbered list is a number. -/
theorem isNumbered_number {n : Int} (low : 1 ≤ n) : Show.isNumbered (Text.intText n) = true := by
  obtain ⟨k, rfl⟩ := Int.eq_ofNat_of_zero_le (by omega : 0 ≤ n)
  unfold Show.isNumbered
  rw [Text.toList_intText_natCast]
  exact Text.arePlainDigits_iff.2 (.of_toDigits k)

/-- The console of a device configures a list, or none in global configuration, and some lists have come to have what
is printed of one more list. -/
def Completes (list : Option String) (acls : Table String AccessList) (name : String) (kind : AclKind)
    (clauses : List Clause) (d : Device) : Prop :=
  ∃ acls', Configures d list acls' ∧ Adds acls name kind clauses acls'

/-- What is printed of a list with a number is entered in global configuration. -/
theorem Configures.enters_numbered (h : Configures d none acls) (ordered : t.Orderly) (hd : t.device device = .ok d)
    {n : Int} (read : Argument.readInt (some 1) (some 199) (Text.intText n).toList = .ok n)
    (has : l.Has (kindOfNumber n) clauses) (absent : acls.get? (Text.intText n) = none) :
    LeadTo explainer device t (Show.aclCommands (Text.intText n) l)
      (Completes none acls (Text.intText n) (kindOfNumber n) clauses) := by
  unfold Show.aclCommands
  rw [if_pos (isNumbered_number (Argument.readInt_bounded read).1),
    has.map_aclRule fun text => "access-list " ++ Text.intText n ++ " " ++ text]
  refine leadTo_flatMap (Completes none acls (Text.intText n) (kindOfNumber n)) _ clauses ?_ ordered hd
    ⟨acls, h, fun _ _ => rfl, Or.inl ⟨absent, rfl⟩⟩
  rintro before c after heq t d ordered hd ⟨acls', configures, adds⟩
  obtain ⟨l', append, next⟩ := adds.next (has.alike c (by simp [heq]))
  refine (configures.next_numbered ordered hd read append).imp fun d' configures' => ?_
  exact ⟨_, configures', next _ fun other => Table.get?_insert ..⟩

/-- What is printed of a list with another name is entered in the configuration of any list, and in global
configuration. -/
theorem Configures.enters_named (h : Configures d list acls) (ordered : t.Orderly) (hd : t.device device = .ok d)
    (word : Text.Unbroken name.toList) (named : Show.isNumbered name = false) (has : l.Has kind clauses)
    (absent : acls.get? name = none) :
    LeadTo explainer device t (Show.aclCommands name l) (Completes (some name) acls name kind clauses) := by
  unfold Show.aclCommands
  rw [if_neg (by simp [named]), has.map_aclRule fun text => " " ++ text, has.known]
  have made : LeadTo explainer device t _ (Completes (some name) acls name kind []) :=
    (h.next_named ordered hd word absent kind).imp fun d' configures => by
      refine ⟨_, configures, fun other apart => ?_, Or.inr ⟨{ name, kind := .known kind }, ?_, rfl, rfl⟩⟩
      · rw [Table.get?_insertIfNew, if_neg apart]
      · rw [Table.get?_insertIfNew, if_pos rfl, absent]
        rfl
  refine made.append ordered fun u d ordered hd completes => ?_
  refine leadTo_flatMap (Completes (some name) acls name kind) _ clauses ?_ ordered hd completes
  rintro before c after heq t d ordered hd ⟨acls', configures, adds⟩
  obtain ⟨l', append, next⟩ := adds.next (has.alike c (by simp [heq]))
  -- The list that is configured is there.
  have object := (ordered.seated _ _ (device_eq_ok.1 hd)).object
  unfold Device.HasObject at object
  rw [configures.mode, configures.current, configures.acls] at object
  obtain ⟨key, l₀, current, hl⟩ := object
  obtain rfl := Option.some.inj current
  rw [hl] at append
  refine (configures.next_listed ordered hd hl append).imp fun d' configures' => ?_
  refine ⟨_, configures', next _ fun other => ?_⟩
  rw [Table.get?_modify]
  split
  · rename_i same
    rw [same, hl]
    rfl
  · rfl

end Topology

end List

/-! ## All lists -/

section Lists

variable {l l' : AccessList} {name : String} {kind : AclKind} {clauses : List Clause}
  {acls acls' : Table String AccessList}

/-- If the name of a list is a number, it is that of a list of its kind. -/
def AccessList.GoesBy (l : AccessList) (name : String) : Prop :=
  Show.isNumbered name = true →
    ∃ n : Int, 1 ≤ n ∧ n ≤ 199 ∧ name = Text.intText n ∧ l.kind = .known (kindOfNumber n)

/-- A list has come back: another list has what is printed of its clauses. -/
def AccessList.ComesBackAs (l l' : AccessList) : Prop :=
  ∃ kind clauses, l.Has kind clauses ∧ l'.Shows kind clauses

/-- Two lists permit the same packets. -/
def AccessList.PermitsAlike (l l' : AccessList) : Prop :=
  ∀ (protocol : Stored Protocol) (source destination : String) (a b : Address), Address.read? source = some a →
    Address.read? destination = some b → ∃ allowed, l.permits protocol source destination = .ok allowed ∧
      l'.permits protocol source destination = .ok allowed

/-- A list that has come back permits the same packets. -/
theorem AccessList.ComesBackAs.permitsAlike (h : l.ComesBackAs l') : l.PermitsAlike l' := by
  intro protocol source destination a b hsource hdestination
  obtain ⟨kind, clauses, has, shows⟩ := h
  have rules : l.rules = distinct (clauses.map fun c => c.entry.rule) := by
    rw [← has.rules, distinct_of_nodup has.once]
  obtain ⟨allowed, permits, decides⟩ := AccessList.permits_of_rules rules hsource hdestination
  obtain ⟨allowed', permits', decides'⟩ := AccessList.permits_of_rules shows.rules hsource hdestination
  have same : allowed' = allowed :=
    Bool.eq_iff_iff.2 (decides'.trans ((permitted_printed clauses).trans decides.symm))
  exact ⟨allowed, permits, same ▸ permits'⟩

/-- The lists that have come back: all that have rules, and maybe others of the same names. -/
structure Restores (entries : List (String × AccessList)) (acls : Table String AccessList) : Prop where
  lists : ∀ e ∈ entries, e.2.rules ≠ [] → ∃ l', acls.get? e.1 = some l' ∧ e.2.ComesBackAs l'
  others : ∀ name, name ∉ entries.map Prod.fst → acls.get? name = none

variable {entries : List (String × AccessList)}

theorem Restores.adds (h : Restores entries acls) (new : name ∉ entries.map Prod.fst) (has : l.Has kind clauses)
    (adds : Adds acls name kind clauses acls') : Restores (entries ++ [(name, l)]) acls' where
  lists := by
    intro e he some_rule
    rcases List.mem_append.1 he with he | he
    · have apart : e.1 ≠ name := fun same => new (same ▸ List.mem_map_of_mem he)
      rw [adds.others e.1 apart]
      exact h.lists e he some_rule
    · obtain rfl := List.mem_singleton.1 he
      rcases adds.list with ⟨-, rfl⟩ | ⟨l', hl', shows⟩
      · exact absurd has.rules some_rule
      · exact ⟨l', hl', kind, clauses, has, shows⟩
  others := by
    intro other absent
    rw [List.map_append, List.mem_append, not_or] at absent
    rw [adds.others other (by simpa using absent.2)]
    exact h.others other absent.1

theorem Restores.skips (h : Restores entries acls) (empty : l.rules = []) : Restores (entries ++ [(name, l)]) acls where
  lists := by
    intro e he some_rule
    rcases List.mem_append.1 he with he | he
    · exact h.lists e he some_rule
    · obtain rfl := List.mem_singleton.1 he
      exact absurd empty some_rule
  others := fun other absent => h.others other fun present => absent (by simp [present])

end Lists

namespace Topology

variable {explainer : Option Explainer} {device : String} {t : Topology} {d : Device}
  {entries : List (String × AccessList)}

/-- What is printed of lists is entered in global configuration where there are no lists, if the numbered ones come
first and go by their names. -/
theorem Configures.enters_lists (h : Configures d none ∅) (ordered : t.Orderly) (hd : t.device device = .ok d)
    (names : (entries.map Prod.fst).Nodup)
    (order : entries.Pairwise fun e e' => Show.isNumbered e'.1 = true → Show.isNumbered e.1 = true)
    (proper : ∀ e ∈ entries, Text.Unbroken e.1.toList ∧ ∃ kind clauses, e.2.Has kind clauses)
    (goes : ∀ e ∈ entries, e.2.rules ≠ [] → e.2.GoesBy e.1) :
    LeadTo explainer device t (entries.flatMap fun e => Show.aclCommands e.1 e.2) fun d => Restores entries d.acls := by
  let P (before : List (String × AccessList)) (d : Device) : Prop := ∃ list acls, Configures d list acls ∧
    Restores before acls ∧ (list.isSome = true → ∃ e ∈ before, Show.isNumbered e.1 = false)
  refine (leadTo_flatMap P _ entries ?_ ordered hd ⟨none, ∅, h, ⟨nofun, fun _ _ => rfl⟩, nofun⟩).imp
    fun d ⟨list, acls, configures, restores, _⟩ => configures.acls ▸ restores
  rintro before ⟨name, l⟩ after heq t d ordered hd ⟨list, acls, configures, restores, first⟩
  have mem : (name, l) ∈ entries := by simp [heq]
  have new : name ∉ before.map Prod.fst := by
    rw [heq, List.map_append, List.map_cons] at names
    exact fun present => (List.nodup_append.1 names).2.2 name present name List.mem_cons_self rfl
  obtain ⟨word, kind, clauses, has⟩ := proper _ mem
  have absent := restores.others name new
  cases numbered : Show.isNumbered name with
  | false =>
    refine (configures.enters_named ordered hd word numbered has absent).imp ?_
    rintro d' ⟨acls', configures', adds⟩
    exact ⟨some name, acls', configures', restores.adds new has adds, fun _ => ⟨(name, l), by simp, numbered⟩⟩
  | true =>
    -- No named list has come before.
    obtain rfl : list = none := by
      cases list with
      | none => rfl
      | some other =>
        obtain ⟨e, he, named⟩ := first rfl
        rw [heq] at order
        have := (List.pairwise_append.1 order).2.2 e he (name, l) List.mem_cons_self numbered
        rw [named] at this
        cases this
    by_cases empty : l.rules = []
    · refine ⟨t, d, ?_, hd, none, acls, configures, restores.skips empty, nofun⟩
      unfold Show.aclCommands
      rw [if_pos numbered, empty]
      exact .nil t
    · obtain ⟨n, low, high, rfl, known⟩ := goes _ mem empty numbered
      obtain rfl : kind = kindOfNumber n := Stored.known.inj (has.known.symm.trans known)
      refine (configures.enters_numbered ordered hd (readInt_number low high) has absent).imp ?_
      rintro d' ⟨acls', configures', adds⟩
      exact ⟨none, acls', configures', restores.adds new has adds, nofun⟩

end Topology

/-! ## Printed lines -/

section Lines

variable {l : AccessList} {name line : String} {kind : AclKind} {clauses : List Clause}

theorem Clause.written_eq (c : Clause) :
    ∃ (action : RuleAction) (rest : List String), c.written = Vocabulary.spelling action :: rest := by
  cases c <;> exact ⟨_, _, rfl⟩

/-- The words of the lines that a list is printed as. -/
theorem AccessList.Has.words_of_mem (has : l.Has kind clauses) (word : Text.Unbroken name.toList)
    (mem : line ∈ Show.aclCommands name l) :
    (∃ c, (Text.words line).map (·.text) = "access-list" :: name :: Clause.written c) ∨
      (∃ c, (Text.words line).map (·.text) = Clause.written c) ∨ Show.isNumbered name = false ∧
        (Text.words line).map (·.text) = ["ip", "access-list", Vocabulary.spelling kind, name] := by
  unfold Show.aclCommands at mem
  split at mem
  · rw [has.map_aclRule fun text => "access-list " ++ name ++ " " ++ text, ← List.map_eq_flatMap] at mem
    obtain ⟨c, -, rfl⟩ := List.mem_map.1 mem
    exact Or.inl ⟨c.printed, words_numbered word⟩
  · rename_i named
    rw [has.map_aclRule fun text => " " ++ text, ← List.map_eq_flatMap, has.known] at mem
    rcases List.mem_cons.1 mem with rfl | mem
    · exact Or.inr (Or.inr ⟨Bool.eq_false_iff.2 named, words_named word kind⟩)
    · obtain ⟨c, -, rfl⟩ := List.mem_map.1 mem
      exact Or.inr (Or.inl ⟨c.printed, words_indented c.printed.unbroken_written⟩)

/-- No printed line is the mark between the parts of a configuration. -/
theorem AccessList.Has.ne_separator (has : l.Has kind clauses) (word : Text.Unbroken name.toList)
    (mem : line ∈ Show.aclCommands name l) : line ≠ "!" := by
  rintro rfl
  have texts : (Text.words "!").map (·.text) = ["!"] := by decide
  rcases has.words_of_mem word mem with ⟨c, h⟩ | ⟨c, h⟩ | ⟨-, h⟩
  · rw [texts] at h
    exact absurd (List.cons.inj h).1 (by decide)
  · obtain ⟨action, rest, written⟩ := c.written_eq
    rw [texts, written] at h
    cases action <;> exact absurd (List.cons.inj h).1 (by decide)
  · rw [texts] at h
    exact absurd (List.cons.inj h).1 (by decide)

/-- A line that names a list does not name it by a number. -/
def NamesNoNumber (line : String) : Prop :=
  ∀ w w' w'' w₃ : Text.Word, Text.words line = [w, w', w'', w₃] → (Text.lower w.text).toList <+: "ip".toList →
    Show.isNumbered w₃.text = false

theorem AccessList.Has.namesNoNumber (has : l.Has kind clauses) (word : Text.Unbroken name.toList)
    (mem : line ∈ Show.aclCommands name l) : NamesNoNumber line := by
  intro w w' w'' w₃ hwords begins
  have texts := has.words_of_mem word mem
  rw [hwords] at texts
  have apart {text : String} (same : w.text = text) (other : ¬(Text.lower text).toList <+: "ip".toList) : False :=
    other (same ▸ begins)
  rcases texts with ⟨c, h⟩ | ⟨c, h⟩ | ⟨named, h⟩
  · exact (apart (List.cons.inj h).1 (by decide)).elim
  · obtain ⟨action, rest, written⟩ := c.written_eq
    rw [written] at h
    exact (apart (List.cons.inj h).1 (by cases action <;> decide)).elim
  · simp only [List.map_cons, List.map_nil, List.cons.injEq] at h
    rw [h.2.2.2.1]
    exact named

end Lines

/-! ## Numbers that name lists -/

namespace Topology

variable {explainer : Option Explainer} {device line : String} {t u : Topology} {d : Device} {lines : List String}

/-- Every list of a device goes by its name. -/
def GoByNames (d : Device) : Prop := ∀ name l, d.acls.get? name = some l → l.GoesBy name

/-- Lists go by their names still after a line that does not name any by a number. -/
theorem GoByNames.next (h : GoByNames d) (ordered : t.Orderly) (hd : t.device device = .ok d)
    (unnumbered : NamesNoNumber line) (accepted : Accepts explainer t device line) :
    ∃ d', (t.next (.command explainer device line)).device device = .ok d' ∧ GoByNames d' := by
  have hget := device_eq_ok.1 hd
  obtain ⟨d', hd', acls⟩ := ordered.next_lists hget accepted
  refine ⟨d', device_eq_ok.2 hd', fun name l hl => ?_⟩
  rw [acls, if_pos rfl] at hl
  rcases made_cases ordered hget line with made | ⟨startupConfig, made⟩ | ⟨c, o, asks, done, made⟩
  · exact h name l (made ▸ hl)
  · rw [made] at hl
    exact h name l hl
  rw [made] at hl
  intro numbered
  have kept {l₀ : AccessList} {e : RuleEntry} (known : d.acls.get? name = some l₀) (append : l₀.append e = .ok l) :
      ∃ n : Int, 1 ≤ n ∧ n ≤ 199 ∧ name = Text.intText n ∧ l.kind = .known (kindOfNumber n) := by
    obtain ⟨m, low, high, same, kind⟩ := h _ l₀ known numbered
    exact ⟨m, low, high, same, (AccessList.append_kind append).trans kind⟩
  cases listOrigin_of_command (ordered.sound.devices _ _ hget) done hl with
  | kept known => exact h name l known numbered
  | new empty =>
    obtain ⟨w, w', w'', w₃, hwords, rfl, begins⟩ := asks.named
    rw [unnumbered w w' w'' w₃ hwords begins] at numbered
    cases numbered
  | @numbered n e number append =>
    cases known : d.acls.get? name with
    | none =>
      rw [known] at append
      obtain ⟨first, word, rest, clause, -, read, -, -⟩ := asks.numbered
      obtain ⟨low, high⟩ := Argument.readInt_bounded read
      exact ⟨n, low, high, number, AccessList.append_kind append⟩
    | some l₀ =>
      rw [known] at append
      exact kept known append
  | listed known append => exact kept known append

theorem GoByNames.entered (h : GoByNames d) (ordered : t.Orderly) (hd : t.device device = .ok d)
    (unnumbered : ∀ line ∈ lines, NamesNoNumber line) (entered : EntersAll explainer device t lines u) :
    ∃ d', u.device device = .ok d' ∧ GoByNames d' := by
  induction entered generalizing d with
  | nil t => exact ⟨d, hd, h⟩
  | cons accepted rest ih =>
    obtain ⟨d', hd', h'⟩ := h.next ordered hd (unnumbered _ List.mem_cons_self) accepted
    exact ih h' (ordered.next _) hd' fun line mem => unnumbered line (List.mem_cons_of_mem _ mem)

/-- A line of a numbered list is accepted only if the list is of the kind of its number, where the lists go by their
names. -/
theorem GoByNames.kind_of_accepted (h : GoByNames d) (hd : t.device device = .ok d) {c : Clause} {n : Int}
    (low : 1 ≤ n) (high : n ≤ 199)
    (texts : (Text.words line).map (·.text) = "access-list" :: Text.intText n :: c.printed.written)
    (accepted : Accepts explainer t device line) : c.kind = kindOfNumber n := by
  obtain ⟨r, hr, valid⟩ := accepted
  obtain ⟨x, ran, hx, run, -⟩ := execute_ran hr valid
  obtain rfl := Except.ok.inj (hd.symm.trans hx)
  obtain ⟨first, _, hwords, hfirst, texts⟩ := List.map_eq_cons_iff.1 texts
  obtain ⟨number, rest, rfl, hnumber, hrest⟩ := List.map_eq_cons_iff.1 texts
  obtain ⟨m, e, o, asks, done⟩ := run_of_first run hwords hfirst
  obtain ⟨first', number', rest', clause, hwords', read, spelled, rfl⟩ := asks.numbered
  rw [hwords] at hwords'
  cases hwords'
  rw [hnumber, readInt_number low high] at read
  obtain rfl := Except.ok.inj read
  obtain rfl : clause = c.printed := by
    refine Clause.SpelledBy.unique spelled (hrest ▸ Clause.spelledBy_written (fun a => ?_) c)
    cases a <;> decide
  obtain ⟨l', append, -⟩ := bind_eq_ok.1 done
  have known : ((d.acls.get? (Text.intText n)).getD
      { name := Text.intText n, kind := .known (kindOfNumber n) }).kind = .known (kindOfNumber n) := by
    cases hl : d.acls.get? (Text.intText n) with
    | none => rfl
    | some l =>
      obtain ⟨m, -, -, same, kind⟩ := h _ l hl (isNumbered_number low)
      rw [Text.intText_injective same]
      exact kind
  rw [← c.kind_printed]
  exact (AccessList.append_eq_ok_iff known).1 ⟨l', append⟩

/-! ## Coming back -/

variable {key : String} {x : Device}

theorem filter_aclSection (proper : ∀ name l, d.acls.get? name = some l →
      Text.Unbroken name.toList ∧ ∃ kind clauses, l.Has kind clauses)
    (printed : Show.aclSection d = .ok lines) : ∃ entries, Show.sortedAcls d = .ok entries ∧
      lines.filter (· ≠ "!") = entries.flatMap fun e => Show.aclCommands e.1 e.2 := by
  obtain ⟨entries, sorted, heq⟩ := bind_eq_ok.1 printed
  refine ⟨entries, sorted, ?_⟩
  have none : ∀ line ∈ entries.flatMap fun e => Show.aclCommands e.1 e.2, line ≠ "!" := by
    intro line mem
    obtain ⟨e, he, mem⟩ := List.mem_flatMap.1 mem
    have known := Table.get?_eq_some.2 ((sortedAcls_eq_ok sorted).1.mem_iff.1 he)
    obtain ⟨word, kind, clauses, has⟩ := proper e.1 e.2 known
    exact has.ne_separator word mem
  generalize entries.flatMap (fun e => Show.aclCommands e.1 e.2) = commands at heq none
  cases heq
  split
  · rename_i empty
    rw [List.isEmpty_iff.1 empty]
    rfl
  · rw [List.filter_append, List.filter_eq_self.2 fun line mem => by simpa using none line mem]
    simp

/-- A list with rules goes by its name if what is printed of some lists has been entered where all lists go by their
names, and the name is that of a list then. -/
theorem GoByNames.goesBy (h : GoByNames d) (ordered : t.Orderly) (hd : t.device device = .ok d)
    {entries : List (String × AccessList)}
    (proper : ∀ e ∈ entries, Text.Unbroken e.1.toList ∧ ∃ kind clauses, e.2.Has kind clauses)
    (entered : EntersAll explainer device t (entries.flatMap fun e => Show.aclCommands e.1 e.2) u)
    (hx : u.device device = .ok x) {name : String} {l l' : AccessList} (mem : (name, l) ∈ entries)
    (some_rule : l.rules ≠ []) (hl' : x.acls.get? name = some l') : l.GoesBy name := by
  intro numbered
  have unnumbered : ∀ line ∈ entries.flatMap fun e => Show.aclCommands e.1 e.2, NamesNoNumber line := by
    intro line mem
    obtain ⟨e, he, mem⟩ := List.mem_flatMap.1 mem
    obtain ⟨word, kind, clauses, has⟩ := proper e he
    exact has.namesNoNumber word mem
  -- There is a list of the name in the end, so the name is a number as it is written.
  obtain ⟨x', hx', goes⟩ := h.entered ordered hd unnumbered entered
  obtain rfl := Except.ok.inj (hx.symm.trans hx')
  obtain ⟨n, low, high, rfl, -⟩ := goes name l' hl' numbered
  -- The line of its first rule has been accepted, so the rule is of the kind of the number.
  obtain ⟨word, kind, clauses, has⟩ := proper _ mem
  obtain ⟨c, hc⟩ := List.exists_mem_of_ne_nil clauses fun none => some_rule (by rw [has.rules, none]; rfl)
  have mem_line : "access-list " ++ Text.intText n ++ " " ++ " ".intercalate c.printed.written ∈
      entries.flatMap fun e => Show.aclCommands e.1 e.2 := by
    refine List.mem_flatMap.2 ⟨(Text.intText n, l), mem, ?_⟩
    unfold Show.aclCommands
    rw [if_pos numbered, has.map_aclRule fun text => "access-list " ++ Text.intText n ++ " " ++ text,
      ← List.map_eq_flatMap]
    exact List.mem_map.2 ⟨c, hc, rfl⟩
  obtain ⟨before, after, split⟩ := List.append_of_mem mem_line
  rw [split] at entered unnumbered
  obtain ⟨v, earlier, accepted, -⟩ := entered.split
  obtain ⟨y, hy, goes'⟩ := h.entered ordered hd (fun line mem => unnumbered line (by simp [mem])) earlier
  have same := goes'.kind_of_accepted hy low high (words_numbered word) accepted
  exact ⟨n, low, high, rfl, has.known.trans (congrArg _ ((has.alike c hc).symm.trans same))⟩

/-- The access lists of a device are printed as lines that are accepted one after the other in the global configuration
of a device without lists, and make lists of the same names that permit the same packets, but for lists without rules,
exactly if all lists with rules go by their names. -/
theorem reached_lists_return_iff (cs : List Change) (hd : (reached cs).devices.get? key = some d)
    (printed : Show.aclSection d = .ok lines) (cs' : List Change) (hx : (reached cs').device device = .ok x)
    (mode : x.mode = .globalConfig) (clear : x.acls = ∅) (explainer : Option Explainer) :
    (∃ u x', EntersAll explainer device (reached cs') (lines.filter (· ≠ "!")) u ∧ u.device device = .ok x' ∧
      ∀ name l, d.acls.get? name = some l → l.rules ≠ [] →
        ∃ l', x'.acls.get? name = some l' ∧ l.PermitsAlike l') ↔
      ∀ name l, d.acls.get? name = some l → l.rules ≠ [] → l.GoesBy name := by
  have proper (name : String) (l : AccessList) (hl : d.acls.get? name = some l) := reached_lists cs hd hl
  have ordered := reached_orderly cs'
  obtain ⟨entries, sorted, commands⟩ := filter_aclSection proper printed
  obtain ⟨perm, order⟩ := sortedAcls_eq_ok sorted
  have listed {e : String × AccessList} : e ∈ entries ↔ d.acls.get? e.1 = some e.2 :=
    perm.mem_iff.trans Table.get?_eq_some.symm
  rw [commands]
  constructor
  · rintro ⟨u, x', entered, hx', returned⟩ name l hl some_rule
    have start : GoByNames x := fun _ _ hl => by rw [clear] at hl; cases hl
    obtain ⟨l', hl', -⟩ := returned name l hl some_rule
    exact start.goesBy ordered hx (fun e he => proper e.1 e.2 (listed.1 he)) entered hx' (listed.2 hl) some_rule hl'
  · intro goes
    have context := (ordered.seated _ _ (device_eq_ok.1 hx)).focused.context_outside (by rw [mode]; rfl)
    have start : Configures x none ∅ := ⟨mode, by rw [context], clear⟩
    have led : LeadTo explainer device (reached cs') _ fun x => Restores entries x.acls :=
      start.enters_lists ordered hx ((perm.map Prod.fst).nodup_iff.2 d.acls.nodup) order
        (fun e he => proper e.1 e.2 (listed.1 he)) fun e he => goes e.1 e.2 (listed.1 he)
    obtain ⟨u, x', entered, hx', restores⟩ := led
    refine ⟨u, x', entered, hx', fun name l hl some_rule => ?_⟩
    obtain ⟨l', hl', returns⟩ := restores.lists (name, l) (listed.2 hl) some_rule
    exact ⟨l', hl', returns.permitsAlike⟩

/-- A router with a standard list that goes by the number of an extended one. -/
def misnumberedRouter : List Change :=
  configuredRouter ++ [.command none "R1" "ip access-list standard 150", .command none "R1" "permit 10.0.0.0 0.0.0.255"]

/-- The list is printed as a line that is refused on entry. -/
theorem misnumberedRouter_lost : ∃ d x lines, (reached misnumberedRouter).devices.get? "R1" = some d ∧
    Show.aclSection d = .ok lines ∧ lines.filter (· ≠ "!") = ["access-list 150 permit 10.0.0.0 0.0.0.255"] ∧
    (reached configuredRouter).device "R1" = .ok x ∧ x.mode = .globalConfig ∧ x.acls = ∅ ∧
    ¬∃ u x', EntersAll none "R1" (reached configuredRouter) (lines.filter (· ≠ "!")) u ∧ u.device "R1" = .ok x' ∧
      ∀ name l, d.acls.get? name = some l → l.rules ≠ [] →
        ∃ l', x'.acls.get? name = some l' ∧ l.PermitsAlike l' := by
  have shown : ((reached misnumberedRouter).devices.get? "R1").any (fun d =>
      decide ((Show.aclSection d).toOption = some ["access-list 150 permit 10.0.0.0 0.0.0.255", "!"]) &&
      (d.acls.get? "150").any fun l => decide (l.kind = .known .standard) && decide (l.rules ≠ [])) = true := by
    decide +kernel
  have target : ((reached configuredRouter).device "R1").toOption.any (fun x =>
      decide (x.mode = .globalConfig) && decide (x.acls.entries = [])) = true := by
    decide +kernel
  generalize misnumberedRouter = cs at shown ⊢
  generalize configuredRouter = cs' at target ⊢
  obtain ⟨d, hd, shown⟩ := (Option.any_eq_true ..).1 shown
  obtain ⟨x, hx, start⟩ := (Option.any_eq_true ..).1 target
  rw [Bool.and_eq_true, decide_eq_true_iff] at shown start
  obtain ⟨printed, listed⟩ := shown
  obtain ⟨mode, empty⟩ := start
  obtain ⟨l, hl, known⟩ := (Option.any_eq_true ..).1 listed
  rw [Bool.and_eq_true, decide_eq_true_iff, decide_eq_true_iff] at known
  have clear : x.acls = ∅ := Table.ext_entries (of_decide_eq_true empty)
  have printed := toOption_eq_some.1 printed
  have hx := toOption_eq_some.1 hx
  refine ⟨d, x, _, hd, printed, by decide, hx, mode, clear, fun returned => ?_⟩
  have goes := (reached_lists_return_iff cs hd printed cs' hx mode clear none).1 returned "150" l hl known.2
  obtain ⟨n, low, high, number, kind⟩ := goes (by decide)
  obtain rfl : n = 150 := Text.intText_injective (number.symm.trans (by decide))
  rw [known.1] at kind
  exact absurd kind (by decide)

end Topology

end NetRack
