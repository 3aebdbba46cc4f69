import NetRack.Proofs.Command.Understood
import NetRack.Proofs.Console.Payload
import NetRack.Proofs.DoLine

/-!
# The word that an error is about

An error of a line that is not understood is about a word of it, also if the word is one of a line that is run by
`do`: the console counts its column from the start of the line that was given, and marks it there.  Its place
is counted among the words of the line that was run, so that the words before that line are left out.
-/

namespace NetRack

/-! ## Words on their own -/

namespace Text

variable {n : Nat} {cs w : List Char} {before after : List Word} {word : Word}

/-- Characters stand in a line as a word of its own, so many characters after its start. -/
def StandsAlone (cs w : List Char) (column : Nat) : Prop :=
  ∃ before after, cs = before ++ (w ++ after) ∧ before.length = column ∧ Unbroken w ∧
    (∀ c ∈ before.getLast?, isBlank c = true) ∧ Breaks after

/-- A character that goes on with a word makes no word of its own. -/
theorem length_wordsFrom_run {pending : List Char} {c d : Char} (hc : isBlank c = false) (hd : isBlank d = false) :
    (wordsFrom n pending (cs ++ [c, d])).length = (wordsFrom n pending (cs ++ [c])).length := by
  induction cs generalizing n pending with
  | nil => simp [wordsFrom, finishWord, hc, hd]
  | cons x cs ih =>
    rw [List.cons_append, List.cons_append]
    unfold wordsFrom
    split
    · rw [List.length_append, List.length_append, ih]
    · exact ih

/-- Characters after which another word may begin end with a blank. -/
theorem Leaves.blank (h : Leaves n cs before) : ∀ c ∈ cs.getLast?, isBlank c = true := by
  intro c hc
  by_contra visible
  have visible : isBlank c = false := by simpa using visible
  obtain ⟨front, rfl⟩ := List.getLast?_eq_some_iff.1 hc
  have another := congrArg List.length (h [c])
  have none := congrArg List.length (h [])
  rw [List.append_assoc, List.singleton_append, length_wordsFrom_run visible visible] at another
  simp [wordsFrom, finishWord, visible] at another none
  omega

/-- What stands in a line stands as much further on after a prompt. -/
theorem StandsAlone.behind {line token : String} {column : Nat} (h : StandsAlone line.toList token.toList column)
    (prompt : String) : token.toList <+: (prompt ++ line).toList.drop (prompt.length + column) := by
  obtain ⟨before, after, hline, rfl, -⟩ := h
  rw [String.toList_append, hline, ← String.length_toList, ← List.drop_drop, List.drop_left, List.drop_left]
  exact List.prefix_append ..

theorem standsAlone_of_words (h : words line = before ++ word :: after) :
    StandsAlone line.toList word.text.toList word.column := by
  obtain ⟨a, b, hline, column, unbroken, breaks, leaves, -⟩ := exists_around h
  exact ⟨a, b, hline, by omega, unbroken, leaves.blank, breaks⟩

end Text

namespace Console

variable {t : Topology} {d : Device} {key line deviceId : String} {mode : Mode} {offset : Int} {e : ResolutionError}
  {explainer : Option Explainer} {r : CommandResult} {report : ErrorReport}

/-! ## Where an error comes from -/

/-- A line that is not understood is one that does not resolve. -/
theorem request?_unresolved (h : request? d line mode offset = .error (.unresolved e)) :
    resolve line (Grammar.root mode (platform d)) (some d) offset = .ok (some (.error e)) := by
  unfold request? at h
  rcases bind_eq_error.1 h with fault | ⟨x, hx, h⟩
  · exact ((Understood.lift _).cause fault).elim
  · rw [liftM_eq_ok.1 hx]
    split at h
    · cases h
    · cases h
      rfl
    · rcases bind_eq_error.1 h with fault | ⟨_, -, h⟩
      · exact ((Understood.lift _).cause fault).elim
      · cases h

/-- A line that is not understood in privileged mode is one that does not resolve there. -/
theorem runPrivileged_unresolved (h : runPrivileged t d line offset = .error (.unresolved e)) :
    resolve line (Grammar.root .privileged (platform d)) (some d) offset = .ok (some (.error e)) := by
  rcases bind_eq_error.1 h with asks | ⟨q, -, h⟩
  · exact request?_unresolved asks
  · split at h
    · cases h
    · exact ((command_understood t d _).cause h).elim
    · cases h

/-- How many words of a line are ahead of the line that it asks to be run, if it asks for one. -/
def wordsAhead (d : Device) (line : String) : Nat :=
  match request? d line d.mode 0 with
  | .ok (some (.runExec _ _)) => 1
  | _ => 0

/-- An error is about a word of the line that stands in its column, and its place is the one of the word but for the
words ahead. -/
theorem run_names (h : run t d line = .error (.unresolved e)) : ∃ word,
    (Text.words line)[e.position + wordsAhead d line]? = some word ∧ e.token = word.text ∧ e.column = word.column := by
  unfold wordsAhead
  rcases bind_eq_error.1 h with asks | ⟨q, asks, h⟩
  · obtain ⟨word, names, -⟩ := goes_wrong (request?_unresolved asks)
    rw [asks]
    exact ⟨word, names.place, names.token, by simpa using names.column⟩
  · rw [asks]
    split at h
    · cases h
    · exact ((command_understood t d _).cause (map_eq_error.1 h)).elim
    · rename_i payload column
      obtain ⟨first, second, rest, hwords, rfl, rfl⟩ := request?_runExec asks
      obtain ⟨word, names⟩ : ∃ word, e.Names (lineFrom line.toList second.column) (second.column + 0) word := by
        rcases bind_eq_error.1 (map_eq_error.1 h) with within | ⟨_, -, h⟩
        · obtain ⟨word, names, -⟩ := goes_wrong (runPrivileged_unresolved within)
          exact ⟨word, names⟩
        · cases h
      refine ⟨word.shift second.column, ?_, names.token, ?_⟩
      · have split : Text.words line = [first] ++ second :: rest := hwords
        rw [Text.words_lineFrom split, List.singleton_append, List.getElem?_cons_succ, List.getElem?_map, names.place]
        rfl
      · rw [names.column]
        simp [Text.Word.shift]

theorem attempt_unresolved (h : attempt t key d line = .error (.unresolved e)) :
    run t d line = .error (.unresolved e) := by
  rcases bind_eq_error.1 h with ran | ⟨o, -, h⟩
  · exact ran
  · cases o with
    | none => cases h
    | some o =>
      rcases bind_eq_error.1 h with settled | ⟨_, -, h⟩
      · exact ((Understood.lift _).cause settled).elim
      · cases h

/-- A report of an error is one of a failure, and the prompt is the one before the line. -/
theorem execute_reports (hd : t.device deviceId = .ok d) (h : execute explainer t deviceId line = .ok r)
    (he : r.error = some report) : ∃ f, attempt t (Topology.deviceKey deviceId) d line = .error f ∧
      reportFailure d.prompt f = .ok (report, r.output) := by
  unfold execute at h
  rw [hd, ok_bind] at h
  split at h
  · cases h
    cases he
  · obtain ⟨notices, -, h⟩ := bind_eq_ok.1 h
    cases h
    cases he
  · rename_i f failed
    obtain ⟨⟨error, output⟩, reported, h⟩ := bind_eq_ok.1 h
    cases h
    cases he
    exact ⟨f, failed, reported⟩

/-- Only a line that does not resolve is reported with a word, or as not understood. -/
theorem unresolved_of_report {f : Failure} {prompt output : String}
    (h : reportFailure prompt f = .ok (report, output))
    (of_word : report.token.isSome ∨ report.kind = .unrecognized ∨ report.kind = .invalidArgument) :
    ∃ e, f = .unresolved e ∧ report = ⟨e.problem.kind, e.message, some e.token, some e.position⟩ ∧
      output = resolutionOutput prompt e := by
  cases f with
  | unresolved e =>
    cases h
    exact ⟨e, rfl, rfl, rfl⟩
  | refused refusal =>
    cases h
    cases refusal <;> simp [Refusal.kind] at of_word
  | fault f =>
    simp only [reportFailure] at h
    split at h
    · cases h
      simp at of_word
    · cases h

/-- A report with a word is of an error that is about a word of the line. -/
theorem execute_names (hd : t.device deviceId = .ok d) (h : execute explainer t deviceId line = .ok r)
    (he : r.error = some report)
    (of_word : report.token.isSome ∨ report.kind = .unrecognized ∨ report.kind = .invalidArgument) :
    ∃ (e : ResolutionError) (word : Text.Word), (Text.words line)[e.position + wordsAhead d line]? = some word ∧
      e.token = word.text ∧ e.column = word.column ∧ report = ⟨e.problem.kind, e.message, some e.token, some e.position⟩ ∧
      r.output = resolutionOutput d.prompt e := by
  obtain ⟨f, failed, reported⟩ := execute_reports hd h he
  obtain ⟨e, rfl, same, output⟩ := unresolved_of_report reported of_word
  obtain ⟨word, place, token, column⟩ := run_names (attempt_unresolved failed)
  exact ⟨e, word, place, token, column, same, output⟩

/-! ## The mark -/

theorem resolutionOutput_marked {prompt : String} {column : Nat}
    (h : e.problem.kind = .unrecognized ∨ e.problem.kind = .invalidArgument) (hc : e.column = column) :
    resolutionOutput prompt e = Text.spaces (prompt.length + column) ++ "^\n" ++ e.message := by
  unfold resolutionOutput
  rw [if_pos (by revert h; cases e.problem <;> simp [WordProblem.kind]), hc]
  rfl

/-- A word that is not understood is marked where it begins after the prompt, and is a word of its own there. -/
theorem execute_marks_word (hd : t.device deviceId = .ok d) (h : execute explainer t deviceId line = .ok r)
    (he : r.error = some report) (hk : report.kind = .unrecognized ∨ report.kind = .invalidArgument) :
    ∃ token column, report.token = some token ∧
      r.output = Text.spaces (d.prompt.length + column) ++ "^\n" ++ report.message ∧
      token.toList <+: (d.prompt ++ line).toList.drop (d.prompt.length + column) ∧
      Text.StandsAlone line.toList token.toList column := by
  obtain ⟨e, word, place, token, column, rfl, output⟩ := execute_names hd h he (Or.inr hk)
  obtain ⟨before, after, hwords⟩ := List.append_of_mem (List.mem_of_getElem? place)
  have alone : Text.StandsAlone line.toList e.token.toList word.column := by
    rw [token]
    exact Text.standsAlone_of_words hwords
  exact ⟨e.token, word.column, rfl, output.trans (resolutionOutput_marked hk column), alone.behind d.prompt, alone⟩

/-- The word is one of a line that is run by `do`, with blanks around it. -/
theorem execute_marks_word_within : ∃ d r report, (Topology.reached Topology.configuredPort).device "R1" = .ok d ∧
    execute none (Topology.reached Topology.configuredPort) "R1" " do  shw\trun " = .ok r ∧ r.error = some report ∧
    report.kind = .unrecognized ∧ ∃ token column, report.token = some token ∧
      r.output = Text.spaces (d.prompt.length + column) ++ "^\n" ++ report.message ∧
      token.toList <+: (d.prompt ++ " do  shw\trun ").toList.drop (d.prompt.length + column) ∧
      Text.StandsAlone " do  shw\trun ".toList token.toList column := by
  have found : (match execute none (Topology.reached Topology.configuredPort) "R1" " do  shw\trun " with
    | .ok r => r.error.any (·.kind = .unrecognized)
    | .error _ => false) = true := by decide +kernel
  generalize Topology.configuredPort = cs at found ⊢
  split at found
  · rename_i r h
    obtain ⟨d, hd, -⟩ := bind_eq_ok.1 h
    obtain ⟨report, he, hk⟩ := (Option.any_eq_true ..).1 found
    have hk : report.kind = .unrecognized := of_decide_eq_true hk
    exact ⟨d, r, report, hd, h, he, hk, execute_marks_word hd h he (Or.inl hk)⟩
  · cases found

/-! ## The place -/

/-- Whether a word of a line is a text. -/
def TextAt (line : String) (place : Nat) (text : String) : Prop :=
  (Text.words line)[place]?.map Text.Word.text = some text

/-- The place that is reported with a word is counted from behind the words that are ahead of the line that is run:
it is the place of the word in the line exactly if there are none, or if the word before it is the same. -/
theorem execute_place_of_word (hd : t.device deviceId = .ok d) (h : execute explainer t deviceId line = .ok r)
    (he : r.error = some report) {token : String} {place : Nat} (ht : report.token = some token)
    (hp : report.position = some place) :
    TextAt line (place + wordsAhead d line) token ∧ (TextAt line place token ↔ wordsAhead d line = 0 ∨
      (Text.words line)[place]?.map Text.Word.text = (Text.words line)[place + 1]?.map Text.Word.text) := by
  obtain ⟨e, word, found, same, -, rfl, -⟩ := execute_names hd h he (Or.inl (by rw [ht]; rfl))
  obtain rfl := Option.some.inj ht
  obtain rfl := Option.some.inj hp
  have behind : TextAt line (e.position + wordsAhead d line) e.token := by
    unfold TextAt
    rw [found, same]
    rfl
  refine ⟨behind, ?_⟩
  unfold TextAt wordsAhead at *
  split at behind
  · rw [behind]
    simp
  · exact ⟨fun _ => Or.inl rfl, fun _ => behind⟩

/-- Of a line that is run by `do` the first word is reported in the place of `do`. -/
theorem execute_place_of_word_within : ∃ d r report, (Topology.reached Topology.configuredPort).device "R1" = .ok d ∧
    execute none (Topology.reached Topology.configuredPort) "R1" "do shw run" = .ok r ∧ r.error = some report ∧
    report.token = some "shw" ∧ report.position = some 0 ∧
    TextAt "do shw run" (0 + wordsAhead d "do shw run") "shw" ∧ ¬TextAt "do shw run" 0 "shw" ∧
    wordsAhead d "do shw run" ≠ 0 := by
  have found : (match execute none (Topology.reached Topology.configuredPort) "R1" "do shw run" with
    | .ok r => r.error.any fun e => e.token = some "shw" && e.position = some 0
    | .error _ => false) = true := by decide +kernel
  have elsewhere : ¬TextAt "do shw run" 0 "shw" := by
    unfold TextAt
    decide
  generalize Topology.configuredPort = cs at found ⊢
  split at found
  · rename_i r h
    obtain ⟨d, hd, -⟩ := bind_eq_ok.1 h
    obtain ⟨report, he, hreport⟩ := (Option.any_eq_true ..).1 found
    obtain ⟨token, place⟩ : report.token = some "shw" ∧ report.position = some 0 := by simpa using hreport
    obtain ⟨behind, here⟩ := execute_place_of_word hd h he token place
    exact ⟨d, r, report, hd, h, he, token, place, behind, elsewhere, fun none => elsewhere (here.2 (Or.inl none))⟩
  · cases found

end Console

end NetRack
