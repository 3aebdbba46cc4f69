import NetRack.Proofs.ReadOnly
import NetRack.Proofs.Resolver.Shift
import NetRack.Proofs.Unseated

/-!
# Lines that are run by `do`

A configuration mode runs a line of privileged mode by `do`.  What comes of it is what comes of the line
after the configuration has been left by `end`: the line is valid or not for the same reason, says the same
and reports the same, and leaves the same lab but for the console, which stays where it is.
-/

namespace NetRack

open Outcome

/-! ## Commands and where the console stands -/

/-- An outcome with the console put away. -/
def Outcome.unseated (o : Outcome) : Outcome := { o with device := o.device.unseated, close := false }

namespace Device

/-- The console is in privileged mode, and its stack has room for another mode. -/
structure AtPrivileged (d : Device) : Prop where
  mode : d.mode = .privileged
  few : d.modeStack.items.length ≤ 2
  capacity : d.modeStack.capacity = 4

/-- The device with its console in privileged mode, as if nothing had been done yet. -/
def privileged (d : Device) : Device := { d.unseated with mode := .privileged }

theorem privileged_atPrivileged (d : Device) : d.privileged.AtPrivileged := ⟨rfl, Nat.zero_le _, rfl⟩

end Device

section Commands

variable {t t' : Topology} {d d' : Device}

theorem targetAddress_unseated (t : Topology) (target : String) :
    ExecCommand.targetAddress t.unseated target = ExecCommand.targetAddress t target := by
  unfold ExecCommand.targetAddress
  rw [Topology.resolveTarget_unseated]

/-- What an exec command does in privileged mode is the same wherever the console came from. -/
theorem execCommand_privileged (h : d.AtPrivileged) (t : Topology) (c : ExecCommand) :
    Outcome.unseated <$> c.apply t d = Outcome.unseated <$> c.apply t.unseated d.privileged := by
  have alike {α : Type} (x : Except Failure α) {f g : α → Except Failure Outcome}
      (same : ∀ a, Outcome.unseated <$> f a = Outcome.unseated <$> g a) :
      Outcome.unseated <$> (x >>= f) = Outcome.unseated <$> (x >>= g) := by
    rw [map_bind, map_bind]
    exact bind_congr same
  unfold ExecCommand.apply
  cases c with
  | enable => rfl
  | disable => rfl
  | endConfig => rfl
  | exit =>
    show Outcome.unseated <$> (if d.isA .pc then _ else _) = Outcome.unseated <$> (if d.isA .pc then _ else _)
    split
    · rfl
    · unfold Device.exitMode
      rw [h.mode]
      rfl
  | configureTerminal =>
    have privileged := d.privileged_atPrivileged
    dsimp only
    rw [enterGlobal_eq h.mode h.few h.capacity,
      enterGlobal_eq privileged.mode privileged.few privileged.capacity]
    rfl
  | copyRunStart => exact alike (liftM (Show.runningConfig d)) fun _ => rfl
  | ping target source =>
    dsimp only
    rw [targetAddress_unseated]
    refine alike _ fun ip => alike (ExecCommand.checkSource d source) fun _ => ?_
    rw [Topology.trace_unseated]
    exact alike (liftM (t.trace d.id ip source)) fun _ => rfl
  | traceroute target =>
    dsimp only
    rw [targetAddress_unseated]
    refine alike _ fun ip => ?_
    rw [Topology.trace_unseated]
    exact alike (liftM (t.trace d.id ip none)) fun _ => rfl
  | display item =>
    have same : item.render t.unseated d.privileged = item.render t d := by
      rw [← item.render_unseated t.unseated d.privileged, t.unseated_unseated]
      exact item.render_unseated t d
    dsimp only
    rw [same]
    exact alike (item.render t d) fun _ => rfl

/-- Exec commands of two labs that differ in consoles only. -/
theorem execCommand_alike (ht : t.unseated = t'.unseated) (hd : d.unseated = d'.unseated) (h : d.AtPrivileged)
    (h' : d'.AtPrivileged) (c : ExecCommand) :
    Outcome.unseated <$> c.apply t d = Outcome.unseated <$> c.apply t' d' := by
  have same : d.privileged = d'.privileged := by
    unfold Device.privileged
    rw [hd]
  rw [execCommand_privileged h, execCommand_privileged h', ht, same]

end Commands

namespace Console

/-! ## Lines in privileged mode -/

section Privileged

variable {t t' : Topology} {d d' : Device}

theorem sameNames_of_unseated (h : d.unseated = d'.unseated) : d.SameNames d' where
  type := (congrArg Device.type h).symm
  names := fun k => by rw [show d'.interfaces = d.interfaces from (congrArg Device.interfaces h).symm]

/-- In privileged mode a line asks for an exec command. -/
theorem exec_of_privileged (hm : d.mode = .privileged) (hpc : d.isA .pc = false) {line : String} {offset : Int}
    {r : Request} (asks : request? d line .privileged offset = .ok (some r)) : ∃ c, r = .command (.exec c) := by
  have admissible := (request?_meets d line offset).value (by rw [hm]; exact asks) r rfl
  obtain ⟨c, rfl, -⟩ := exec_of_outside (by rw [hm]; rfl) hpc admissible
  exact ⟨c, rfl⟩

/-- What a line does in privileged mode is the same in two labs that differ in consoles only, wherever the
line stands and whatever blanks are around it. -/
theorem runPrivileged_alike (ht : t.unseated = t'.unseated) (hd : d.unseated = d'.unseated)
    (h : d.AtPrivileged) (h' : d'.AtPrivileged) (hpc : d.isA .pc = false) (line : String) (offset offset' : Int) :
    (Outcome.unseated <$> runPrivileged t d (Text.trim line) offset).mapError bareFailure =
      (Outcome.unseated <$> runPrivileged t' d' line offset').mapError bareFailure := by
  have same := sameNames_of_unseated hd
  have hpc' : d'.isA .pc = false := by
    unfold Device.isA at hpc ⊢
    rw [same.type]
    exact hpc
  unfold runPrivileged
  rcases mapError_map_eq (request?_trim same line .privileged offset offset') with
    ⟨f, f', hq', hq, alike⟩ | ⟨q', q, hq', hq, alike⟩
  · rw [hq, hq']
    exact congrArg Except.error alike.symm
  · rw [hq, hq', ok_bind, ok_bind]
    cases q with
    | none =>
      cases q' with
      | some r => cases alike
      | none =>
        show Except.ok (Outcome.unseated (ofDevice d)) = Except.ok (Outcome.unseated (ofDevice d'))
        unfold Outcome.unseated ofDevice
        rw [hd]
    | some r =>
      cases q' with
      | none => cases alike
      | some r' =>
        obtain ⟨c, rfl⟩ := exec_of_privileged h.mode hpc hq
        obtain ⟨c', rfl⟩ := exec_of_privileged h'.mode hpc' hq'
        cases alike
        exact congrArg (Except.mapError bareFailure) (execCommand_alike ht hd h h' c)

end Privileged

/-! ## What `end` and `do` ask for -/

/-- Whether a keyword is followed by the rest of the line alone, as an argument of a verb. -/
def takesLine (n : Node) (token name : String) (v : Verb) : Bool :=
  match n.keywords.filter (·.token = token) with
  | [child] =>
    match child.label, child.children with
    | .keyword _ none, [leaf] => leaf.label = .argument name .line none none && leaf.verb = some v
    | _, _ => false
  | _ => false

theorem ofMode_takesLine {m : Mode} (h : m.isConfig = true) :
    takesLine (Grammar.ofMode m) "do" "command" .runExec = true := by
  revert h
  cases m <;> decide +kernel

theorem select_of_takesLine {n : Node} {token name word : String} {v : Verb} (h : takesLine n token name v = true)
    (hw : Text.lower word = token) :
    ∃ child leaf t, n.select word = [child] ∧ child.label = .keyword t none ∧
      (∀ w, child.select w = [leaf]) ∧ leaf.label = .argument name .line none none ∧ leaf.verb = some v := by
  unfold takesLine at h
  split at h
  · rename_i child hfound
    split at h
    · rename_i t leaf hlabel hchildren
      simp only [Bool.and_eq_true, decide_eq_true_eq] at h
      have argument : leaf.isArgument = true := by
        unfold Node.isArgument
        rw [h.1]
        rfl
      refine ⟨child, leaf, t, ?_, hlabel, fun w => ?_, h⟩
      · unfold Node.select
        simp only [hw, hfound]
      · unfold Node.select Node.keywords Node.argument?
        simp [hchildren, argument]
    · cases h
  · cases h

variable {t : Topology} {d : Device} {payload : String}

theorem platform_ios (hpc : d.isA .pc = false) : platform d = .ios := by
  unfold platform
  rw [hpc]
  rfl

/-- The words of a line after `do`. -/
theorem words_do (payload : String) :
    Text.words ("do " ++ payload) = ⟨"do", 0⟩ :: (Text.words payload).map (Text.Word.shift 3) := by
  unfold Text.words
  rw [String.toList_append]
  show ⟨"do", 0⟩ :: Text.wordsFrom (0 + 3) [] payload.toList = _
  rw [Text.wordsFrom_shift (Nat.zero_le _)]

/-- The walk over a line that begins with such a keyword. -/
theorem walk_of_takesLine {n : Node} {token name : String} {v : Verb} (h : takesLine n token name v = true)
    (c : LineContext) (first second : Text.Word) (rest : List Text.Word) (hw : Text.lower first.text = token) :
    ∃ path, c.walk { node := n } 0 (first :: second :: rest) =
      .ok (.ok ⟨v, Table.insert ∅ name (.text (lineFrom c.line second.column)), path,
        Table.insert ∅ name (second.column + c.offset)⟩) := by
  obtain ⟨child, leaf, t, hs, hl, hleaf, hlabel, hverb⟩ := select_of_takesLine h hw
  rw [LineContext.walk_keyword hs hl, LineContext.walk_line (hleaf _) hlabel]
  unfold LineContext.finish Walk.finish Walk.argument
  dsimp only
  rw [hverb]
  exact ⟨_, rfl⟩

/-- In a configuration mode `do` asks for the line after it to be run, without the blanks around it. -/
theorem request?_doLine (hpc : d.isA .pc = false) (hc : d.mode.isConfig = true) {word : Text.Word}
    {rest : List Text.Word} (hw : Text.words payload = word :: rest) :
    ∃ column, request? d ("do " ++ payload) d.mode 0 = .ok (some (.runExec (Text.trim payload) column)) := by
  have words : Text.words ("do " ++ payload) = ⟨"do", 0⟩ :: word.shift 3 :: rest.map (Text.Word.shift 3) := by
    rw [words_do, hw, List.map_cons]
  have line : lineFrom ("do " ++ payload).toList (word.shift 3).column = Text.trim payload := by
    rw [← Text.lineFrom_first hw, String.toList_append]
    unfold lineFrom
    exact congrArg (fun cs => String.ofList (Text.trimChars cs)) (by simp [Text.Word.shift])
  obtain ⟨last, hlast⟩ : ∃ last, (Text.words ("do " ++ payload)).getLast? = some last := by
    rw [words]
    exact ⟨_, List.getLast?_cons⟩
  obtain ⟨path, walked⟩ := walk_of_takesLine (ofMode_takesLine hc)
    ⟨("do " ++ payload).toList, some d, 0, last, (Text.words ("do " ++ payload)).length - 1⟩
    ⟨"do", 0⟩ (word.shift 3) (rest.map (Text.Word.shift 3))
    (show Text.lower "do" = "do" by decide +kernel)
  rw [← words, line] at walked
  unfold request? resolve
  rw [platform_ios hpc]
  dsimp only
  rw [hlast]
  dsimp only [Grammar.root]
  rw [walked]
  exact ⟨_, rfl⟩

/-- In a configuration mode `end` asks for the configuration to be left. -/
theorem request?_end (hpc : d.isA .pc = false) (hc : d.mode.isConfig = true) :
    request? d "end" d.mode 0 = .ok (some (.command (.exec .endConfig))) := by
  unfold request?
  rw [platform_ios hpc]
  cases hm : d.mode with
  | user => rw [hm] at hc; cases hc
  | privileged => rw [hm] at hc; cases hc
  | _ => rfl

/-- A line with a word asks for something. -/
theorem request?_ne_none {line : String} {mode : Mode} {offset : Int} {word : Text.Word} {rest : List Text.Word}
    (hw : Text.words line = word :: rest) : request? d line mode offset ≠ .ok none := by
  intro asks
  unfold request? at asks
  obtain ⟨x, hx, hq⟩ := bind_eq_ok.1 asks
  have hx := liftM_eq_ok.1 hx
  unfold resolve at hx
  dsimp only at hx
  rw [hw, List.getLast?_cons] at hx
  obtain ⟨r, -, rfl⟩ := map_eq_ok.1 hx
  cases r with
  | error e => cases hq
  | ok r =>
    obtain ⟨q, -, heq⟩ := bind_eq_ok.1 hq
    cases heq

/-- A line with a word, in privileged mode, is run as it is from within another mode. -/
theorem run_privileged (hm : d.mode = .privileged) (hpc : d.isA .pc = false) {word : Text.Word}
    {rest : List Text.Word} (hw : Text.words payload = word :: rest) :
    run t d payload = some <$> runPrivileged t d payload 0 := by
  unfold run runPrivileged
  rw [hm]
  cases hq : request? d payload .privileged 0 with
  | error f => rfl
  | ok q =>
    cases q with
    | none => exact absurd hq (request?_ne_none hw)
    | some r =>
      obtain ⟨c, rfl⟩ := exec_of_privileged hm hpc hq
      rfl

/-! ## Results -/

/-- Failures that differ in columns alone are reported alike, or are no business of the console. -/
theorem reportFailure_alike {f f' : Failure} (h : bareFailure f = bareFailure f') (prompt prompt' : String) :
    (∃ e, reportFailure prompt f = .error e ∧ reportFailure prompt' f' = .error e) ∨
      ∃ e output output', reportFailure prompt f = .ok (e, output) ∧ reportFailure prompt' f' = .ok (e, output') := by
  cases f with
  | unresolved e =>
    cases f' with
    | unresolved e' =>
      obtain ⟨problem, token, position, column⟩ := e
      obtain ⟨problem', token', position', column'⟩ := e'
      obtain ⟨rfl, rfl, rfl, -⟩ := ResolutionError.mk.inj (Failure.unresolved.inj h)
      exact Or.inr ⟨_, _, _, rfl, rfl⟩
    | refused r => cases h
    | fault e => cases h
  | refused r =>
    cases f' with
    | unresolved e' => cases h
    | refused r' =>
      cases h
      exact Or.inr ⟨_, _, _, rfl, rfl⟩
    | fault e => cases h
  | fault e =>
    cases f' with
    | unresolved e' => cases h
    | refused r' => cases h
    | fault e' =>
      cases h
      unfold reportFailure
      dsimp only
      split
      · exact Or.inr ⟨_, _, _, rfl, rfl⟩
      · exact Or.inl ⟨_, rfl, rfl⟩

theorem linkNotices_unseated (before after : Device) :
    Show.linkNotices before.unseated after.unseated = Show.linkNotices before after := rfl

end Console

/-! ## Labs that differ in one console -/

/-- A topology with the console of one device put away. -/
def Topology.unseatedAt (t : Topology) (key : String) : Topology := t.modifyDevice key Device.unseated

/-- Two results are the same but for what concerns the console of a device. -/
structure CommandResult.SameBut (key : String) (r r' : CommandResult) : Prop where
  valid : r.valid = r'.valid
  error : r.error = r'.error
  report : r.report = r'.report
  output : r.valid = true → r.output = r'.output
  topology : r.topology.unseatedAt key = r'.topology.unseatedAt key

/-- A result leaves the console of a device where it was, and open. -/
structure CommandResult.StaysAt (key : String) (d : Device) (r : CommandResult) : Prop where
  modeChange : r.modeChange = none
  close : r.close = false
  console : ∃ d', r.topology.devices.get? key = some d' ∧ d'.mode = d.mode ∧ d'.modeStack = d.modeStack ∧
    d'.context = d.context

namespace Topology

variable {t : Topology} {key : String} {d x : Device}

theorem unseatedAt_eq (hd : t.devices.get? key = some d) : t.unseatedAt key = t.replaced key d.unseated :=
  (replaced_eq_modifyDevice hd Device.unseated).symm

theorem unseatedAt_replaced (hd : t.devices.get? key = some d) (x : Device) :
    (t.replaced key x).unseatedAt key = t.replaced key x.unseated := by
  rw [unseatedAt_eq (get?_replaced_self hd x), replaced_replaced]

theorem unseated_replaced (hd : t.devices.get? key = some d) (hx : x.unseated = d.unseated) :
    (t.replaced key x).unseated = t.unseated := by
  have devices : (t.devices.modify key fun _ => x).mapValues (fun _ => Device.unseated) =
      t.devices.mapValues fun _ => Device.unseated := by
    refine Table.mapValues_modify fun y hy => ?_
    rw [hd] at hy
    rw [hx, Option.some.inj hy]
  unfold unseated
  exact congrArg (fun devices => { t with devices }) devices

end Topology

namespace Console

variable {t : Topology} {key : String} {d : Device} {payload : String}

/-- The device with its console in privileged mode for the time of another line. -/
theorem lent_atPrivileged (hs : d.Seated) : ({ d with mode := .privileged } : Device).AtPrivileged :=
  ⟨rfl, hs.stacked.few, hs.stacked.capacity⟩

theorem endConfig_atPrivileged (hs : d.Seated) : d.endConfig.AtPrivileged :=
  ⟨rfl, Nat.zero_le _, hs.stacked.capacity⟩

/-- Leaving the configuration is what `end` does, and nothing else. -/
theorem run_end (hpc : d.isA .pc = false) (hc : d.mode.isConfig = true) :
    run t d "end" = .ok (some (ofDevice d.endConfig)) := by
  rw [run_command (request?_end hpc hc)]
  rfl

/-- What comes of a line that only looks, once it has been attempted. -/
theorem execute_looks (h : t.Orderly) {device : String} (hd : t.device device = .ok d) (explainer : Option Explainer)
    {line : String} {o : Outcome} (hrun : run t d line = .ok (some o)) (l : Looks d o) :
    execute explainer t device line =
      doneResult d o (t.replaced (Topology.deviceKey device) o.device) o.device := by
  have settled := settle_looks h (Topology.device_eq_ok.1 hd) l
  unfold execute attempt
  rw [hd, ok_bind, hrun, ok_bind]
  dsimp only
  rw [settled]
  rfl

/-- What comes of a line that fails. -/
theorem execute_fails {device : String} (hd : t.device device = .ok d) (explainer : Option Explainer)
    {line : String} {f : Failure} (hrun : run t d line = .error f) :
    execute explainer t device line = (reportFailure d.prompt f >>= fun x =>
      pure (failedResult explainer t d.prompt line x.1 x.2)) := by
  unfold execute attempt
  rw [hd, ok_bind, hrun]
  rfl

/-- The result of a line that did something, given what is said about links. -/
theorem doneResult_eq {before after : Device} {notices : List String}
    (h : Show.linkNotices before after = .ok notices) (o : Outcome) (t : Topology) :
    doneResult before o t after = .ok {
      valid := true
      output := Text.unlines ((o.output :: notices).filter fun s => !s.isEmpty)
      topology := t
      prompt := after.prompt
      modeChange := if after.mode = before.mode then none else some after.mode
      hostnameChange := if after.hostname = before.hostname then none else some after.hostname
      close := o.close
      report := o.report } := by
  unfold doneResult
  rw [h]
  rfl

/-- In a configuration mode `end` succeeds and leaves the configuration. -/
theorem execute_end (h : t.Orderly) {device : String} (hd : t.device device = .ok d) (hc : d.mode.isConfig = true)
    (explainer : Option Explainer) : ∃ r, execute explainer t device "end" = .ok r ∧ r.valid = true ∧
      r.topology = t.replaced (Topology.deviceKey device) d.endConfig := by
  have hget := Topology.device_eq_ok.1 hd
  have hsound := h.sound.devices _ d hget
  have hseated := h.seated _ d hget
  have hid : t.devices.get? d.id = some d := by rw [h.sound.identified _ d hget, hget]
  have looks : Looks d (ofDevice d.endConfig) :=
    (execCommand_answers (c := .endConfig) h.sound hid rfl hsound (Or.inl hseated.stacked) hc fun ho => by
      cases ho).value rfl
  obtain ⟨notices, hnotices, -⟩ :=
    (linkNotices_yields d (looks.delivers hsound hseated).sound).exists_ok
  rw [execute_looks h hd explainer (run_end (not_host hseated hc) hc) looks, doneResult_eq hnotices]
  exact ⟨_, rfl, rfl, rfl⟩

/-- What comes of a line that is run by `do` is what comes of it once the configuration has been left. -/
theorem execute_do (h : t.Orderly) {device : String} (hd : t.device device = .ok d) (hc : d.mode.isConfig = true)
    {word : Text.Word} {rest : List Text.Word} (hw : Text.words payload = word :: rest)
    (explainer : Option Explainer) {t₀ : Topology} (h₀ : t₀.Orderly)
    (ended : t₀ = t.replaced (Topology.deviceKey device) d.endConfig) :
    (∃ f, execute explainer t device ("do " ++ payload) = .error f ∧ execute explainer t₀ device payload = .error f) ∨
      ∃ r r₀, execute explainer t device ("do " ++ payload) = .ok r ∧ execute explainer t₀ device payload = .ok r₀ ∧
        r.SameBut (Topology.deviceKey device) r₀ ∧ (r.valid = true → r.StaysAt (Topology.deviceKey device) d) := by
  have hget := Topology.device_eq_ok.1 hd
  have hseated := h.seated _ d hget
  have hpc := not_host hseated hc
  have hget₀ : t₀.devices.get? (Topology.deviceKey device) = some d.endConfig := by
    rw [ended]
    exact Topology.get?_replaced_self hget _
  have hd₀ : t₀.device device = .ok d.endConfig := Topology.device_eq_ok.2 hget₀
  obtain ⟨column, asks⟩ := request?_doLine hpc hc hw
  have within : run t d ("do " ++ payload) = some <$> runFromConfig t d (Text.trim payload) column :=
    run_runExec asks
  have outside := run_privileged (t := t₀) (d := d.endConfig) rfl hpc hw
  have labs : t.unseated = t₀.unseated := by
    rw [ended, Topology.unseated_replaced (x := d.endConfig) hget rfl]
  have unseatedAt : t₀.unseatedAt (Topology.deviceKey device) =
      t.replaced (Topology.deviceKey device) d.unseated := by
    rw [ended, Topology.unseatedAt_replaced hget]
    rfl
  have alike := @runPrivileged_alike t t₀ { d with mode := .privileged } d.endConfig labs rfl
    (lent_atPrivileged hseated) (endConfig_atPrivileged hseated) hpc payload column 0
  rcases mapError_map_eq alike with ⟨f, f₀, hx, hx₀, bare⟩ | ⟨o, o₀, hx, hx₀, same⟩
  · have fails : run t d ("do " ++ payload) = .error f := by
      rw [within]
      unfold runFromConfig
      rw [hx]
      rfl
    have fails₀ : run t₀ d.endConfig payload = .error f₀ := by rw [outside, hx₀]; rfl
    rw [execute_fails hd explainer fails, execute_fails hd₀ explainer fails₀]
    rcases reportFailure_alike bare d.prompt d.endConfig.prompt with ⟨e, hr, hr₀⟩ | ⟨e, out, out₀, hr, hr₀⟩
    · rw [hr, hr₀]
      exact Or.inl ⟨e, rfl, rfl⟩
    · rw [hr, hr₀]
      refine Or.inr ⟨_, _, rfl, rfl, ⟨rfl, rfl, rfl, fun hv => (by cases hv), ?_⟩, fun hv => by cases hv⟩
      show t.unseatedAt _ = t₀.unseatedAt _
      rw [unseatedAt, Topology.unseatedAt_eq hget]
  · have kept : runFromConfig t d (Text.trim payload) column =
        .ok { o with device := d.restored o.device, close := false } := by
      unfold runFromConfig
      rw [hx]
      rfl
    obtain ⟨looks, startupConfig, saved⟩ := (runFromConfig_saves h hget hc _ _).value kept
    have succeeds₀ : run t₀ d.endConfig payload = .ok (some o₀) := by rw [outside, hx₀]; rfl
    have looks₀ := (run_outside h₀ hget₀ hpc rfl payload).value succeeds₀ o₀ rfl
    obtain ⟨devices, output, -, -, -, report⟩ := Outcome.mk.inj same
    have devices : (d.restored o.device).unseated = o₀.device.unseated := devices
    obtain ⟨notices, hnotices, -⟩ :=
      (linkNotices_yields d (looks.delivers (h.sound.devices _ d hget) hseated).sound).exists_ok
    have hnotices₀ : Show.linkNotices d.endConfig o₀.device = .ok notices := by
      rw [← hnotices, ← linkNotices_unseated, ← devices]
      rfl
    rw [execute_looks h hd explainer (by rw [within, kept]; rfl) looks, doneResult_eq hnotices,
      execute_looks h₀ hd₀ explainer succeeds₀ looks₀, doneResult_eq hnotices₀]
    refine Or.inr ⟨_, _, rfl, rfl, ⟨rfl, rfl, report, fun _ => ?_, ?_⟩, fun _ => ⟨if_pos rfl, rfl, ?_⟩⟩
    · dsimp only
      rw [output]
    · show (t.replaced _ (d.restored o.device)).unseatedAt _ = (t₀.replaced _ o₀.device).unseatedAt _
      rw [Topology.unseatedAt_replaced hget, Topology.unseatedAt_replaced hget₀, devices, ended,
        Topology.replaced_replaced]
    · refine ⟨_, Topology.get?_replaced_self hget _, ?_⟩
      show (d.restored o.device).mode = d.mode ∧ (d.restored o.device).modeStack = d.modeStack ∧
        (d.restored o.device).context = d.context
      rw [show d.restored o.device = _ from saved]
      exact ⟨rfl, rfl, rfl⟩

end Console

namespace Topology

/-- A line that a device runs by `do` comes to what the line comes to after `end`: the fault is the same, or
the results are the same but for the console of the device, which stays where it is if the line is valid. -/
def DoesAsAfterEnd (t : Topology) (explainer : Option Explainer) (device : String) (d : Device)
    (payload : String) : Prop :=
  ∃ ended, Console.execute explainer t device "end" = .ok ended ∧ ended.valid = true ∧
    ((∃ f, Console.execute explainer t device ("do " ++ payload) = .error f ∧
        Console.execute explainer ended.topology device payload = .error f) ∨
      ∃ r r₀, Console.execute explainer t device ("do " ++ payload) = .ok r ∧
        Console.execute explainer ended.topology device payload = .ok r₀ ∧
        r.SameBut (deviceKey device) r₀ ∧ (r.valid = true → r.StaysAt (deviceKey device) d))

/-- Whatever was done to a lab, a configuration mode runs any line by `do` as it is run after `end`. -/
theorem reached_do (cs : List Change) (explainer : Option Explainer) {device : String} {d : Device}
    (hd : (reached cs).device device = .ok d) (hc : d.mode.isConfig = true) {payload : String}
    (hp : ∃ c ∈ payload.toList, Text.isBlank c = false) :
    (reached cs).DoesAsAfterEnd explainer device d payload := by
  have h := reached_orderly cs
  obtain ⟨ended, hended, valid, left⟩ := Console.execute_end h hd hc explainer
  have orderly : ended.topology.Orderly := by
    have next : (reached cs).next (.command explainer device "end") = ended.topology := by
      unfold next perform
      dsimp only
      rw [hended]
      rfl
    rw [← next]
    exact h.next _
  obtain ⟨word, rest, hw⟩ := Text.words_of_not_blank hp
  exact ⟨ended, hended, valid, Console.execute_do h hd hc hw explainer orderly left⟩

/-- A router of which a port is configured. -/
def configuredPort : List Change := [
  .addDevice "R1" "router" none, .command none "R1" "enable", .command none "R1" "configure terminal",
  .command none "R1" "interface Gi0/0"]

/-- From within the configuration of the port `exit` does not close the console. -/
theorem configuredPort_do : ∃ d, (reached configuredPort).device "R1" = .ok d ∧ d.mode.isConfig = true ∧
    (∃ c ∈ " exit".toList, Text.isBlank c = false) ∧
    (reached configuredPort).DoesAsAfterEnd none "R1" d " exit" := by
  have configured : ((reached configuredPort).devices.get? (deviceKey "R1")).any (·.mode.isConfig) = true := by
    decide +kernel
  generalize configuredPort = cs at configured ⊢
  obtain ⟨d, hd, hc⟩ := (Option.any_eq_true ..).1 configured
  have hp : ∃ c ∈ " exit".toList, Text.isBlank c = false := ⟨'e', by decide, by decide⟩
  exact ⟨d, device_eq_ok.2 hd, hc, hp, reached_do cs none (device_eq_ok.2 hd) hc hp⟩

end Topology

end NetRack
