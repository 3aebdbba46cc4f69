import NetRack.Proofs.Command.Decode
import NetRack.Proofs.Console.Settle

/-!
# What comes of a line

A line trips over a number that cannot be read where it needs the number.  Every other line gives a
result, whatever the device and its mode: the line is refused in so many words and nothing has changed,
or the lab is in order after it.  Nothing goes wrong inside.
-/

namespace NetRack

open Outcome

namespace Console

/-- A line at a column needs a number that has too many digits or is none at all: one that the resolver
looks at, the number of an access list that is put in order, or that of an interface which is made. -/
inductive Trips : Device → String → Int → Prop where
  | numeral {d : Device} {line : String} {offset : Int}
      (h : MeetsOverlong (some d) (Grammar.root d.mode (platform d)) (Text.words line)) : Trips d line offset
  | lists {d : Device} {line : String} {offset : Int} {c : ExecCommand}
      (asks : request? d line d.mode offset = .ok (some (.command (.exec c))))
      (orders : c.ordersLists = true) (long : d.HasLongList) : Trips d line offset
  | interface {d : Device} {line : String} {offset : Int} {name : String}
      (asks : request? d line d.mode offset = .ok (some (.command (.global (.interface name)))))
      (new : d.interfaces.contains name = false) (unreadable : InterfaceName.isReadable name = false) :
      Trips d line offset
  | within {d : Device} {line payload : String} {offset column : Int}
      (asks : request? d line d.mode offset = .ok (some (.runExec payload column)))
      (inner : Trips { d with mode := .privileged } payload column) : Trips d line offset

end Console

/-! ## Exec commands -/

section Looks

variable {d : Device} {o : Outcome}

/-- A command that leaves the network alone reports in full. -/
theorem Looks.delivers (l : Looks d o) (h : d.Sound) (hs : d.Seated) : Delivers d o where
  toReports := by
    obtain ⟨mode, items, context, startupConfig, heq⟩ := l.device
    exact Reports.apart h ⟨by rw [heq], by rw [heq], by rw [heq], by rw [heq], by rw [heq]⟩ (by rw [heq])
      (by rw [heq]) (by rw [heq]) l.touched
  seated := l.seated hs

theorem Device.Seated.outside (hs : d.Seated) :
    ({ d with mode := .privileged } : Device).HasRoom := Or.inr ⟨rfl, hs.stacked.few, hs.stacked.capacity⟩

/-- A device with the console of another where that console was. -/
def Device.restored (d y : Device) : Device :=
  { y with
    mode := d.mode
    modeStack := { y.modeStack with items := d.modeStack.items }
    context := d.context }

/-- What a command that is run from within another mode leaves of a device. -/
theorem kept_delivers (h : d.Sound) (hs : d.Seated) (l : Looks { d with mode := .privileged } o) :
    Delivers d { o with device := d.restored o.device, close := false } := by
  obtain ⟨mode, items, context, startupConfig, heq⟩ := l.device
  have stacked := hs.stacked
  unfold Device.Stacked at stacked
  refine delivers_of_essence h hs ?_ l.touched
  rw [heq]
  unfold Device.restored Device.essence
  rw [stacked]

end Looks

namespace Console

variable {t : Topology} {key : String} {d : Device} {line : String}

/-! ## Commands -/

/-- A command that is admissible is refused or reports in full. -/
theorem apply_answers (h : t.Orderly) (hd : t.devices.get? key = some d) {c : Command} (ha : c.Admissible d)
    (hlists : ∀ e, c = .exec e → e.ordersLists = true → ¬d.HasLongList)
    (readable : ∀ name, c = .global (.interface name) →
      name ∈ d.interfaces.keys ∨ InterfaceName.isReadable name = true) :
    Answers (Delivers d) (c.apply t d) := by
  have hsound := h.sound.devices key d hd
  have hseated := h.seated key d hd
  have hid : t.devices.get? d.id = some d := by rw [h.sound.identified key d hd, hd]
  unfold Command.apply
  cases c with
  | exec c =>
    refine Meets.imp ?_ fun o (ho : Looks d o) => ho.delivers hsound hseated
    exact execCommand_answers h.sound hid rfl hsound (Or.inl hseated.stacked) ha (hlists c rfl)
  | global c =>
    exact globalCommand_delivers hsound hseated ha.1 ha.2 fun name hc => readable name (by rw [hc])
  | interface c => exact interfaceCommand_delivers hsound hseated ha.1 ha.2
  | router c => exact routerCommand_delivers hsound hseated ha c
  | line c => exact lineCommand_delivers hsound hseated ha c
  | vlanName name => exact nameVlan_delivers hsound hseated ha name
  | aclRule rule => exact addRule_delivers hsound hseated ha rule
  | pool c => exact poolCommand_delivers hsound hseated ha c
  | host c => exact hostCommand_delivers hsound hseated ha.1 ha.2

/-- Outside of configuration only exec commands are admissible. -/
theorem exec_of_outside (outside : d.mode.isConfig = false) (hpc : d.isA .pc = false) {r : Request}
    (ha : r.Admissible d) : ∃ c, r = .command (.exec c) ∧ c.Admissible d := by
  have never {m : Mode} (hm : d.mode = m) (hc : m.isConfig = true) : False := by
    rw [hm, hc] at outside
    cases outside
  cases r with
  | runExec payload column => exact absurd (outside.symm.trans ha) (by decide)
  | command c =>
    cases c with
    | exec c => exact ⟨c, rfl, ha⟩
    | global c => exact absurd (outside.symm.trans ha.1) (by decide)
    | interface c => exact (never ha.1 rfl).elim
    | router c => exact (never ha rfl).elim
    | line c => exact (never ha rfl).elim
    | vlanName name => exact (never ha rfl).elim
    | aclRule rule => exact (never ha rfl).elim
    | pool c => exact (never ha rfl).elim
    | host c => exact absurd (hpc.symm.trans ha.1) (by decide)

/-- A device whose console is in a configuration mode is no end host. -/
theorem not_host (hs : d.Seated) (hc : d.mode.isConfig = true) : d.isA .pc = false := by
  cases hpc : d.isA .pc with
  | false => rfl
  | true =>
    rw [hs.host hpc] at hc
    cases hc

/-- A line without overlong numerals is blank, is refused or asks for what its console may be asked for. -/
theorem request?_answers {offset : Int}
    (short : ¬MeetsOverlong (some d) (Grammar.root d.mode (platform d)) (Text.words line)) :
    Answers (fun q => request? d line d.mode offset = .ok q ∧ ∀ r, q = some r → r.Admissible d)
      (request? d line d.mode offset) := by
  have asked := request?_meets d line offset
  cases hq : request? d line d.mode offset with
  | error f => exact (asked.cause hq).resolve_right fun overlong => short overlong.2
  | ok q => exact ⟨rfl, asked.value hq⟩

/-- A line that is given in privileged mode, from within another mode, is refused or only looks. -/
theorem runPrivileged_answers (h : t.Orderly) (hd : t.devices.get? key = some d)
    (hc : d.mode.isConfig = true) {column : Int}
    (ht : ¬Trips { d with mode := .privileged } line column) :
    Answers (Looks { d with mode := .privileged })
      (runPrivileged t { d with mode := .privileged } line column) := by
  have hsound := h.sound.devices key d hd
  have hseated := h.seated key d hd
  have hid : t.devices.get? d.id = some d := by rw [h.sound.identified key d hd, hd]
  have hsound' := hsound.with_mode .privileged
  unfold runPrivileged
  refine (request?_answers (d := { d with mode := .privileged }) fun hlong => ht (.numeral hlong)).bind
    fun q ⟨hq, admissible⟩ => ?_
  cases q with
  | none =>
    have capacity : ({ d with mode := .privileged } : Device).modeStack.capacity = 4 := hseated.outside.capacity
    exact .of_same capacity rfl rfl rfl
  | some r =>
    have hpc := not_host hseated hc
    obtain ⟨c, rfl, ha⟩ := exec_of_outside (d := { d with mode := .privileged }) rfl hpc (admissible r rfl)
    exact execCommand_answers (d := { d with mode := .privileged }) h.sound hid rfl hsound' hseated.outside ha
      fun hl hlong => ht (.lists hq hl hlong)

/-- A line that is run in privileged mode from within another mode is refused or reports in full. -/
theorem runFromConfig_answers (h : t.Orderly) (hd : t.devices.get? key = some d)
    (hc : d.mode.isConfig = true) {column : Int}
    (ht : ¬Trips { d with mode := .privileged } line column) :
    Answers (Delivers d) (runFromConfig t d line column) := by
  unfold runFromConfig
  refine (runPrivileged_answers h hd hc ht).bind fun o ho => ?_
  exact kept_delivers (h.sound.devices key d hd) (h.seated key d hd) ho

/-! ## Lines -/

/-- A line that asks for a command does what the command does. -/
theorem run_command {c : Command} (asked : request? d line d.mode 0 = .ok (some (.command c))) :
    run t d line = some <$> c.apply t d := by
  unfold run
  rw [asked]
  rfl

/-- A line that runs another in privileged mode does what that one does. -/
theorem run_runExec {payload : String} {column : Int}
    (asked : request? d line d.mode 0 = .ok (some (.runExec payload column))) :
    run t d line = some <$> runFromConfig t d payload column := by
  unfold run
  rw [asked]
  rfl

/-- What comes of all that a line may ask for comes of the line, unless it is blank. -/
theorem run_meets {allowed : Failure → Prop} {A : Request → Prop} {P : Outcome → Prop}
    (asked : Meets allowed (fun q => ∀ r, q = some r → A r) (request? d line d.mode 0))
    (command : ∀ c, A (.command c) → Meets allowed P (c.apply t d))
    (runExec : ∀ payload column, A (.runExec payload column) → Meets allowed P (runFromConfig t d payload column)) :
    Meets allowed (fun x => ∀ o, x = some o → P o) (run t d line) := by
  have one {x : Except Failure Outcome} (hx : Meets allowed P x) :
      Meets allowed (fun y => ∀ o, y = some o → P o) (some <$> x) :=
    Meets.map (hx.imp fun o ho o' same => Option.some.inj same ▸ ho)
  refine asked.bind fun q hq => ?_
  match q, hq with
  | none, _ => exact fun o ho => by cases ho
  | some (.command c), hq => exact one (command c (hq _ rfl))
  | some (.runExec payload column), hq => exact one (runExec payload column (hq _ rfl))

/-- A line that does not trip is blank, is refused or reports in full. -/
theorem run_answers (h : t.Orderly) (hd : t.devices.get? key = some d) (ht : ¬Trips d line 0) :
    Answers (fun x => ∀ o, x = some o → Delivers d o) (run t d line) := by
  have asked : Answers (fun q => ∀ r, q = some r →
      request? d line d.mode 0 = .ok (some r) ∧ r.Admissible d) (request? d line d.mode 0) :=
    (request?_answers fun hlong => ht (.numeral hlong)).imp fun q ⟨hq, admissible⟩ r hr =>
      ⟨hr ▸ hq, admissible r hr⟩
  refine run_meets asked (fun c ⟨hq, ha⟩ => apply_answers h hd ha ?_ ?_) fun payload column ⟨hq, ha⟩ => ?_
  · rintro e rfl hl hlong
    exact ht (.lists hq hl hlong)
  · rintro name rfl
    by_cases hnew : d.interfaces.contains name = true
    · exact Or.inl (Table.contains_iff.1 hnew)
    · refine Or.inr ?_
      by_contra unreadable
      exact ht (.interface hq (by simpa using hnew) (by simpa using unreadable))
  · exact runFromConfig_answers h hd ha fun hinner => ht (.within hq hinner)

/-- A line that does not trip is blank, is refused or leaves the lab in order. -/
theorem attempt_answers (h : t.Orderly) (hd : t.devices.get? key = some d) (ht : ¬Trips d line 0) :
    Answers (fun x => ∀ o u d', x = some (o, u, d') → Delivers d o ∧ t.Carried key o u d')
      (attempt t key d line) := by
  unfold attempt
  refine (run_answers h hd ht).bind fun x hx => ?_
  cases x with
  | none => exact fun o u d' ho => by cases ho
  | some o =>
    have ho := hx o rfl
    refine (Topology.settle_yields h hd ho).lift.bind fun r hr => ?_
    intro o' u d' heq
    cases heq
    exact ⟨ho, hr⟩

/-- A line that trips in privileged mode, from within another mode, comes to nothing. -/
theorem runFromConfig_trips (h : t.Orderly) (hd : t.devices.get? key = some d)
    (hc : d.mode.isConfig = true) {column : Int} (ht : Trips { d with mode := .privileged } line column) :
    runFromConfig t d line column = .error (.fault .badNumber) := by
  have hsound := h.sound.devices key d hd
  have hpc := not_host (h.seated key d hd) hc
  have asked := request?_meets { d with mode := .privileged } line column
  have failed : runPrivileged t { d with mode := .privileged } line column = .error (.fault .badNumber) := by
    unfold runPrivileged
    cases ht with
    | numeral hlong =>
      rw [request?_overlong hlong]
      rfl
    | lists asks orders long =>
      have failed := execCommand_error (t := t) (hsound.with_mode .privileged) orders long
      rw [show request? { d with mode := .privileged } line .privileged column = _ from asks]
      exact failed
    | interface asks =>
      -- Interfaces are not configured in privileged mode.
      obtain ⟨c, heq, -⟩ := exec_of_outside (d := { d with mode := .privileged }) rfl hpc (asked.value asks _ rfl)
      cases heq
    | within asks =>
      obtain ⟨c, heq, -⟩ := exec_of_outside (d := { d with mode := .privileged }) rfl hpc (asked.value asks _ rfl)
      cases heq
  unfold runFromConfig
  rw [failed]
  rfl

/-- A line that trips comes to nothing. -/
theorem attempt_trips (h : t.Orderly) (hd : t.devices.get? key = some d) (ht : Trips d line 0) :
    attempt t key d line = .error (.fault .badNumber) := by
  have hsound := h.sound.devices key d hd
  have hseated := h.seated key d hd
  have asked := request?_meets d line 0
  unfold attempt
  cases ht with
  | numeral hlong =>
    unfold run
    rw [request?_overlong hlong]
    rfl
  | lists asks orders long =>
    have failed := execCommand_error (t := t) hsound orders long
    rw [run_command asks]
    dsimp only [Command.apply]
    rw [failed, map_error, error_bind]
  | interface asks new unreadable =>
    obtain ⟨hc, possible⟩ := asked.value asks _ rfl
    rw [← Bool.not_eq_true, Table.contains_iff] at new
    obtain ⟨o, i, hok, hid, hi, hname, htouched⟩ := configureInterface_new hseated hc possible new
    have failed := Topology.settle_unreadable h.sound hd hid hi hname htouched
      (new_interface_kind possible new).1 unreadable
    rw [run_command asks]
    dsimp only [Command.apply, GlobalCommand.apply]
    rw [hok, map_ok, ok_bind]
    dsimp only
    rw [failed]
    rfl
  | within asks inner =>
    have hc : d.mode.isConfig = true := asked.value asks _ rfl
    have failed := runFromConfig_trips h hd hc inner
    rw [run_runExec asks, failed, map_error, error_bind]

/-! ## Results -/

/-- A refusal is reported, and never as an internal error. -/
theorem reportFailure_yields (prompt : String) {f : Failure} (hf : f.isPolite) :
    Yields (fun x => x.1.kind ≠ .propagation) (reportFailure prompt f) := by
  cases f with
  | unresolved e =>
    show e.problem.kind ≠ .propagation
    cases e.problem <;> decide
  | refused r =>
    show r.kind ≠ .propagation
    unfold Refusal.kind
    split <;> decide
  | fault f => exact hf.elim

theorem doneResult_yields (before : Device) (o : Outcome) (u : Topology) {after : Device} (h : after.Sound) :
    Yields (fun r => r.topology = u ∧ r.error = none) (doneResult before o u after) := by
  unfold doneResult
  exact (linkNotices_yields before h).bind fun _ _ => ⟨rfl, rfl⟩

/-- What becomes of the lab by a line that has been attempted. -/
def attempted (t : Topology) (x : Except Failure (Option (Outcome × Topology × Device))) : Topology :=
  match x with
  | .ok (some (_, u, _)) => u
  | _ => t

/-- A line that does not trip gives a result that reports no internal error. -/
theorem execute_yields (h : t.Orderly) (explainer : Option Explainer) {deviceId : String}
    (hd : t.device deviceId = .ok d) (ht : ¬Trips d line 0) :
    Yields (fun r => r.topology = attempted t (attempt t (Topology.deviceKey deviceId) d line) ∧
      ∀ e, r.error = some e → e.kind ≠ .propagation) (execute explainer t deviceId line) := by
  have hget := Topology.device_eq_ok.1 hd
  have answers := (attempt_answers h hget ht).exact
  unfold execute
  rw [hd, ok_bind]
  cases hx : attempt t (Topology.deviceKey deviceId) d line with
  | error f =>
    rw [hx] at answers
    refine (reportFailure_yields d.prompt answers.2).bind ?_
    rintro ⟨error, output⟩ hkind
    exact ⟨rfl, fun e he => by cases he; exact hkind⟩
  | ok x =>
    cases x with
    | none => exact ⟨rfl, fun e he => by cases he⟩
    | some x =>
      obtain ⟨o, u, d'⟩ := x
      obtain ⟨-, carried⟩ := answers.value hx o u d' rfl
      have hsound := carried.orderly.sound.devices _ _ carried.device
      refine (doneResult_yields d o u hsound).imp fun r hr => ⟨hr.1, fun e he => ?_⟩
      rw [hr.2] at he
      cases he

theorem execute_trips (h : t.Orderly) (explainer : Option Explainer) {deviceId : String}
    (hd : t.device deviceId = .ok d) (ht : Trips d line 0) :
    execute explainer t deviceId line = .error .badNumber := by
  have hget := Topology.device_eq_ok.1 hd
  unfold execute
  rw [hd, ok_bind, attempt_trips h hget ht]
  rfl

end Console

end NetRack
