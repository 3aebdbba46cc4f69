import NetRack.Proofs.Command.Reports
import NetRack.Proofs.Show
import NetRack.Proofs.Trace

/-!
# What exec commands do

Exec commands leave all of a device alone but where its console stands and what it has saved.  They may
be run from within another mode, which lends its stack of modes.
-/

namespace NetRack

open Outcome

variable {t : Topology} {d : Device} {o : Outcome}

/-- The stack of the console is its own, or that of a configuration mode while a command is run from
within it. -/
def Device.HasRoom (d : Device) : Prop :=
  d.Stacked ∨ (d.mode = .privileged ∧ d.modeStack.items.length ≤ 2 ∧ d.modeStack.capacity = 4)

/-- Nothing but where the console stands and what is saved has changed. -/
structure Looks (d : Device) (o : Outcome) : Prop where
  device : ∃ mode items context startupConfig,
    o.device = { d with mode, modeStack := ⟨items, 4⟩, context, startupConfig }
  touched : o.touched = []
  routing : o.routing = false
  seated : d.Seated → o.device.Seated

/-- What a console makes sure of before it gives an exec command to a device. -/
def ExecCommand.Admissible (d : Device) : ExecCommand → Prop
  | .enable => d.mode.isConfig = false ∧ d.isA .pc = false
  | .disable => d.mode = .privileged
  | .endConfig => d.mode.isConfig = true
  | .configureTerminal => d.mode = .privileged
  | _ => True

/-- Whether a command has access lists put in order. -/
def ExecCommand.ordersLists : ExecCommand → Bool
  | .copyRunStart => true
  | .display item => item.ordersLists
  | _ => false

theorem Looks.of_same (hcapacity : d.modeStack.capacity = 4) (ho : o.device = d) (ht : o.touched = [])
    (hr : o.routing = false) : Looks d o := by
  refine ⟨⟨d.mode, d.modeStack.items, d.context, d.startupConfig, ?_⟩, ht, hr, fun hs => by rwa [ho]⟩
  rw [ho, ← hcapacity]

/-- A console that configures no object is where it can be if its stack fits its mode. -/
theorem Device.seated_outside (stacked : d.Stacked) (context : d.context = {})
    (outside : d.mode.isSubmode = false) (host : d.isA .pc = true → d.mode = .user) : d.Seated :=
  ⟨stacked, context.trans (EditContext.only_outside _ outside).symm, .of_no_submode outside, host⟩

theorem Device.HasRoom.capacity (h : d.HasRoom) : d.modeStack.capacity = 4 := by
  rcases h with stacked | ⟨-, -, capacity⟩
  · exact stacked.capacity
  · exact capacity

theorem Device.HasRoom.few (h : d.HasRoom) : d.modeStack.items.length ≤ 2 := by
  rcases h with stacked | ⟨-, few, -⟩
  · exact stacked.few
  · exact few

theorem targetAddress_answers (ht : t.Sound) (target : String) :
    Answers IsAddress (ExecCommand.targetAddress t target) := by
  unfold ExecCommand.targetAddress
  refine (Topology.resolveTarget_yields ht target).lift.bind fun found hfound => ?_
  cases found with
  | none => exact Answers.refuse _
  | some ip => exact hfound ip rfl

theorem checkSource_answers (source : Option String) :
    Answers (fun _ => ∀ name, source = some name → ((d.interfaces.get? name).any (·.hasIp)) = true)
      (ExecCommand.checkSource d source) := by
  cases source with
  | none => exact fun name hn => by cases hn
  | some name =>
    refine (Answers.refuseIf _ _).imp fun _ hc name' hn => ?_
    cases hn
    simpa using hc

/-- An exec command is refused or leaves the network alone, unless it has access lists put in order of
which one has too long a number. -/
theorem execCommand_answers (ht : t.Sound) {d₀ : Device} (hd : t.devices.get? d.id = some d₀)
    (same : d₀.interfaces = d.interfaces) (h : d.Sound) (room : d.HasRoom) {c : ExecCommand}
    (ha : c.Admissible d) (hl : c.ordersLists = true → ¬d.HasLongList) :
    Answers (Looks d) (c.apply t d) := by
  have capacity := room.capacity
  have cleared : d.modeStack.clear = ⟨[], 4⟩ := by
    rw [← capacity]
    rfl
  unfold ExecCommand.apply
  cases c with
  | enable =>
    refine ⟨⟨_, d.modeStack.items, d.context, d.startupConfig, by rw [← capacity]; rfl⟩, rfl, rfl, fun hs => ?_⟩
    refine Device.seated_outside ?_ (hs.focused.context_outside (Mode.not_submode ha.1)) rfl
      fun hpc => absurd (ha.2.symm.trans hpc) (by decide)
    have stacked := hs.stacked
    unfold Device.Stacked at stacked ⊢
    rw [Mode.outer_of_not_config ha.1] at stacked
    exact stacked
  | disable =>
    refine ⟨⟨_, [], d.context, d.startupConfig, by rw [← capacity]; rfl⟩, rfl, rfl, fun hs => ?_⟩
    have outside : d.mode.isSubmode = false := by rw [show d.mode = .privileged from ha]; rfl
    exact Device.seated_outside (by rw [cleared]; rfl) (hs.focused.context_outside outside) rfl fun _ => rfl
  | exit =>
    dsimp only
    split
    · exact .of_same capacity rfl rfl rfl
    · rcases room with hstacked | ⟨hmode, -, -⟩
      · obtain ⟨close, hok⟩ := Device.exitMode_eq hstacked
        simp only [hok]
        exact ⟨⟨_, _, _, _, rfl⟩, rfl, rfl, fun hs => Device.seated_back hs⟩
      · have hok : d.exitMode = .ok
            ({ d with mode := .user, modeStack := d.modeStack.clear, context := {} }, true) := by
          unfold Device.exitMode
          rw [hmode]
          rfl
        simp only [hok, cleared]
        exact ⟨⟨_, _, _, _, rfl⟩, rfl, rfl, fun _ => Device.seated_outside rfl rfl rfl fun _ => rfl⟩
  | endConfig =>
    refine ⟨⟨.privileged, [], {}, d.startupConfig, ?_⟩, rfl, rfl, fun hs => ?_⟩
    · unfold Device.endConfig ofDevice
      rw [cleared]
    · refine Device.seated_outside ?_ rfl rfl fun hpc => ?_
      · unfold Device.endConfig ofDevice
        rw [cleared]
        rfl
      · have hconfig : d.mode.isConfig = true := ha
        rw [hs.host hpc] at hconfig
        cases hconfig
  | configureTerminal =>
    have hmode : d.mode = .privileged := ha
    simp only [enterGlobal_eq hmode room.few capacity]
    have outside : d.mode.isSubmode = false := by rw [hmode]; rfl
    refine ⟨⟨_, _, _, _, rfl⟩, rfl, rfl, fun hs =>
      Device.seated_outside ?_ (hs.focused.context_outside outside) rfl fun hpc => ?_⟩
    · have stacked := hs.stacked
      unfold Device.Stacked at stacked ⊢
      simp only [stacked, hmode]
      rfl
    · exact absurd ((hs.host hpc).symm.trans hmode) (by decide)
  | copyRunStart =>
    refine (runningConfig_yields h (hl rfl)).lift.bind fun saved _ => ?_
    refine ⟨⟨d.mode, d.modeStack.items, d.context, some saved, by rw [← capacity]⟩, rfl, rfl, fun hs => ?_⟩
    exact hs.of_keeps (.of_essence rfl)
  | ping target source =>
    refine (targetAddress_answers ht target).bind fun ip hip => ?_
    refine (checkSource_answers source).bind fun _ hsource => ?_
    rw [← same] at hsource
    refine (Topology.trace_yields ht hd hip hsource).lift.bind fun report _ => ?_
    exact .of_same capacity rfl rfl rfl
  | traceroute target =>
    refine (targetAddress_answers ht target).bind fun ip hip => ?_
    refine (Topology.trace_yields ht hd hip fun name hn => by cases hn).lift.bind fun report _ => ?_
    exact .of_same capacity rfl rfl rfl
  | display item =>
    exact (render_answers ht h hl).bind fun _ _ => .of_same capacity rfl rfl rfl

theorem execCommand_error {c : ExecCommand} (h : d.Sound) (hc : c.ordersLists = true)
    (hl : d.HasLongList) : c.apply t d = .error (.fault .badNumber) := by
  unfold ExecCommand.apply
  cases c with
  | copyRunStart =>
    simp only [runningConfig_error h hl]
    rfl
  | display item =>
    simp only [render_error h hc hl]
    rfl
  | _ => cases hc

end NetRack
