import NetRack.Proofs.History

/-!
# Lines that only look

In user mode and in privileged mode a line changes nothing but where its console stands and what its
device has saved.  A line that a configuration mode runs by `do` changes nothing but what has been
saved.  Either is carried on all the same, but what is derived was as dictated before, so that nothing
comes of it.
-/

namespace NetRack

namespace Topology

variable {t : Topology} {key : String} {d d' : Device}

/-! ## Nothing to carry on -/

theorem replaced_eq_modifyDevice (hd : t.devices.get? key = some d) (f : Device → Device) :
    t.replaced key (f d) = t.modifyDevice key f := by
  unfold replaced modifyDevice
  rw [Table.modify_at hd f]

theorem replaced_self (hd : t.devices.get? key = some d) : t.replaced key d = t := by
  unfold replaced modifyDevice
  rw [Table.modify_eq_self]
  intro d₀ hd₀
  rw [hd] at hd₀
  exact Option.some.inj hd₀

/-- What is derived stays as dictated if what it depends on stays. -/
theorem replaced_settled (hs : t.Settled) (hd : t.devices.get? key = some d)
    (interfaces : d'.interfaces = d.interfaces) (vlans : d'.vlans = d.vlans) (routes : d'.routes = d.routes) :
    (t.replaced key d').Settled := by
  have port (e : LinkEnd) : (t.replaced key d').port? e = t.port? e := by
    by_cases hk : e.device = key
    · subst hk
      rw [port?_of_get? (get?_replaced_self hd d'), port?_of_get? hd, interfaces]
    · unfold port?
      rw [get?_replaced_of_ne hk]
  have works (e : LinkEnd) : (t.replaced key d').works e = t.works e := by
    unfold Topology.works
    rw [port]
  have isOn (e : LinkEnd) : (t.replaced key d').isOn e = t.isOn e := by
    unfold Topology.isOn
    rw [port]
  refine ⟨fun e he => ?_, fun k d₁ hd₁ => ?_, fun k d₁ hd₁ name => ?_⟩
  · obtain ⟨hworks, hlink⟩ := hs.ports e ⟨by rw [← port]; exact he.1, he.2⟩
    refine ⟨(works e).trans hworks, fun l hl => ?_⟩
    rw [isOn, isOn]
    exact hlink l hl
  · rcases device_of_replaced hd₁ with ⟨-, rfl⟩ | ⟨-, hk⟩
    · have obeys := hs.obeys key d hd
      unfold Device.Obeys at obeys ⊢
      rwa [interfaces, Device.dictated_congr interfaces vlans]
    · exact hs.obeys k d₁ hk
  · rcases device_of_replaced hd₁ with ⟨-, rfl⟩ | ⟨-, hk⟩
    · have connects := hs.connects key d hd name
      unfold Device.Connects at connects ⊢
      rwa [Device.connectedAt_congr interfaces, routes]
    · exact hs.connects k d₁ hk name

end Topology

namespace Console

variable {t : Topology} {key : String} {d : Device} {o : Outcome}

/-- What a command that only looks leaves is all there is. -/
theorem settle_looks (h : t.Orderly) (hd : t.devices.get? key = some d) (l : Looks d o) :
    settle t key o = .ok (t.replaced key o.device, o.device) := by
  have delivers := l.delivers (h.sound.devices key d hd) (h.seated key d hd)
  have sound := Topology.replaced_sound hd delivers.toReports h.sound
  have settled : (t.replaced key o.device).Settled := by
    obtain ⟨mode, items, context, startupConfig, heq⟩ := l.device
    exact Topology.replaced_settled h.settled hd (by rw [heq]) (by rw [heq]) (by rw [heq])
  have here := Topology.get?_replaced_self hd o.device
  have still := Topology.propagate_settled sound settled here
  unfold Topology.replaced at still here
  unfold settle
  rw [l.touched, l.routing, delivers.id, h.sound.identified key d hd]
  dsimp only
  rw [still, ok_bind, Topology.entry_eq here]
  rfl

/-! ## Lines -/

/-- A line that is not given up, but whose command only looks, changes just its device. -/
theorem attempted_looks (h : t.Orderly) (hd : t.devices.get? key = some d) {line : String}
    (hrun : Meets (fun _ => True) (fun x => ∀ o, x = some o → Looks d o) (run t d line)) :
    attempted t (attempt t key d line) = t ∨
      ∃ o, run t d line = .ok (some o) ∧ Looks d o ∧
        attempted t (attempt t key d line) = t.replaced key o.device := by
  unfold attempt
  cases hx : run t d line with
  | error f => exact Or.inl rfl
  | ok x =>
    cases x with
    | none => exact Or.inl rfl
    | some o =>
      have l := hrun.value hx o rfl
      refine Or.inr ⟨o, rfl, l, ?_⟩
      rw [ok_bind]
      dsimp only
      rw [settle_looks h hd l]
      rfl

/-- Outside of configuration a line only looks. -/
theorem run_outside (h : t.Orderly) (hd : t.devices.get? key = some d) (hpc : d.isA .pc = false)
    (outside : d.mode.isConfig = false) (line : String) :
    Meets (fun _ => True) (fun x => ∀ o, x = some o → Looks d o) (run t d line) := by
  have hsound := h.sound.devices key d hd
  have hid : t.devices.get? d.id = some d := by rw [h.sound.identified key d hd, hd]
  have looks (c : ExecCommand) (ha : c.Admissible d) : Meets (fun _ => True) (Looks d) (c.apply t d) := by
    by_cases hl : c.ordersLists = true ∧ d.HasLongList
    · rw [execCommand_error hsound hl.1 hl.2]
      trivial
    · have answers := execCommand_answers h.sound hid rfl hsound (Or.inl (h.seated key d hd).stacked) ha
        fun ho hlong => hl ⟨ho, hlong⟩
      exact answers.mono (fun _ _ => trivial) fun _ ho => ho
  have asked : Meets (fun _ => True) (fun q => ∀ r, q = some r →
      ∃ c, r = .command (.exec c) ∧ c.Admissible d) (request? d line d.mode 0) :=
    (request?_meets d line 0).mono (fun _ _ => trivial) fun q admissible r hr =>
      exec_of_outside outside hpc (admissible r hr)
  refine run_meets asked (fun c exec => ?_) fun _ _ exec => ?_
  · obtain ⟨c, heq, ha⟩ := exec
    cases heq
    exact looks c ha
  · obtain ⟨c, heq, -⟩ := exec
    cases heq

/-- A line that is run from within a configuration mode saves the configuration at most. -/
theorem runFromConfig_saves (h : t.Orderly) (hd : t.devices.get? key = some d)
    (hc : d.mode.isConfig = true) (line : String) (column : Int) :
    Meets (fun _ => True) (fun o => Looks d o ∧ ∃ startupConfig, o.device = { d with startupConfig })
      (runFromConfig t d line column) := by
  have stacked := (h.seated key d hd).stacked
  unfold Device.Stacked at stacked
  by_cases ht : Trips { d with mode := .privileged } line column
  · rw [runFromConfig_trips h hd hc ht]
    trivial
  · unfold runFromConfig
    refine ((runPrivileged_answers h hd hc ht).mono (fun _ _ => trivial) fun _ ho => ho).bind fun o ho => ?_
    obtain ⟨mode, items, context, startupConfig, heq⟩ := ho.device
    have kept : d.restored o.device = { d with startupConfig } := by
      unfold Device.restored
      rw [heq, stacked]
    refine ⟨⟨⟨d.mode, d.mode.outer, d.context, startupConfig, ?_⟩, ho.touched, ho.routing, fun hs => ?_⟩,
      startupConfig, kept⟩
    · rw [← stacked]
      exact kept
    · show (d.restored o.device).Seated
      rw [kept]
      exact hs.of_keeps (.of_essence rfl)

/-- A line that begins with `do` in a configuration mode saves the configuration at most. -/
theorem run_do (h : t.Orderly) (hd : t.devices.get? key = some d) (hc : d.mode.isConfig = true)
    {line : String} {word : Text.Word} {rest : List Text.Word} (hw : Text.words line = word :: rest)
    (hdo : Text.lower word.text = "do") :
    Meets (fun _ => True)
      (fun x => ∀ o, x = some o → Looks d o ∧ ∃ startupConfig, o.device = { d with startupConfig })
      (run t d line) := by
  have hpc := not_host (h.seated key d hd) hc
  have asked : Meets (fun _ => True) (fun q => ∀ r, q = some r → ∃ payload column, r = .runExec payload column)
      (request? d line d.mode 0) := by
    cases hq : request? d line d.mode 0 with
    | error f => trivial
    | ok q =>
      rintro r rfl
      exact request?_do hpc hc hw hdo hq
  refine run_meets asked (fun c does => ?_) fun payload column _ => runFromConfig_saves h hd hc payload column
  obtain ⟨payload, column, heq⟩ := does
  cases heq

end Console

namespace Topology

variable {t : Topology}

/-! ## Whatever was done -/

/-- Lines that are not about configuration change nothing but consoles and what devices have saved. -/
structure LooksOnly (t : Topology) : Prop where
  exec : ∀ explainer device line d, t.device device = .ok d → d.isA .pc = false →
    d.mode = .user ∨ d.mode = .privileged →
    ∃ mode modeStack context startupConfig, t.next (.command explainer device line) =
      t.modifyDevice (deviceKey device) fun d => { d with mode, modeStack, context, startupConfig }
  within : ∀ explainer device line d, t.device device = .ok d → d.mode.isConfig = true →
    ∀ word rest, Text.words line = word :: rest → Text.lower word.text = "do" →
    ∃ startupConfig, t.next (.command explainer device line) =
      t.modifyDevice (deviceKey device) fun d => { d with startupConfig }

theorem Orderly.looksOnly (h : t.Orderly) : t.LooksOnly where
  exec := by
    intro explainer device line d hd hpc hm
    have hget := device_eq_ok.1 hd
    have outside : d.mode.isConfig = false := by rcases hm with hm | hm <;> rw [hm] <;> rfl
    rw [next_command h explainer hd]
    rcases Console.attempted_looks h hget (Console.run_outside h hget hpc outside line) with heq | ⟨o, -, l, heq⟩
    · refine ⟨d.mode, d.modeStack, d.context, d.startupConfig, ?_⟩
      rw [heq, ← replaced_eq_modifyDevice hget, replaced_self hget]
    · obtain ⟨mode, items, context, startupConfig, hdevice⟩ := l.device
      refine ⟨mode, ⟨items, 4⟩, context, startupConfig, ?_⟩
      rw [heq, ← replaced_eq_modifyDevice hget, hdevice]
  within := by
    intro explainer device line d hd hc word rest hw hdo
    have hget := device_eq_ok.1 hd
    have saves := Console.run_do h hget hc hw hdo
    rw [next_command h explainer hd]
    rcases Console.attempted_looks h hget (saves.imp fun x hx o ho => (hx o ho).1) with heq | ⟨o, hrun, -, heq⟩
    · refine ⟨d.startupConfig, ?_⟩
      rw [heq, ← replaced_eq_modifyDevice hget, replaced_self hget]
    · obtain ⟨-, startupConfig, hdevice⟩ := saves.value hrun o rfl
      refine ⟨startupConfig, ?_⟩
      rw [heq, ← replaced_eq_modifyDevice hget, hdevice]

/-- Whatever was done to a lab, a line in user mode or in privileged mode changes nothing but the console
of its device and what the device has saved, and a line that is run by `do` nothing but what has been
saved. -/
theorem reached_looksOnly (cs : List Change) : (reached cs).LooksOnly := (reached_orderly cs).looksOnly

end Topology

end NetRack
