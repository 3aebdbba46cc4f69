import NetRack.Proofs.Undo

/-!
# What becomes of devices

A device that is there after a change to a lab is new, has kept its frame, or was given a line: one that saved
its configuration from within another mode, or one that asked for a command, whose outcome has its frame.  So
what holds of new devices and is kept each time holds of every device that a lab comes to have.
-/

namespace NetRack

open Outcome

namespace Console

variable {t : Topology} {key : String} {d : Device} {line : String}

/-- What a line leaves of a device: the device as it is, the device with its configuration saved, or what a
command that the line asks for has made of it. -/
theorem made_cases (h : t.Orderly) (hd : t.devices.get? key = some d) (line : String) :
    made t d line = d ∨ (∃ startupConfig, made t d line = { d with startupConfig }) ∨
      ∃ c o, Asks d line c ∧ c.apply t d = .ok o ∧ made t d line = o.device := by
  have asked := request?_meets d line 0
  cases hq : request? d line d.mode 0 with
  | error f =>
    refine Or.inl ?_
    unfold made run
    rw [hq]
    rfl
  | ok q =>
    cases q with
    | none =>
      refine Or.inl ?_
      unfold made run
      rw [hq]
      rfl
    | some r =>
      cases r with
      | command c =>
        rw [made_command hq]
        cases hc : c.apply t d with
        | error f => exact Or.inl rfl
        | ok o => exact Or.inr (Or.inr ⟨c, o, hq, hc, rfl⟩)
      | runExec payload column =>
        have config : d.mode.isConfig = true := asked.value hq _ rfl
        rw [made_runExec hq]
        refine left_of_meets (P := fun x => x = d ∨ (∃ startupConfig, x = { d with startupConfig }) ∨
          ∃ c o, Asks d line c ∧ c.apply t d = .ok o ∧ x = o.device) (Or.inl rfl) ?_
        exact (runFromConfig_saves h hd config payload column).imp fun o ho => Or.inr (Or.inl ho.2)

end Console

open Console

namespace Topology

variable {t u : Topology} {key : String} {d' : Device}

/-- How a device of a lab has come about with a change. -/
inductive Shapes (t : Topology) (change : Change) (key : String) (d' : Device) : Prop where
  | new (type : DeviceType) (hostname : String) (same : d' = Device.factory type hostname key)
  | kept {d : Device} (hd : t.devices.get? key = some d) (same : d'.frame = d.frame)
  | saved {d : Device} (hd : t.devices.get? key = some d) (startupConfig : Option String)
      (same : d'.frame = ({ d with startupConfig } : Device).frame)
  | command {explainer : Option Explainer} {device line : String} {d : Device} {c : Command} {o : Outcome}
      (given : change = .command explainer device line) (hd : t.device device = .ok d)
      (hk : deviceKey device = key) (asks : Asks d line c) (done : c.apply t d = .ok o)
      (same : d'.frame = o.device.frame)

theorem KeepsDevices.shapes (h : t.KeepsDevices u) (change : Change) (hd' : u.devices.get? key = some d') :
    t.Shapes change key d' := by
  obtain ⟨d, hd, same⟩ := h key d' hd'
  exact .kept hd same

/-- A line makes nothing of any device but the one that it is given to. -/
theorem Orderly.command_shapes (h : t.Orderly) (explainer : Option Explainer) {device : String} {d : Device}
    (hd : t.device device = .ok d) (line : String)
    (hd' : (t.next (.command explainer device line)).devices.get? key = some d') :
    t.Shapes (.command explainer device line) key d' := by
  have hget := device_eq_ok.1 hd
  rw [next_command h explainer hd] at hd'
  by_cases ht : Trips d line 0
  · rw [attempt_trips h hget ht] at hd'
    exact .kept hd' rfl
  · have frame := attempted_frame h hget ht
    rw [← frame_replaced] at frame
    obtain ⟨x, hx, same⟩ := device_of_frame frame hd'
    by_cases hk : key = deviceKey device
    · subst hk
      rw [get?_replaced_self hget] at hx
      cases hx
      rcases made_cases h hget line with made | ⟨startupConfig, made⟩ | ⟨c, o, asks, done, made⟩
      · exact .kept hget (made ▸ same)
      · exact .saved hget startupConfig (made ▸ same)
      · exact .command rfl hd rfl asks done (made ▸ same)
    · rw [get?_replaced_of_ne hk] at hx
      exact .kept hx same

/-- A device that is there after a change is new, has kept its frame, or was given a line. -/
theorem Orderly.shapes (h : t.Orderly) (change : Change) (hd' : (t.next change).devices.get? key = some d') :
    t.Shapes change key d' := by
  -- Where the change fails nothing has changed.
  have of_meets {R : Topology → Prop} (hm : Meets (fun _ => True) R (t.perform change))
      (hR : ∀ u, R u → u.devices.get? key = some d' → t.Shapes change key d') : t.Shapes change key d' := by
    unfold Topology.next at hd'
    cases hp : t.perform change with
    | error f =>
      rw [hp] at hd'
      exact .kept hd' rfl
    | ok u =>
      rw [hp] at hd'
      exact hR u (hm.value hp) hd'
  cases change with
  | addDevice id type hostname =>
    refine of_meets (addDevice_meets h.sound h.settled id type hostname) ?_
    rintro u ⟨-, -, type, name, k, -, rfl⟩ hu
    rw [get?_house] at hu
    split at hu
    · rename_i hk
      cases hu
      exact .new type name (hk ▸ rfl)
    · exact .kept hu rfl
  | removeDevice id =>
    exact of_meets (removeDevice_meets h.sound h.settled id) fun u hu hd => hu.kept.shapes _ hd
  | connect deviceA portA deviceB portB =>
    exact of_meets (connect_meets h.sound h.settled deviceA portA deviceB portB) fun u hu hd => hu.kept.shapes _ hd
  | disconnect device port =>
    exact of_meets (disconnect_meets h.sound h.settled device port) fun u hu hd => hu.kept.shapes _ hd
  | command explainer device line =>
    cases hd : t.device device with
    | error f =>
      rw [next_command_unknown explainer hd] at hd'
      exact .kept hd' rfl
    | ok d => exact h.command_shapes explainer hd line hd'

/-! ## What devices keep -/

section Kept

variable {P : Device → Prop} (new : ∀ type hostname id, P (Device.factory type hostname id))
  (frame : ∀ d d' : Device, d'.frame = d.frame → P d → P d')
  (saved : ∀ (d : Device) startupConfig, P d → P { d with startupConfig })

include new frame saved

/-- What holds of new devices and is kept by their frames and by saving holds of every device after a change, if
it is kept by the command that a line asks for. -/
theorem Orderly.devices_next (h : t.Orderly) (before : ∀ k d, t.devices.get? k = some d → P d) (change : Change)
    (command : ∀ explainer device line d c o, change = .command explainer device line → t.device device = .ok d →
      Asks d line c → c.apply t d = .ok o → P d → P o.device) :
    ∀ k d', (t.next change).devices.get? k = some d' → P d' := by
  intro k d' hd'
  cases h.shapes change hd' with
  | new type hostname same => exact same ▸ new type hostname k
  | kept hd same => exact frame _ _ same (before k _ hd)
  | saved hd startupConfig same => exact frame _ _ same (saved _ startupConfig (before k _ hd))
  | command given hd hk asks done same =>
    exact frame _ _ same (command _ _ _ _ _ _ given hd asks done (before _ _ (device_eq_ok.1 hd)))

/-- What is kept by every command as well holds of every device that a lab comes to have. -/
theorem reached_devices
    (command : ∀ (t : Topology) key d line c o, t.Orderly → t.devices.get? key = some d → Asks d line c →
      c.apply t d = .ok o → P d → P o.device)
    (cs : List Change) {d : Device} (hd : (reached cs).devices.get? key = some d) : P d := by
  have all (cs : List Change) (t : Topology) (h : t.Orderly)
      (ht : ∀ k x, t.devices.get? k = some x → P x) :
      ∀ k x, (cs.foldl Topology.next t).devices.get? k = some x → P x := by
    induction cs generalizing t with
    | nil => exact ht
    | cons c cs ih =>
      refine ih (t.next c) (h.next c) (h.devices_next new frame saved ht c ?_)
      exact fun _ _ _ d _ _ _ hd asks done => command t _ d _ _ _ h (device_eq_ok.1 hd) asks done
  exact all cs {} empty_orderly (fun k x hx => by cases hx) key d hd

end Kept

/-! ## What comes about at some time -/

theorem reached_concat (cs : List Change) (c : Change) : reached (cs ++ [c]) = (reached cs).next c :=
  List.foldl_concat ..

/-- If all is well until something happens that makes it bad at once, then it is bad at some time exactly if
that has happened at some time. -/
theorem reached_ever_iff {Well Bad : Topology → Prop} {Happens : Topology → Change → Prop} (start : Well {})
    (keeps : ∀ t c, t.Orderly → Well t → ¬Happens t c → Well (t.next c)) (well : ∀ t, Well t → t.Orderly → ¬Bad t)
    (spoils : ∀ t c, t.Orderly → Happens t c → Bad (t.next c)) (cs : List Change) :
    (∃ before, before <+: cs ∧ Bad (reached before)) ↔
      ∃ before c, before ++ [c] <+: cs ∧ Happens (reached before) c := by
  constructor
  · rintro ⟨before, earlier, bad⟩
    by_contra none
    have kept (cs' : List Change) (part : cs' <+: cs) : Well (reached cs') := by
      induction cs' using List.reverseRecOn with
      | nil => exact start
      | append_singleton cs' c ih =>
        rw [reached_concat]
        exact keeps _ c (reached_orderly cs') (ih ((List.prefix_append ..).trans part))
          fun happens => none ⟨cs', c, part, happens⟩
    exact well _ (kept before earlier) (reached_orderly before) bad
  · rintro ⟨before, c, part, happens⟩
    refine ⟨before ++ [c], part, ?_⟩
    rw [reached_concat]
    exact spoils _ c (reached_orderly before) happens

end Topology

end NetRack
