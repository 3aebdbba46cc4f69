import NetRack.Proofs.Console.Line

/-!
# What a lab can come to

A lab starts empty.  Devices come and go, ports are connected and disconnected, and lines are given to
consoles.  What fails changes nothing.  However it goes on, the lab stays in order.
-/

namespace NetRack

namespace Topology

/-- A thing that is done to a lab. -/
inductive Change where
  | addDevice (id type : String) (hostname : Option String)
  | removeDevice (id : String)
  | connect (deviceA portA deviceB portB : String)
  | disconnect (device port : String)
  | command (explainer : Option Explainer) (device line : String)

/-- What comes of a change, unless it raises a fault. -/
def perform (t : Topology) : Change → Except Fault Topology
  | .addDevice id type hostname => t.addDevice id type hostname
  | .removeDevice id => t.removeDevice id
  | .connect deviceA portA deviceB portB => t.connect deviceA portA deviceB portB
  | .disconnect device port => t.disconnect device port
  | .command explainer device line => CommandResult.topology <$> Console.execute explainer t device line

/-- The lab after a change.  A fault leaves it as it was. -/
def next (t : Topology) (c : Change) : Topology :=
  match t.perform c with
  | .ok u => u
  | .error _ => t

/-- What an empty lab has come to after some changes. -/
def reached (cs : List Change) : Topology := cs.foldl next {}

variable {t u : Topology}

/-! ## Changes of devices and cables -/

theorem KeepsDevices.seated (h : t.KeepsDevices u) (hs : ∀ k d, t.devices.get? k = some d → d.Seated)
    (k : String) (d' : Device) (hd' : u.devices.get? k = some d') : d'.Seated := by
  obtain ⟨d, hd, hframe⟩ := h k d' hd'
  exact (hs k d hd).of_keeps (keeps_of_frame hframe)

theorem Edited.orderly (hu : t.Edited u) (h : t.Orderly) : u.Orderly :=
  ⟨hu.sound, hu.settled, hu.kept.seated h.seated⟩

theorem house_orderly (h : t.Orderly) {type : DeviceType} {hostname key : String}
    (hsound : (t.house key (Device.factory type hostname key)).Sound)
    (hsettled : (t.house key (Device.factory type hostname key)).Settled) :
    (t.house key (Device.factory type hostname key)).Orderly := by
  refine ⟨hsound, hsettled, fun k d hd => ?_⟩
  rw [get?_house] at hd
  split at hd
  · cases hd
    exact factory_seated type hostname key
  · exact h.seated k d hd

/-! ## Commands -/

/-- The lab after a line is the lab after the attempt to do what it asks for. -/
theorem next_command (h : t.Orderly) (explainer : Option Explainer) {device : String} {d : Device}
    (hd : t.device device = .ok d) (line : String) :
    t.next (.command explainer device line) =
      Console.attempted t (Console.attempt t (deviceKey device) d line) := by
  unfold next perform
  dsimp only
  by_cases ht : Console.Trips d line 0
  · have hget := device_eq_ok.1 hd
    rw [Console.execute_trips h explainer hd ht, Console.attempt_trips h hget ht]
    rfl
  · obtain ⟨r, hok, hr, -⟩ := (Console.execute_yields h explainer hd ht).exists_ok
    rw [hok, ← hr]
    rfl

theorem next_command_unknown (explainer : Option Explainer) {device : String} {f : Fault}
    (hd : t.device device = .error f) (line : String) : t.next (.command explainer device line) = t := by
  have failed : t.perform (.command explainer device line) = .error f := by
    show CommandResult.topology <$> Console.execute explainer t device line = _
    unfold Console.execute
    rw [hd]
    rfl
  unfold next
  rw [failed]

/-- An attempt leaves the lab as it is or carries on what a command reports in full. -/
theorem attempted_cases (h : t.Orderly) {key : String} {d : Device} (hd : t.devices.get? key = some d)
    (line : String) :
    Console.attempted t (Console.attempt t key d line) = t ∧
        (∀ x, Console.attempt t key d line ≠ .ok (some x)) ∨
      ∃ o u d', Console.attempt t key d line = .ok (some (o, u, d')) ∧ Delivers d o ∧ t.Carried key o u d' := by
  by_cases ht : Console.Trips d line 0
  · refine Or.inl ?_
    rw [Console.attempt_trips h hd ht]
    exact ⟨rfl, fun x hx => by cases hx⟩
  · have answers := (Console.attempt_answers h hd ht).exact
    cases hx : Console.attempt t key d line with
    | error f => exact Or.inl ⟨rfl, fun x hx => by cases hx⟩
    | ok x =>
      cases x with
      | none => exact Or.inl ⟨rfl, fun x hx => by cases hx⟩
      | some x =>
        obtain ⟨o, u, d'⟩ := x
        obtain ⟨delivers, carried⟩ := answers.value hx o u d' rfl
        exact Or.inr ⟨o, u, d', rfl, delivers, carried⟩

theorem attempted_orderly (h : t.Orderly) {key : String} {d : Device} (hd : t.devices.get? key = some d)
    (line : String) : (Console.attempted t (Console.attempt t key d line)).Orderly := by
  rcases attempted_cases h hd line with ⟨heq, -⟩ | ⟨o, u, d', hx, -, carried⟩
  · rw [heq]
    exact h
  · rw [hx]
    exact carried.orderly

/-! ## Histories -/

theorem empty_orderly : ({} : Topology).Orderly where
  sound := {
    ends := fun l hl => (List.not_mem_nil hl).elim
    apart := List.nodup_nil
    devices := fun k d hd => by cases hd
    identified := fun k d hd => by cases hd
    trimmed := fun k hk => (List.not_mem_nil hk).elim
    numbered := fun l hl => (List.not_mem_nil hl).elim
    ids := List.nodup_nil
    positive := by decide }
  settled := {
    ports := fun e he => by cases he.1
    obeys := fun k d hd => by cases hd
    connects := fun k d hd => by cases hd }
  seated := fun k d hd => by cases hd

/-- A change leaves a lab in order. -/
theorem Orderly.next (h : t.Orderly) (c : Change) : (t.next c).Orderly := by
  -- What a change comes to is in order if what it gives is.
  have of_meets {R : Topology → Prop} (hm : Meets (fun _ => True) R (t.perform c))
      (hR : ∀ u, R u → u.Orderly) : (t.next c).Orderly := by
    unfold Topology.next
    cases hp : t.perform c with
    | error f => exact h
    | ok u => exact hR u (hm.value hp)
  cases c with
  | addDevice id type hostname =>
    refine of_meets (addDevice_meets h.sound h.settled id type hostname) ?_
    rintro u ⟨hsound, hsettled, type, name, key, -, rfl⟩
    exact house_orderly h hsound hsettled
  | removeDevice id => exact of_meets (removeDevice_meets h.sound h.settled id) fun u hu => hu.orderly h
  | connect deviceA portA deviceB portB =>
    exact of_meets (connect_meets h.sound h.settled deviceA portA deviceB portB) fun u hu => hu.orderly h
  | disconnect device port =>
    exact of_meets (disconnect_meets h.sound h.settled device port) fun u hu => hu.orderly h
  | command explainer device line =>
    cases hd : t.device device with
    | error f =>
      rw [next_command_unknown explainer hd]
      exact h
    | ok d =>
      rw [next_command h explainer hd]
      exact attempted_orderly h (device_eq_ok.1 hd) line

/-- Whatever is done to a lab, it is in order. -/
theorem reached_orderly (cs : List Change) : (reached cs).Orderly := by
  have all (t : Topology) (h : t.Orderly) : (cs.foldl Topology.next t).Orderly := by
    induction cs generalizing t with
    | nil => exact h
    | cons c cs ih => exact ih (t.next c) (h.next c)
  exact all {} empty_orderly

end Topology

end NetRack
