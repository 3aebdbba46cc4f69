import NetRack.Proofs.History
import NetRack.Proofs.Explained

/-!
# Failures leave nothing behind

A step of a session that has a fault leaves the session as it was, and a line that is rejected leaves its
topology as it was and one event in its log.  What a session answers depends on its topology only, so steps
that fail can be left out: the others come to the same.

A log with a bound below zero is another matter.  It holds no event, so that not even the latest one stays.
-/

namespace NetRack

/-! ## Lines that fail -/

namespace Console

variable {explainer explainer' : Option Explainer} {t : Topology} {device line : String} {r : CommandResult}

/-- A rejected line leaves the topology as it was. -/
theorem execute_rejected (h : execute explainer t device line = .ok r) (rejected : r.valid = false) :
    r.topology = t := by
  obtain ⟨d, -, h⟩ := bind_eq_ok.1 h
  split at h
  · cases h
    cases rejected
  · obtain ⟨notices, -, h⟩ := bind_eq_ok.1 h
    cases h
    cases rejected
  · obtain ⟨⟨error, output⟩, -, h⟩ := bind_eq_ok.1 h
    cases h
    rfl

/-- A line that is not rejected comes to the same whoever explains errors. -/
theorem execute_valid (h : execute explainer t device line = .ok r) (valid : r.valid = true) :
    execute explainer' t device line = .ok r := by
  unfold execute at h ⊢
  obtain ⟨d, hd, h⟩ := bind_eq_ok.1 h
  rw [hd, ok_bind]
  split at h
  · exact h
  · exact h
  · obtain ⟨⟨error, output⟩, -, h⟩ := bind_eq_ok.1 h
    cases h
    cases valid

end Console

/-! ## Logs with one more event -/

namespace Log

variable {l : Log}

/-- A log has got an event at its end, and has lost older ones only to stay within its bound. -/
structure Gains (l : Log) (e : Event) (l' : Log) : Prop where
  bound : l'.bound = l.bound
  events : ∃ dropped kept, l.events = dropped ++ kept ∧ l'.events = kept ++ [e] ∧
    (dropped = [] ∨ (l'.events.length : Int) = l.bound)

/-- Unless its bound is below zero a log gains each event that it is given. -/
theorem gains_add (h : 0 ≤ l.bound) (kind : String) (data : List (String × Json)) :
    l.Gains ⟨kind, data⟩ (l.add kind data) := by
  refine ⟨rfl, l.events.take (excess l.bound (l.events.length + 1)),
    l.events.drop (excess l.bound (l.events.length + 1)), (List.take_append_drop ..).symm, ?_⟩
  have room : excess l.bound (l.events.length + 1) = 0 ∨
      (excess l.bound (l.events.length + 1) ≤ l.events.length ∧
        ((l.events.length + 1 - excess l.bound (l.events.length + 1) : Nat) : Int) = l.bound) := by
    unfold excess
    split
    · exact Or.inl rfl
    · split <;> omega
  have events : (l.add kind data).events =
      (l.events ++ [(⟨kind, data⟩ : Event)]).drop (excess l.bound (l.events.length + 1)) := by
    simp [add]
  rcases room with none | ⟨some, full⟩
  · rw [events, none]
    exact ⟨rfl, Or.inl rfl⟩
  · refine ⟨by rw [events, List.drop_append_of_le_length some], Or.inr ?_⟩
    rw [events, List.length_drop, List.length_append]
    exact full

/-- A log with a bound below zero that has no events gets none. -/
theorem events_add_of_neg (h : l.bound < 0) (empty : l.events = []) (kind : String)
    (data : List (String × Json)) : (l.add kind data).events = [] := by
  have beyond : 1 ≤ excess l.bound 1 := by
    unfold excess
    split
    · omega
    · split <;> omega
  simp only [add, empty, List.nil_append, List.length_singleton]
  exact List.drop_eq_nil_of_le beyond

end Log

namespace Session

variable {s s' : Session} {step : Step}

/-! ## Steps that fail -/

/-- Whether a step is one thing, and not a number of lines. -/
def Step.isSingle : Step → Bool
  | run .. => false
  | _ => true

/-- Whether an answer tells of a step that had no fault and was not rejected. -/
def took : Except Fault Answer → Bool
  | .error _ => false
  | .ok (.result r) => r.valid
  | .ok _ => true

/-- A device that has been added is there: once the lab has it the step does not fail any more. -/
theorem addDevice_error_iff {id type : String} {hostname : Option String} {f : Fault} :
    s.addDevice id type hostname = .error f ↔ s.topology.addDevice id type hostname = .error f := by
  unfold addDevice
  cases h : s.topology.addDevice id type hostname with
  | error f' => simp
  | ok t =>
    have there : ∃ d, t.device id = .ok d := by
      unfold Topology.addDevice at h
      dsimp only at h
      split at h
      · cases h
      split at h
      · cases h
      obtain ⟨d, -, h⟩ := bind_eq_ok.1 h
      obtain ⟨-, -, h⟩ := bind_eq_ok.1 h
      cases h
      exact ⟨d, Topology.device_eq_ok.2 (Table.get?_insert_self ..)⟩
    obtain ⟨d, hd⟩ := there
    simp [hd]

/-- A step that has a fault leaves the session as it was. -/
theorem perform_fault (single : step.isSingle = true) {f : Fault} (h : (s.perform step).answer = .error f) :
    (s.perform step).session = s := by
  have untouched {x : Except Fault (Session × Answer)} (hx : (s.effect x).answer = .error f) :
      (s.effect x).session = s := by
    cases x with
    | error f' => rfl
    | ok p => cases hx
  cases step with
  | addDevice id type hostname => exact untouched h
  | removeDevice id => exact untouched h
  | connect deviceA portA deviceB portB => exact untouched h
  | disconnect device port => exact untouched h
  | execute device line => exact untouched h
  | run device stop lines => cases single
  | device id => rfl
  | snapshot => rfl

/-- A line that is rejected leaves the topology as it was and is logged. -/
theorem execute_rejected {device : String} {line : Option String} {r : CommandResult}
    (h : s.execute device line = .ok (s', r)) (rejected : r.valid = false) :
    s'.topology = s.topology ∧
      ∃ prompt, s'.log = s.log.add "command" (commandData device prompt line r) := by
  obtain ⟨d, -, h⟩ := bind_eq_ok.1 h
  obtain ⟨r, hr, h⟩ := bind_eq_ok.1 h
  cases h
  exact ⟨Console.execute_rejected hr rejected, d.prompt, rfl⟩

/-- A line is answered by its result. -/
theorem perform_execute {device : String} {line : Option String} {r : CommandResult}
    (h : s.execute device line = .ok (s', r)) : s.perform (.execute device line) = ⟨.ok (.result r), s'⟩ := by
  show s.effect ((fun p => (p.1, Answer.result p.2)) <$> s.execute device line) = _
  rw [h]
  rfl

theorem perform_execute_fault {device : String} {line : Option String} {f : Fault}
    (h : s.execute device line = .error f) : s.perform (.execute device line) = ⟨.error f, s⟩ := by
  show s.effect ((fun p => (p.1, Answer.result p.2)) <$> s.execute device line) = _
  rw [h]
  rfl

theorem execute_of_perform {device : String} {line : Option String} {r : CommandResult}
    (h : (s.perform (.execute device line)).answer = .ok (.result r)) :
    s.execute device line = .ok ((s.perform (.execute device line)).session, r) := by
  cases hx : s.execute device line with
  | error f =>
    rw [perform_execute_fault hx] at h
    cases h
  | ok p =>
    rw [perform_execute hx] at h ⊢
    cases h
    rfl

/-- Only a line is rejected. -/
theorem perform_rejected (single : step.isSingle = true) {r : CommandResult}
    (h : (s.perform step).answer = .ok (.result r)) : ∃ device line, step = .execute device line := by
  have unlike {α : Type} {f : α → Session × Answer} {x : Except Fault α} (hf : ∀ a, (f a).2 ≠ .result r)
      (hx : (s.effect (f <$> x)).answer = .ok (.result r)) : False := by
    cases x with
    | error e => cases hx
    | ok a => exact hf a (Except.ok.inj hx)
  cases step with
  | addDevice id type hostname => exact (unlike (fun _ ha => by cases ha) h).elim
  | removeDevice id => exact (unlike (fun _ ha => by cases ha) h).elim
  | connect deviceA portA deviceB portB => exact (unlike (fun _ ha => by cases ha) h).elim
  | disconnect device port => exact (unlike (fun _ ha => by cases ha) h).elim
  | execute device line => exact ⟨device, line, rfl⟩
  | run device stop lines => cases single
  | device id =>
    obtain ⟨d, -, hd⟩ := map_eq_ok.1 h
    cases hd
  | snapshot => cases h

/-- A step that fails leaves the topology as it was. -/
theorem perform_failed (single : step.isSingle = true) (failed : took (s.perform step).answer = false) :
    (s.perform step).session.topology = s.topology := by
  cases ha : (s.perform step).answer with
  | error f => rw [perform_fault single ha]
  | ok a =>
    rw [ha] at failed
    cases a with
    | result r =>
      obtain ⟨device, line, rfl⟩ := perform_rejected single ha
      exact (execute_rejected (execute_of_perform ha) failed).1
    | _ => cases failed

/-! ## Steps that do not fail -/

/-- Steps that come to the same apart from the log, in sessions of the same topology. -/
theorem effect_same {x x' : Except Fault (Session × Answer)} (same : s'.topology = s.topology)
    (hx : (fun p => (p.2, p.1.topology)) <$> x' = (fun p => (p.2, p.1.topology)) <$> x) :
    (s'.effect x').answer = (s.effect x).answer ∧
      (s'.effect x').session.topology = (s.effect x).session.topology := by
  rcases map_eq_map hx with ⟨f, rfl, rfl⟩ | ⟨p', p, rfl, rfl, hp⟩
  · exact ⟨rfl, same⟩
  · obtain ⟨ha, ht⟩ := Prod.mk.inj hp
    exact ⟨congrArg Except.ok ha, ht⟩

/-- What a step comes to, if it does not fail, depends on the topology only. -/
theorem perform_took (single : step.isSingle = true) (h : took (s.perform step).answer = true)
    (same : s'.topology = s.topology) :
    (s'.perform step).answer = (s.perform step).answer ∧
      (s'.perform step).session.topology = (s.perform step).session.topology := by
  cases step with
  | addDevice id type hostname =>
    refine effect_same same ?_
    unfold addDevice record
    rw [same]
    cases s.topology.addDevice id type hostname with
    | error f => rfl
    | ok t =>
      simp only [ok_bind]
      cases t.device id <;> rfl
  | removeDevice id =>
    refine effect_same same ?_
    unfold removeDevice record
    rw [same]
    cases s.topology.removeDevice id <;> rfl
  | connect deviceA portA deviceB portB =>
    refine effect_same same ?_
    unfold connect record
    rw [same]
    cases s.topology.connect deviceA portA deviceB portB <;> rfl
  | disconnect device port =>
    refine effect_same same ?_
    unfold disconnect record
    rw [same]
    cases s.topology.disconnect device port <;> rfl
  | execute device line =>
    cases hx : s.execute device line with
    | error f =>
      rw [perform_execute_fault hx] at h
      cases h
    | ok p =>
      rw [perform_execute hx] at h
      have valid : p.2.valid = true := h
      refine effect_same same ?_
      rw [hx]
      obtain ⟨d, hd, hx⟩ := bind_eq_ok.1 hx
      obtain ⟨r, hr, hx⟩ := bind_eq_ok.1 hx
      cases hx
      unfold execute
      rw [same, hd, ok_bind, Console.execute_valid hr valid]
      rfl
  | run device stop lines => cases single
  | device id =>
    refine ⟨?_, same⟩
    show Answer.device <$> s'.topology.device id = Answer.device <$> s.topology.device id
    rw [same]
  | snapshot =>
    refine ⟨?_, same⟩
    show Except.ok (Answer.snapshot (Snapshot.ofTopology s'.topology)) = _
    rw [same]
    rfl

/-! ## Whole sessions -/

/-- A session after some steps.  Each step may have an explainer of its own. -/
def after (who : Nat → Option Explainer) (s : Session) : List Step → Session
  | [] => s
  | step :: rest => ({ s with explainer := who 0 }.perform step).session.after (fun n => who (n + 1)) rest

/-- The steps that do not fail, as a session goes on. -/
def effective (who : Nat → Option Explainer) (s : Session) : List Step → List Step
  | [] => []
  | step :: rest =>
    let e := { s with explainer := who 0 }.perform step
    let later := e.session.effective (fun n => who (n + 1)) rest
    if took e.answer then step :: later else later

section Effective

variable {who : Nat → Option Explainer} {rest : List Step}

theorem effective_cons_of_took (h : took ({ s with explainer := who 0 }.perform step).answer = true) :
    s.effective who (step :: rest) = step ::
      ({ s with explainer := who 0 }.perform step).session.effective (fun n => who (n + 1)) rest := if_pos h

theorem effective_cons_of_failed (h : ¬took ({ s with explainer := who 0 }.perform step).answer = true) :
    s.effective who (step :: rest) =
      ({ s with explainer := who 0 }.perform step).session.effective (fun n => who (n + 1)) rest := if_neg h

end Effective

/-- Whether the step before a moment did not fail. -/
def Moment.took (m : Moment) : Bool := Session.took m.answer

/-- What is seen of a session apart from its log. -/
def Moment.seen (m : Moment) : Except Fault Answer × Topology := (m.answer, m.topology)

/-- Without the steps that fail a session comes to the same, whoever explains errors. -/
theorem run_effective (who who' : Nat → Option Explainer) {steps : List Step}
    (single : ∀ step ∈ steps, step.isSingle = true) (same : s'.topology = s.topology) :
    (s'.trace who' (s.effective who steps)).map Moment.seen =
        ((s.trace who steps).filter Moment.took).map Moment.seen ∧
      (s'.after who' (s.effective who steps)).topology = (s.after who steps).topology := by
  induction steps generalizing who who' s s' with
  | nil => exact ⟨rfl, same⟩
  | cons step rest ih =>
    have single₀ := single step List.mem_cons_self
    have later := fun step hs => single step (List.mem_cons_of_mem _ hs)
    by_cases ht : took ({ s with explainer := who 0 }.perform step).answer = true
    · obtain ⟨hanswer, htopology⟩ :=
        perform_took single₀ ht (show ({ s' with explainer := who' 0 } : Session).topology = _ from same)
      obtain ⟨moments, final⟩ := ih (fun n => who (n + 1)) (fun n => who' (n + 1)) later htopology
      rw [effective_cons_of_took ht]
      refine ⟨?_, final⟩
      unfold trace
      dsimp only
      rw [List.filter_cons_of_pos (p := Moment.took) (a := ⟨_, _, _⟩) ht, List.map_cons, List.map_cons, moments]
      exact congrArg (· :: _) (Prod.ext hanswer htopology)
    · have kept := perform_failed (s := { s with explainer := who 0 }) single₀ (by simpa using ht)
      obtain ⟨moments, final⟩ := ih (fun n => who (n + 1)) who' later (same.trans kept.symm)
      rw [effective_cons_of_failed ht]
      refine ⟨moments.trans ?_, final⟩
      conv_rhs => unfold trace
      dsimp only
      rw [List.filter_cons_of_neg (p := Moment.took) (a := ⟨_, _, _⟩) ht]

/-- What fails in a session leaves nothing behind but an event, and can be left out. -/
structure Forgives (s : Session) : Prop where
  fault : ∀ step, step.isSingle = true → ∀ f, (s.perform step).answer = .error f → (s.perform step).session = s
  early : ∀ id type hostname f, s.addDevice id type hostname = .error f →
    s.topology.addDevice id type hostname = .error f
  rejected : ∀ device line r, (s.perform (.execute device line)).answer = .ok (.result r) → r.valid = false →
    (s.perform (.execute device line)).session.topology = s.topology ∧
      (0 ≤ s.log.bound → ∃ e, s.log.Gains e (s.perform (.execute device line)).session.log)
  erased : ∀ who who' steps, (∀ step ∈ steps, step.isSingle = true) →
    (s.trace who' (s.effective who steps)).map Moment.seen =
        ((s.trace who steps).filter Moment.took).map Moment.seen ∧
      (s.after who' (s.effective who steps)).topology = (s.after who steps).topology

/-- What fails in a session leaves nothing behind but an event, and can be left out. -/
theorem forgives (s : Session) : s.Forgives where
  fault := fun step single f h => perform_fault single h
  early := fun id type hostname f h => addDevice_error_iff.1 h
  rejected := by
    intro device line r h rejected
    obtain ⟨topology, prompt, log⟩ := execute_rejected (execute_of_perform h) rejected
    exact ⟨topology, fun bound => ⟨_, log ▸ Log.gains_add bound _ _⟩⟩
  erased := fun who who' steps single => run_effective who who' single rfl

/-- A session with a log that has a bound below zero, about an end host. -/
def forgetful : Session where
  topology := Topology.reached [.addDevice "H" "pc" none]
  log := { bound := -1 }

/-- Not every rejected line is found in the log. -/
theorem not_logged : ¬∀ (s : Session) (device : String) (line : Option String) (r : CommandResult),
    (s.perform (.execute device line)).answer = .ok (.result r) → r.valid = false →
      ∃ e, s.log.Gains e (s.perform (.execute device line)).session.log := by
  intro always
  have refused : ((forgetful.execute "H" (some "bogus")).toOption.any fun p => !p.2.valid) = true := by
    decide +kernel
  cases hx : forgetful.execute "H" (some "bogus") with
  | error f =>
    rw [hx] at refused
    cases refused
  | ok p =>
    rw [hx] at refused
    have rejected : p.2.valid = false := by simpa [Except.toOption] using refused
    obtain ⟨e, gains⟩ := always forgetful "H" (some "bogus") p.2 (by rw [perform_execute hx]) rejected
    rw [perform_execute hx] at gains
    obtain ⟨dropped, kept, -, events, -⟩ := gains.events
    obtain ⟨-, prompt, log⟩ := execute_rejected hx rejected
    rw [log, Log.events_add_of_neg (l := forgetful.log) (by decide) rfl] at events
    exact absurd events (by simp)

end Session

end NetRack
