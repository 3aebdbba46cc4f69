import NetRack.Proofs.Result
import NetRack.Session.Basic
import NetRack.Snapshot.Basic

/-!
# Explanations stand aside

Whoever explains the errors of a session, and whatever is replied, nothing but captions comes of it.  What a
console makes of a line is decided without the explainer, and the caption is put to it afterwards.  So a step
of a session commutes with leaving out the captions and the explainer, and along a whole session the results
apart from their captions, the topologies and the logs are the same for all explainers.
-/

namespace NetRack

/-! ## Results and their captions -/

/-- A result without its caption. -/
def CommandResult.uncaptioned (r : CommandResult) : CommandResult := { r with explanation := none }

/-- A result with the caption that an explainer gives to its error, if it has one. -/
def CommandResult.captioned (explainer : Option Explainer) (line : String) (r : CommandResult) : CommandResult :=
  { r with explanation := r.error.bind fun e => explainSafely explainer line e.message }

theorem Console.doneResult_captioned (explainer : Option Explainer) (line : String) (before : Device)
    (o : Outcome) (t : Topology) (after : Device) :
    CommandResult.captioned explainer line <$> doneResult before o t after = doneResult before o t after := by
  unfold doneResult
  cases Show.linkNotices before after <;> rfl

/-- A console decides on a result without the explainer, who only puts a caption to it. -/
theorem Console.execute_captioned (explainer : Option Explainer) (t : Topology) (device line : String) :
    execute explainer t device line = CommandResult.captioned explainer line <$> execute none t device line := by
  unfold execute
  cases t.device device with
  | error f => rfl
  | ok d =>
    simp only [ok_bind]
    split
    · rfl
    · exact (doneResult_captioned ..).symm
    · rename_i f _
      cases reportFailure d.prompt f <;> rfl

namespace Session

/-! ## Sessions without their explainers -/

/-- A session that nobody explains. -/
def unexplained (s : Session) : Session := { s with explainer := none }

/-- What comes of several lines, without captions and explainer. -/
def Run.uncaptioned (r : Run) : Run :=
  ⟨r.session.unexplained, List.map CommandResult.uncaptioned <$> r.results⟩

/-- What comes of a line, without caption and explainer. -/
def uncaptioned (p : Session × CommandResult) : Session × CommandResult := (p.1.unexplained, p.2.uncaptioned)

theorem execute_uncaptioned (s : Session) (device : String) (line : Option String) :
    uncaptioned <$> s.execute device line = uncaptioned <$> s.unexplained.execute device line := by
  unfold execute
  show uncaptioned <$> (s.topology.device device >>= _) = uncaptioned <$> (s.topology.device device >>= _)
  cases s.topology.device device with
  | error f => rfl
  | ok d =>
    simp only [ok_bind]
    rw [Console.execute_captioned s.explainer]
    show _ = uncaptioned <$> (Console.execute none s.topology device (line.getD "") >>= _)
    cases Console.execute none s.topology device (line.getD "") <;> rfl

/-- What sessions that differ in their explainers alone make of a line. -/
theorem execute_alike {s s' : Session} (h : s.unexplained = s'.unexplained) (device : String)
    (line : Option String) : uncaptioned <$> s.execute device line = uncaptioned <$> s'.execute device line := by
  rw [execute_uncaptioned s, execute_uncaptioned s', h]

/-- What comes of a line and then of others, without captions and explainer. -/
theorem Run.uncaptioned_mk (later : Run) (r : CommandResult) :
    Run.uncaptioned ⟨later.session, (r :: ·) <$> later.results⟩ =
      ⟨later.uncaptioned.session, (r.uncaptioned :: ·) <$> later.uncaptioned.results⟩ := by
  unfold Run.uncaptioned
  cases later.results <;> rfl

/-- What sessions that differ in their explainers alone make of several lines. -/
theorem run_alike (device : String) (stop : Bool) (lines : List (Option String)) {s s' : Session}
    (h : s.unexplained = s'.unexplained) :
    (s.run device stop lines).uncaptioned = (s'.run device stop lines).uncaptioned := by
  induction lines generalizing s s' with
  | nil =>
    show Run.mk s.unexplained (.ok []) = Run.mk s'.unexplained (.ok [])
    rw [h]
  | cons line rest ih =>
    unfold run
    rcases map_eq_map (execute_alike h device line) with ⟨f, hs, hs'⟩ | ⟨⟨next, r⟩, ⟨next', r'⟩, hs, hs', alike⟩
    · rw [hs, hs']
      show Run.mk s.unexplained (.error f) = Run.mk s'.unexplained (.error f)
      rw [h]
    · rw [hs, hs']
      obtain ⟨hnext, hr⟩ : next.unexplained = next'.unexplained ∧ r.uncaptioned = r'.uncaptioned :=
        Prod.mk.inj alike
      have hvalid : r.valid = r'.valid := (CommandResult.mk.inj hr).1
      dsimp only
      rw [hvalid]
      split
      · show Run.mk next.unexplained (.ok [r.uncaptioned]) = Run.mk next'.unexplained (.ok [r'.uncaptioned])
        rw [hnext, hr]
      · rw [Run.uncaptioned_mk, Run.uncaptioned_mk, ih hnext, hr]

/-! ## Steps -/

/-- A thing that is done with a session. -/
inductive Step where
  | addDevice (id type : String) (hostname : Option String)
  | removeDevice (id : String)
  | connect (deviceA portA deviceB portB : String)
  | disconnect (device port : String)
  | execute (device : String) (line : Option String)
  | run (device : String) (stop : Bool) (lines : List (Option String))
  | device (id : String)
  | snapshot

/-- What a step gives. -/
inductive Answer where
  | done
  | device (d : Device)
  | result (r : CommandResult)
  | results (rs : List CommandResult)
  | snapshot (v : Json)

/-- An answer without captions. -/
def Answer.uncaptioned : Answer → Answer
  | result r => .result r.uncaptioned
  | results rs => .results (rs.map CommandResult.uncaptioned)
  | a => a

/-- What comes of a step: the answer or a fault, and the session after it. -/
structure Effect where
  answer : Except Fault Answer
  session : Session

/-- What comes of a step, without captions and explainer. -/
def Effect.uncaptioned (e : Effect) : Effect := ⟨Answer.uncaptioned <$> e.answer, e.session.unexplained⟩

/-- What comes of a step that leaves the session as it is if it has a fault. -/
def effect (s : Session) : Except Fault (Session × Answer) → Effect
  | .ok (next, a) => ⟨.ok a, next⟩
  | .error f => ⟨.error f, s⟩

/-- What comes of a step. -/
def perform (s : Session) : Step → Effect
  | .addDevice id type hostname => s.effect ((fun p => (p.1, .device p.2)) <$> s.addDevice id type hostname)
  | .removeDevice id => s.effect ((·, .done) <$> s.removeDevice id)
  | .connect deviceA portA deviceB portB => s.effect ((·, .done) <$> s.connect deviceA portA deviceB portB)
  | .disconnect device port => s.effect ((·, .done) <$> s.disconnect device port)
  | .execute device line => s.effect ((fun p => (p.1, .result p.2)) <$> s.execute device line)
  | .run device stop lines =>
    let r := s.run device stop lines
    ⟨.results <$> r.results, r.session⟩
  | .device id => ⟨.device <$> s.topology.device id, s⟩
  | .snapshot => ⟨.ok (.snapshot (Snapshot.ofTopology s.topology)), s⟩

theorem effect_alike {s s' : Session} (h : s.unexplained = s'.unexplained)
    {x x' : Except Fault (Session × Answer)}
    (hx : (fun p => (p.1.unexplained, p.2.uncaptioned)) <$> x =
      (fun p => (p.1.unexplained, p.2.uncaptioned)) <$> x') :
    (s.effect x).uncaptioned = (s'.effect x').uncaptioned := by
  rcases map_eq_map hx with ⟨f, rfl, rfl⟩ | ⟨p, p', rfl, rfl, hp⟩
  · show Effect.mk (.error f) s.unexplained = Effect.mk (.error f) s'.unexplained
    rw [h]
  · obtain ⟨hnext, ha⟩ := Prod.mk.inj hp
    show Effect.mk (.ok p.2.uncaptioned) p.1.unexplained = Effect.mk (.ok p'.2.uncaptioned) p'.1.unexplained
    rw [hnext, ha]

/-- Sessions that differ in their explainers alone do so after a step as well, and the answers differ in
their captions alone. -/
theorem perform_alike {s s' : Session} (h : s.unexplained = s'.unexplained) (step : Step) :
    (s.perform step).uncaptioned = (s'.perform step).uncaptioned := by
  have htopology : s.topology = s'.topology := (Session.mk.inj h).1
  have hlog : s.log = s'.log := (Session.mk.inj h).2.1
  cases step with
  | addDevice id type hostname =>
    refine effect_alike h ?_
    unfold addDevice record
    rw [htopology, hlog]
    cases s'.topology.addDevice id type hostname with
    | error f => rfl
    | ok u =>
      simp only [ok_bind]
      cases u.device id <;> rfl
  | removeDevice id =>
    refine effect_alike h ?_
    unfold removeDevice record
    rw [htopology, hlog]
    cases s'.topology.removeDevice id <;> rfl
  | connect deviceA portA deviceB portB =>
    refine effect_alike h ?_
    unfold connect record
    rw [htopology, hlog]
    cases s'.topology.connect deviceA portA deviceB portB <;> rfl
  | disconnect device port =>
    refine effect_alike h ?_
    unfold disconnect record
    rw [htopology, hlog]
    cases s'.topology.disconnect device port <;> rfl
  | execute device line =>
    refine effect_alike h ?_
    rcases map_eq_map (execute_alike h device line) with ⟨f, hs, hs'⟩ | ⟨⟨next, r⟩, ⟨next', r'⟩, hs, hs', alike⟩
    · rw [hs, hs']
    · obtain ⟨hnext, hr⟩ := Prod.mk.inj alike
      rw [hs, hs']
      show Except.ok (next.unexplained, Answer.result r.uncaptioned) =
        .ok (next'.unexplained, Answer.result r'.uncaptioned)
      rw [hnext, hr]
  | run device stop lines =>
    obtain ⟨hsession, hresults⟩ := Run.mk.inj (run_alike device stop lines h)
    refine congrArg₂ Effect.mk ?_ hsession
    show Answer.uncaptioned <$> (Answer.results <$> (s.run device stop lines).results) =
      Answer.uncaptioned <$> (Answer.results <$> (s'.run device stop lines).results)
    rcases map_eq_map hresults with ⟨f, hs, hs'⟩ | ⟨rs, rs', hs, hs', alike⟩
    · rw [hs, hs']
    · rw [hs, hs']
      exact congrArg (fun rs => Except.ok (Answer.results rs)) alike
  | device id =>
    unfold perform Effect.uncaptioned
    dsimp only
    rw [htopology, h]
  | snapshot =>
    unfold perform Effect.uncaptioned
    dsimp only
    rw [htopology, h]

/-! ## Whole sessions -/

/-- What is seen of a session after a step. -/
structure Moment where
  answer : Except Fault Answer
  topology : Topology
  log : Log

/-- What is seen of a session, without captions. -/
def Moment.uncaptioned (m : Moment) : Moment := { m with answer := Answer.uncaptioned <$> m.answer }

/-- What is seen of a session step by step.  Each step may have an explainer of its own, so that replies may
depend on all that was asked before. -/
def trace (who : Nat → Option Explainer) (s : Session) : List Step → List Moment
  | [] => []
  | step :: rest =>
    let e := { s with explainer := who 0 }.perform step
    ⟨e.answer, e.session.topology, e.session.log⟩ :: e.session.trace (fun n => who (n + 1)) rest

/-- Explainers do not matter to anything but captions: along a session the answers apart from captions, the
topologies and the logs are the same, whoever explains. -/
theorem trace_uncaptioned (who who' : Nat → Option Explainer) (s : Session) (steps : List Step) :
    (s.trace who steps).map Moment.uncaptioned = (s.trace who' steps).map Moment.uncaptioned := by
  suffices alike : ∀ s s' : Session, s.unexplained = s'.unexplained →
      (s.trace who steps).map Moment.uncaptioned = (s'.trace who' steps).map Moment.uncaptioned from
    alike s s rfl
  induction steps generalizing who who' with
  | nil => exact fun s s' h => rfl
  | cons step rest ih =>
    intro s s' h
    have step := @perform_alike { s with explainer := who 0 } { s' with explainer := who' 0 } h step
    obtain ⟨hanswer, hsession⟩ := Effect.mk.inj step
    obtain ⟨htopology, hlog, -⟩ := Session.mk.inj hsession
    unfold trace
    rw [List.map_cons, List.map_cons, ih _ _ _ _ hsession]
    unfold Moment.uncaptioned
    dsimp only
    rw [hanswer, htopology, hlog]

end Session

end NetRack
