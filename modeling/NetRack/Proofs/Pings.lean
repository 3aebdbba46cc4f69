import NetRack.Proofs.Itinerary

/-!
# Where pings come from

A command that tests whether a target can be reached reports the address that its packets had for a source.
It is chosen once: the address of the source interface, if one was given, else the target itself, if the device
has it, else the address of the interface by which the packets leave.  An interface need not have an address for
packets to leave by it, and then they go out with zeros for a source.
-/

namespace NetRack

/-- The source interface that a command is given that tests whether a target can be reached. -/
def ExecCommand.probe? : ExecCommand → Option (Option String)
  | ping _ source => some source
  | traceroute _ => some none
  | _ => none

namespace Console

/-- Whether a line asks for a command, by itself or within a line for privileged mode. -/
inductive Carries (d : Device) (line : String) (c : Command) : Prop where
  | here (asks : Asks d line c)
  | within {payload : String} {column : Int} (asks : request? d line d.mode 0 = .ok (some (.runExec payload column)))
      (inner : request? { d with mode := .privileged } payload .privileged column = .ok (some (.command c)))

variable {explainer : Option Explainer} {t : Topology} {device line : String} {d : Device} {c : Command}
  {result : CommandResult}

/-- A line that is accepted has run, and reports what came of it unless it is blank. -/
theorem execute_ran (done : execute explainer t device line = .ok result) (valid : result.valid = true) :
    ∃ d x, t.device device = .ok d ∧ run t d line = .ok x ∧ result.report = x.bind (·.report) := by
  obtain ⟨d, hd, done⟩ := bind_eq_ok.1 done
  refine ⟨d, ?_⟩
  cases hx : attempt t (Topology.deviceKey device) d line with
  | error f =>
    rw [hx] at done
    obtain ⟨⟨error, output⟩, -, done⟩ := bind_eq_ok.1 done
    cases done
    cases valid
  | ok ran =>
    rw [hx] at done
    obtain ⟨x, hrun, hx⟩ := bind_eq_ok.1 hx
    refine ⟨x, hd, hrun, ?_⟩
    cases x with
    | none =>
      cases hx
      cases done
      rfl
    | some o =>
      obtain ⟨settled, -, hx⟩ := bind_eq_ok.1 hx
      cases hx
      obtain ⟨notices, -, done⟩ := bind_eq_ok.1 done
      cases done
      rfl

/-- What a line reports that is accepted is what the command reports that it asks for. -/
theorem Carries.report (carries : Carries d line c) (hd : t.device device = .ok d)
    (done : execute explainer t device line = .ok result) (valid : result.valid = true) :
    ∃ d' o, d'.interfaces = d.interfaces ∧ d'.id = d.id ∧ c.apply t d' = .ok o ∧ result.report = o.report := by
  obtain ⟨d₀, x, hd₀, hrun, hreport⟩ := execute_ran done valid
  obtain rfl := Except.ok.inj (hd.symm.trans hd₀)
  cases carries with
  | here asks =>
    rw [run_command asks] at hrun
    obtain ⟨o, ho, rfl⟩ := map_eq_ok.1 hrun
    exact ⟨d, o, rfl, rfl, ho, hreport⟩
  | within asks inner =>
    rw [run_runExec asks] at hrun
    obtain ⟨o, ho, rfl⟩ := map_eq_ok.1 hrun
    obtain ⟨o', ho', ho⟩ := bind_eq_ok.1 ho
    cases ho
    unfold runPrivileged at ho'
    rw [inner, ok_bind] at ho'
    exact ⟨{ d with mode := .privileged }, o', rfl, rfl, ho', hreport⟩

end Console

namespace Topology

variable {t : Topology} {key : String} {d : Device} {dst : Address}

/-- Whether packets to a target leave a device, which does not have the target itself, where its routing table
leads and by an interface that has no address. -/
def LeavesUnnumbered (t : Topology) (key target : String) : Prop :=
  ¬t.Owns key target ∧ ∃ d dst egress nextHop out, t.devices.get? key = some d ∧ target = dst.text ∧
    d.Forwards dst egress nextHop ∧ d.interfaces.get? egress = some out ∧ out.ip = none

/-- Whether the source of a report on packets from a device is an address of an interface of the device that
works.  If no source interface is given and the packets leave by one without an address, it is zeros. -/
def Sourced (t : Topology) (key : String) (given : Option String) (r : TraceReport) : Prop :=
  ∃ source, r.source = some source ∧
    (t.Owns key source ∨ given = none ∧ source = "0.0.0.0" ∧ t.LeavesUnnumbered key r.target)

section Trace

variable (h : t.Sound)

include h

theorem owns_of_port {e : LinkEnd} {i : Interface} (hi : t.port? e = some i) (up : i.operUp = true) {a : String}
    (hip : i.ip = some a) : t.Owns e.device a := by
  refine ⟨e.port, i, hi, up, ?_, hip⟩
  rcases (h.port_sound hi).addressed.cases_of with ⟨-, -, no⟩ | ⟨-, -, -, -, -, -, -, yes⟩
  · have := ((h.port_sound hi).addressed.eq_none_of_not_hasIp no).1
    rw [hip] at this
    cases this
  · exact yes

/-- A packet that has a source is reported with it if it arrives. -/
theorem followPacket_source {fuel number : Nat} {p : Packet} (hp : p.Real t) {source : String}
    (sent : p.source = some source) :
    Yields (fun r => r.success = true → r.source = some source) (t.followPacket fuel number p) := by
  induction fuel generalizing number p with
  | zero => exact fun success => by cases success
  | succ fuel ih =>
    obtain ⟨s, hs, goes⟩ := (step_yields h hp number).exists_ok
    unfold followPacket
    rw [hs, ok_bind]
    cases step_comes h hs with
    | arrived =>
      intro _
      rw [Packet.arrived, sent, (hp.source source sent).nonempty]
      rfl
    | stopped => exact fun success => by cases success
    | refused => exact fun success => by cases success
    | passed _ _ _ _ _ kept => exact ih goes (by rw [kept, sent]; rfl)

/-- Packets without a source interface get the target for a source, if the device has it, or else the address of
the interface by which they leave. -/
theorem followPacket_unsourced {fuel : Nat} {p : Packet} (hp : p.Real t) (unsourced : p.source = none) :
    Yields (fun r => r.success = true → ∃ source, r.source = some source ∧ (t.Owns p.current source ∨
      source = "0.0.0.0" ∧ t.LeavesUnnumbered p.current p.target.text)) (t.followPacket fuel 1 p) := by
  cases fuel with
  | zero => exact fun success => by cases success
  | succ fuel =>
    obtain ⟨s, hs, goes⟩ := (step_yields h hp 1).exists_ok
    unfold followPacket
    rw [hs, ok_bind]
    cases step_comes h hs with
    | arrived own => exact fun _ => ⟨p.target.text, by rw [Packet.arrived, unsourced]; rfl, Or.inl own⟩
    | stopped => exact fun success => by cases success
    | refused => exact fun success => by cases success
    | @passed source hop egress ingress out away _ _ leg port sent =>
      obtain ⟨⟨d, nextHop, hd, forwards, -⟩, -, -⟩ := leg
      have hout : d.interfaces.get? egress = some out := (port?_of_get? hd).symm.trans port
      rw [unsourced, Option.getD_none] at sent
      refine (followPacket_source h goes rfl).imp fun r kept success => ⟨source, kept success, ?_⟩
      rcases (h.port_sound port).addressed.ip_cases with none | ⟨a, ha⟩
      · rw [none] at sent
        exact Or.inr ⟨sent, away, d, p.target, egress, nextHop, out, hd, rfl, forwards, hout, none⟩
      · rw [ha, IsAddress.nonempty ⟨a, rfl⟩, Option.getD_some] at sent
        obtain ⟨i, hi, up⟩ := forwards.up
        obtain rfl := Option.some.inj (hi.symm.trans hout)
        exact Or.inl (sent ▸ owns_of_port h port up ha)

/-- A trace that succeeds reports an address of the device for a source, if the source interface works that it is
given, or zeros if it is given none and the packets leave by an interface without an address. -/
theorem trace_sourced {target : String} (hd : t.devices.get? key = some d)
    (htarget : Address.read target = .ok dst) {given : Option String}
    (works : ∀ name, given = some name → ∃ i, d.interfaces.get? name = some i ∧ i.operUp = true ∧ i.hasIp = true) :
    Yields (fun r => r.success = true → t.Sourced key given r) (t.trace key target given) := by
  have there : ∀ name, Text.present? given = some name → (d.interfaces.get? name).isSome = true := by
    intro name hname
    obtain ⟨i, hi, -⟩ := works name (present?_eq_some hname)
    rw [hi]
    rfl
  have real : Packet.Real t ⟨dst, sourceAddress d given, key, [⟨1, key, none, none⟩]⟩ :=
    ⟨Table.mem_keys_of_get? hd, fun s hs => sourceAddress_isAddress (h.devices key d hd) hs⟩
  have chosen : Yields (fun r => r.success = true → ∃ source, r.source = some source ∧ (t.Owns key source ∨
      given = none ∧ source = "0.0.0.0" ∧ t.LeavesUnnumbered key dst.text)) (t.trace key target given) := by
    rw [trace_eq h hd htarget there]
    cases given with
    | none =>
      refine (followPacket_unsourced h real rfl).imp fun r sourced success => ?_
      obtain ⟨source, hsource, valid⟩ := sourced success
      exact ⟨source, hsource, valid.imp id fun zeros => ⟨rfl, zeros⟩⟩
    | some name =>
      obtain ⟨i, hi, up, hasIp⟩ := works name rfl
      have table := h.table hd
      have hport : t.port? ⟨key, name⟩ = some i := (port?_of_get? (e := ⟨key, name⟩) hd).trans hi
      obtain ⟨a, ha⟩ := (h.port_sound hport).addressed.ip_of_hasIp hasIp
      have sent : sourceAddress d (some name) = some a.text := by
        have named := table.named name (Table.mem_keys_of_get? hi)
        simp [sourceAddress, Text.present?, named, hi, ha]
      exact (followPacket_source h real sent).imp fun r kept success =>
        ⟨a.text, kept success, Or.inl (owns_of_port h hport up ha)⟩
  refine (chosen.and (trace_certifies h hd htarget there)).imp ?_
  rintro r ⟨sourced, certified⟩ success
  obtain ⟨source, hsource, valid⟩ := sourced success
  rw [← certified.target] at valid
  exact ⟨source, hsource, valid⟩

end Trace

/-- What a probe reports is a trace from its device to an address, from a source interface with an address if it is
given one. -/
theorem apply_probe (h : t.Sound) {c : ExecCommand} {given : Option String} (probes : c.probe? = some given)
    {o : Outcome} (applied : c.apply t d = .ok o) : ∃ ip dst report, Address.read ip = .ok dst ∧
      (∀ name, given = some name → ((d.interfaces.get? name).any (·.hasIp)) = true) ∧
      t.trace d.id ip given = .ok report ∧ o.report = some report := by
  cases c with
  | ping target source =>
    obtain rfl := Option.some.inj probes
    obtain ⟨ip, hip, applied⟩ := bind_eq_ok.1 applied
    obtain ⟨⟨⟩, checked, applied⟩ := bind_eq_ok.1 applied
    obtain ⟨report, traced, applied⟩ := bind_eq_ok.1 applied
    obtain ⟨dst, hdst⟩ := ((targetAddress_answers h target).value hip).read
    cases applied
    exact ⟨ip, dst, report, hdst, (checkSource_answers source).value checked, liftM_eq_ok.1 traced, rfl⟩
  | traceroute target =>
    obtain rfl := Option.some.inj probes
    obtain ⟨ip, hip, applied⟩ := bind_eq_ok.1 applied
    obtain ⟨report, traced, applied⟩ := bind_eq_ok.1 applied
    obtain ⟨dst, hdst⟩ := ((targetAddress_answers h target).value hip).read
    cases applied
    exact ⟨ip, dst, report, hdst, by simp, liftM_eq_ok.1 traced, rfl⟩
  | _ => cases probes

/-! ## Histories -/

/-- Whatever was done to a lab, a command that is accepted and finds its target reachable reports an address of its
device for a source, if the source interface works that it is given, or zeros if it is given none and the packets
leave by an interface without an address. -/
theorem reached_sourced (cs : List Change) {explainer : Option Explainer} {device line : String}
    {c : ExecCommand} {given : Option String} {result : CommandResult} {r : TraceReport}
    (hd : (reached cs).device device = .ok d) (carries : Console.Carries d line (.exec c))
    (probes : c.probe? = some given)
    (works : ∀ name, given = some name → (reached cs).works ⟨deviceKey device, name⟩ = true)
    (done : Console.execute explainer (reached cs) device line = .ok result) (valid : result.valid = true)
    (report : result.report = some r) (success : r.success = true) :
    (reached cs).Sourced (deviceKey device) given r := by
  have sound := (reached_orderly cs).sound
  have hget := device_eq_ok.1 hd
  obtain ⟨d', o, interfaces, hid, applied, hreport⟩ := carries.report hd done valid
  rw [report] at hreport
  obtain ⟨ip, dst, report', hdst, addressed, traced, hreport'⟩ := apply_probe sound probes applied
  obtain rfl : r = report' := Option.some.inj (hreport.trans hreport')
  rw [hid, sound.identified _ d hget] at traced
  refine (trace_sourced sound hget hdst fun name hname => ?_).value traced success
  obtain ⟨i, hi, hasIp⟩ := (Option.any_eq_true ..).1 (addressed name hname)
  rw [interfaces] at hi
  have up := works name hname
  unfold Topology.works at up
  rw [port?_of_get? (e := ⟨deviceKey device, name⟩) hget, hi] at up
  exact ⟨i, hi, up, hasIp⟩

/-- One end host pings the other over the cable, from its own address. -/
theorem cabledHosts_sourced : ∃ d result r, (reached cabledHosts).device "PC1" = .ok d ∧
    Console.Carries d "ping 10.0.0.2" (.exec (.ping "10.0.0.2" none)) ∧
    Console.execute none (reached cabledHosts) "PC1" "ping 10.0.0.2" = .ok result ∧ result.valid = true ∧
    result.report = some r ∧ r.success = true ∧ r.source = some "10.0.0.1" ∧
    (reached cabledHosts).Sourced (deviceKey "PC1") none r := by
  have asked : ((reached cabledHosts).devices.get? (deviceKey "PC1")).any (fun d =>
      decide ((Console.request? d "ping 10.0.0.2" d.mode 0).toOption =
        some (some (.command (.exec (.ping "10.0.0.2" none)))))) = true := by decide +kernel
  have answered : (Console.execute none (reached cabledHosts) "PC1" "ping 10.0.0.2").toOption.any (fun result =>
      result.valid && decide (result.report = some ⟨"10.0.0.2", some "10.0.0.1",
        [⟨1, "PC1", none, none⟩, ⟨2, "PC2", some "FastEthernet0", some "10.0.0.2"⟩], none⟩)) = true := by
    decide +kernel
  generalize cabledHosts = cs at asked answered ⊢
  obtain ⟨d, hd, asks⟩ := (Option.any_eq_true ..).1 asked
  obtain ⟨result, done, accepted⟩ := (Option.any_eq_true ..).1 answered
  have hd := device_eq_ok.2 hd
  have carries := Console.Carries.here (toOption_eq_some.1 (of_decide_eq_true asks))
  have done := toOption_eq_some.1 done
  obtain ⟨valid, report⟩ := Bool.and_eq_true_iff.1 accepted
  have report := of_decide_eq_true report
  exact ⟨d, result, _, hd, carries, done, valid, report, rfl, rfl,
    reached_sourced cs hd carries rfl (fun name hname => by cases hname) done valid report rfl⟩

/-- A router with an address on its loopback only, and a route out of an interface that has none. -/
def unnumberedEgress : List Change := [
  .addDevice "R1" "router" none, .addDevice "PC1" "pc" none, .connect "R1" "Gi0/0" "PC1" "Fa0",
  .command none "PC1" "ip 10.0.0.2 255.255.255.0", .command none "R1" "enable",
  .command none "R1" "configure terminal", .command none "R1" "ip route 10.0.0.0 255.255.255.0 Gi0/0",
  .command none "R1" "interface Loopback0", .command none "R1" "ip address 1.1.1.1 255.255.255.255",
  .command none "R1" "interface Gi0/0", .command none "R1" "no shutdown"]

theorem unnumberedEgress_answers :
    ((reached unnumberedEgress).devices.get? (deviceKey "R1")).any (fun d =>
      decide ((Console.request? d "do ping 10.0.0.2" d.mode 0).toOption =
        some (some (.runExec "ping 10.0.0.2" 3))) &&
      decide ((Console.request? { d with mode := .privileged } "ping 10.0.0.2" .privileged 3).toOption =
        some (some (.command (.exec (.ping "10.0.0.2" none))))) &&
      d.interfaces.values.all (fun i => i.ip ≠ some "0.0.0.0")) = true ∧
    (Console.execute none (reached unnumberedEgress) "R1" "do ping 10.0.0.2").toOption.any (fun result =>
      result.valid && decide (result.report = some ⟨"10.0.0.2", some "0.0.0.0",
        [⟨1, "R1", none, none⟩, ⟨2, "PC1", some "FastEthernet0", some "10.0.0.2"⟩], none⟩)) = true := by
  decide +kernel

/-- Not every probe that is accepted and finds its target reachable reports an address of its device for a source:
this router has none on the interface by which its pings leave. -/
theorem unnumberedEgress_not_owned : ¬∀ (cs : List Change) (explainer : Option Explainer) (device line : String)
    (d : Device) (c : ExecCommand) (given : Option String) (result : CommandResult) (r : TraceReport),
    (reached cs).device device = .ok d → Console.Carries d line (.exec c) → c.probe? = some given →
    Console.execute explainer (reached cs) device line = .ok result → result.valid = true →
    result.report = some r → r.success = true →
    ∃ source, r.source = some source ∧ (reached cs).Owns (deviceKey device) source := by
  intro always
  have lab := unnumberedEgress_answers
  generalize unnumberedEgress = cs at lab
  obtain ⟨asked, answered⟩ := lab
  obtain ⟨d, hd, asks⟩ := (Option.any_eq_true ..).1 asked
  obtain ⟨result, done, accepted⟩ := (Option.any_eq_true ..).1 answered
  simp only [Bool.and_eq_true, decide_eq_true_eq, List.all_eq_true] at asks accepted
  obtain ⟨⟨outer, inner⟩, no_zeros⟩ := asks
  have carries := Console.Carries.within (toOption_eq_some.1 outer) (toOption_eq_some.1 inner)
  obtain ⟨source, hsource, name, i, hi, -, -, hip⟩ := always cs none "R1" "do ping 10.0.0.2" d _ _ result _
    (device_eq_ok.2 hd) carries rfl (toOption_eq_some.1 done) accepted.1 accepted.2 rfl
  obtain rfl : "0.0.0.0" = source := Option.some.inj hsource
  rw [port?_of_get? (e := ⟨deviceKey "R1", name⟩) hd] at hi
  exact no_zeros i (Table.mem_values.2 ⟨name, hi⟩) hip

end Topology

end NetRack
