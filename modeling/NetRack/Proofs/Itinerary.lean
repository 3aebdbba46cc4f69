import NetRack.Proofs.Broadcast
import NetRack.Proofs.Trace

/-!
# Reports of traces

What a trace reports can be checked against the topology.  Every hop follows from the one before: the device there
chose an interface that works from its routing table, and the broadcast domain of that interface has the next hop's
address.  A failure is reported of the last hop, and success only if the last device has the target, those on
the way route, and no access list on the way denies the packet.

All that a single step can do is said once; what a trace reports follows from it by induction on the steps.
-/

namespace NetRack

/-! ## The way out of a device -/

namespace Device

variable (d : Device)

/-- Whether a route is the one that a device looks up for an address, the best of its table. -/
structure Chooses (a : Address) (r : Route) : Prop where
  found : lookupRoute d.routes a = .ok (some r)
  best : r.IsBest d.routes a

/-- Whether an interface and a next hop lead out by another interface and next hop: the interface that is given or,
without one, that of the route to the next hop, by at most so many lookups. -/
inductive LeadsOut : Nat → Option String → Option String → String → Option String → Prop where
  | out {n : Nat} {egress : String} {nextHop : Option String} : LeadsOut n (some egress) nextHop egress nextHop
  | lookup {n : Nat} {nextHop nextHop' : Option String} {a : Address} {r : Route} {egress : String}
      (address : Address.readField nextHop = .ok a) (chosen : d.Chooses a r)
      (rest : LeadsOut n r.interface (Topology.nextHopOr r nextHop) egress nextHop') :
      LeadsOut (n + 1) none nextHop egress nextHop'

/-- Whether the routing table of a device leads packets to an address out of an interface that works, to a next
hop: the target itself if no route has one. -/
structure Forwards (dst : Address) (egress nextHop : String) : Prop where
  route : ∃ r hop, d.Chooses dst r ∧ d.LeadsOut 4 r.interface r.nextHop egress hop ∧
    nextHop = (Text.present? hop).getD dst.text
  up : ∃ i, d.interfaces.get? egress = some i ∧ i.operUp = true

variable {d}

theorem Chooses.of_lookup (h : d.Sound) {a : Address} {r : Route} (found : lookupRoute d.routes a = .ok (some r)) :
    d.Chooses a r := ⟨found, (lookupRoute_best h.routes.each a).value found r rfl⟩

end Device

namespace Topology

variable {t : Topology} {key : String} {d : Device} {dst : Address}

theorem stopToward_ne_forward {a : Address} {detail egress nextHop : String} :
    stopToward d a detail ≠ .ok (.forward egress nextHop) := by
  intro h
  unfold stopToward at h
  obtain ⟨is, -, h⟩ := bind_eq_ok.1 h
  obtain ⟨found, -, h⟩ := bind_eq_ok.1 h
  split at h
  · split at h <;> cases h
  · cases h

theorem resolveEgress_forward (h : d.Sound) {fuel : Nat} {first hop : Option String} {egress nextHop : String}
    (hr : resolveEgress d dst fuel first hop = .ok (.forward egress nextHop)) :
    (∃ hop', d.LeadsOut fuel first hop egress hop' ∧ nextHop = (Text.present? hop').getD dst.text) ∧
      ∃ i, d.interfaces.get? egress = some i ∧ i.operUp = true := by
  -- Where an interface is given, no next hop is looked up.
  have given {fuel : Nat} {name : String} {hop : Option String}
      (hr : resolveEgress d dst fuel (some name) hop = .ok (.forward egress nextHop)) :
      (∃ hop', d.LeadsOut fuel (some name) hop egress hop' ∧ nextHop = (Text.present? hop').getD dst.text) ∧
        ∃ i, d.interfaces.get? egress = some i ∧ i.operUp = true := by
    unfold resolveEgress at hr
    cases hi : d.interfaces.get? name with
    | none => simp [hi] at hr
    | some i =>
      simp only [hi, Except.ok.injEq] at hr
      split at hr
      · rename_i up
        obtain ⟨rfl, rfl⟩ := Decision.forward.inj hr
        exact ⟨⟨hop, .out, rfl⟩, i, hi, up⟩
      · cases hr
  induction fuel generalizing first hop with
  | zero =>
    cases first with
    | some name => exact given hr
    | none =>
      unfold resolveEgress at hr
      obtain ⟨a, -, hr⟩ := bind_eq_ok.1 hr
      exact absurd hr stopToward_ne_forward
  | succ fuel ih =>
    cases first with
    | some name => exact given hr
    | none =>
      unfold resolveEgress at hr
      obtain ⟨a, ha, hr⟩ := bind_eq_ok.1 hr
      obtain ⟨found, hfound, hr⟩ := bind_eq_ok.1 hr
      cases found with
      | none => exact absurd hr stopToward_ne_forward
      | some inner =>
        obtain ⟨⟨hop', leads, hnext⟩, up⟩ := ih hr
        exact ⟨⟨hop', .lookup ha (.of_lookup h hfound) leads, hnext⟩, up⟩

/-- A device sends packets where its routing table leads. -/
theorem forwardingDecision_forward (h : d.Sound) {egress nextHop : String}
    (hr : forwardingDecision d dst = .ok (.forward egress nextHop)) : d.Forwards dst egress nextHop := by
  unfold forwardingDecision at hr
  obtain ⟨found, hfound, hr⟩ := bind_eq_ok.1 hr
  cases found with
  | none => exact absurd hr stopToward_ne_forward
  | some r =>
    obtain ⟨⟨hop, leads, hnext⟩, up⟩ := resolveEgress_forward h hr
    exact ⟨⟨r, hop, .of_lookup h hfound, leads, hnext⟩, up⟩

/-! ## Legs -/

/-- The name of the access list of an interface in a direction. -/
def listOf (i : Interface) : Direction → Option String
  | .incoming => i.aclIn
  | .outgoing => i.aclOut

/-- Whether an interface of a device that works has an address. -/
def Owns (t : Topology) (key address : String) : Prop :=
  ∃ name i, t.port? ⟨key, name⟩ = some i ∧ i.operUp = true ∧ i.hasIp = true ∧ i.ip = some address

/-- Whether a device passes packets on. -/
def RoutesAt (t : Topology) (key : String) : Prop := ∃ d, t.devices.get? key = some d ∧ d.ipRouting = true

/-- Whether the access list of an interface in a direction, if there is one, permits pings between addresses. -/
def PermitsPing (t : Topology) (e : LinkEnd) (direction : Direction) (source target : String) : Prop :=
  ∀ d, t.devices.get? e.device = some d → ∀ i, d.interfaces.get? e.port = some i →
    ∀ name, Text.present? (listOf i direction) = some name → ∀ acl, d.acls.get? name = some acl →
      acl.permits (.known .icmp) source target = .ok true

/-- Whether a packet to an address gets from a device to a hop: out of an interface that works, where the routing
table leads, and in by one of its broadcast domain that has the address of the next hop. -/
structure Leg (t : Topology) (dst : Address) (here : String) (hop : TraceHop) (egress ingress : String) : Prop where
  leads : ∃ d nextHop, t.devices.get? here = some d ∧ d.Forwards dst egress nextHop ∧
    (∃ j, t.port? ⟨hop.device, ingress⟩ = some j ∧ j.ip = some nextHop) ∧ hop.address = some nextHop
  reaches : ∃ r, t.domain ⟨here, egress⟩ = .ok r ∧ (⟨hop.device, ingress⟩ : LinkEnd) ∈ r.1
  interface : hop.interface = some ingress

/-- Whether a packet gets from a hop to the next. -/
def Follows (t : Topology) (dst : Address) (a b : TraceHop) : Prop :=
  ∃ egress ingress, t.Leg dst a.device b egress ingress

/-- Whether a packet gets from a hop to the next, with the permission of the access lists at both ends. -/
def Admitted (t : Topology) (dst : Address) (source : String) (a b : TraceHop) : Prop :=
  ∃ egress ingress, t.Leg dst a.device b egress ingress ∧
    t.PermitsPing ⟨a.device, egress⟩ .outgoing source dst.text ∧
    t.PermitsPing ⟨b.device, ingress⟩ .incoming source dst.text

/-- Whether the hops of a trace from a device to an address are numbered from the device on, each following from
the one before. -/
structure Itinerary (t : Topology) (id : String) (dst : Address) (hops : List TraceHop) : Prop where
  start : hops.head? = some ⟨1, id, none, none⟩
  numbers : hops.map (·.number) = List.range' 1 hops.length
  legs : hops.IsChain (t.Follows dst)

/-- Whether a report of a trace from a device to an address is borne out by the topology. -/
structure Certifies (t : Topology) (id : String) (dst : Address) (r : TraceReport) : Prop
    extends Itinerary t id dst r.hops where
  target : r.target = dst.text
  short : r.hops.length ≤ 17
  failed : ∀ f, r.failure = some f →
    ∃ last, r.hops.getLast? = some last ∧ f.number = last.number ∧ f.device = last.device
  succeeded : r.success = true → r.hops.length ≤ 16 ∧
    (∃ last, r.hops.getLast? = some last ∧ t.Owns last.device dst.text) ∧
    (∀ hop ∈ r.hops.tail.dropLast, t.RoutesAt hop.device) ∧
    ∃ source, r.source = some source ∧ r.hops.IsChain (t.Admitted dst source)

theorem permitsPing_of_deniedBy (hd : t.devices.get? key = some d) {name : String} {direction : Direction}
    {source target : String} (h : deniedBy d name direction source target = .ok none) :
    t.PermitsPing ⟨key, name⟩ direction source target := by
  intro d' hd' i hi list hlist acl hacl
  obtain rfl := Option.some.inj (hd.symm.trans hd')
  have hi : d.interfaces.get? name = some i := hi
  have looked : deniedBy d name direction source target =
      (do return if ← acl.permits (.known .icmp) source target then none else some list) := by
    unfold deniedBy
    cases direction
    all_goals
      unfold listOf at hlist
      simp only [hi, hlist, hacl]
  rw [looked] at h
  obtain ⟨permits, hp, h⟩ := bind_eq_ok.1 h
  cases permits with
  | true => exact hp
  | false => simp at h

/-- A device finds whether an interface of it that works has an address. -/
theorem isAddressed_iff (h : t.Sound) (hd : t.devices.get? key = some d) {address : String} {own : Bool}
    (found : d.isAddressed address = .ok own) : own = true ↔ t.Owns key address := by
  have table := h.table hd
  unfold Device.isAddressed Device.ownsIp at found
  rw [Device.sortedInterfaces_of_table table] at found
  simp only [ok_bind, pure_eq_ok, Except.ok.injEq, Bool.not_true, Bool.or_false] at found
  rw [← found]
  constructor
  · intro own
    obtain ⟨name, hname⟩ := Option.isSome_iff_exists.1 own
    obtain ⟨i, hi, rfl⟩ := Option.map_eq_some_iff.1 (present?_eq_some hname)
    have has := List.find?_some hi
    simp only [Bool.and_eq_true, decide_eq_true_eq] at has
    have hget := (Device.mem_ordered_values table).1 (List.mem_of_find?_eq_some hi)
    exact ⟨i.name, i, (port?_of_get? (e := ⟨key, i.name⟩) hd).trans hget, has.2, has.1.2, has.1.1⟩
  · rintro ⟨name, i, hi, up, hasIp, hip⟩
    have hget : d.interfaces.get? name = some i := (port?_of_get? (e := ⟨key, name⟩) hd).symm.trans hi
    have hmem := (Device.mem_ordered_values table).2 (table.name_eq hget ▸ hget)
    cases hfind : (d.ordered.map Prod.snd).find? fun i => i.ip = some address && i.hasIp && i.operUp with
    | none => exact absurd (by simp [up, hasIp, hip]) (List.find?_eq_none.1 hfind i hmem)
    | some j =>
      have hj := (Device.mem_ordered_values table).1 (List.mem_of_find?_eq_some hfind)
      have named := table.named _ (Table.mem_keys_of_get? hj)
      simp [Text.present?, named]

/-! ## What a step can do -/

/-- What can become of a packet at a device: it has arrived, it gets no further, it gets to the next hop and is
denied there, or it goes on from there. -/
inductive Comes (t : Topology) (p : Packet) (number : Nat) : Step → Prop where
  | arrived (own : t.Owns p.current p.target.text) : Comes t p number (.inr p.arrived)
  | stopped {source : Option String} {reason : FailureReason} {detail : String} :
      Comes t p number (.inr ({ p with source }.failed number p.current reason detail))
  | refused {source : Option String} {hop : TraceHop} {egress ingress : String} {reason : FailureReason}
      {detail : String} (numbered : hop.number = number + 1) (leg : t.Leg p.target p.current hop egress ingress) :
      Comes t p number
        (.inr ({ p with source, hops := p.hops ++ [hop] }.failed (number + 1) hop.device reason detail))
  | passed {source : String} {hop : TraceHop} {egress ingress : String} {out : Interface}
      (away : ¬t.Owns p.current p.target.text) (routes : 1 < number → t.RoutesAt p.current)
      (numbered : hop.number = number + 1) (leg : t.Leg p.target p.current hop egress ingress)
      (port : t.port? ⟨p.current, egress⟩ = some out)
      (sent : source = p.source.getD ((Text.present? out.ip).getD "0.0.0.0"))
      (leaves : t.PermitsPing ⟨p.current, egress⟩ .outgoing source p.target.text)
      (enters : t.PermitsPing ⟨hop.device, ingress⟩ .incoming source p.target.text) :
      Comes t p number (.inl ⟨p.target, some source, hop.device, p.hops ++ [hop]⟩)

theorem handOver_comes (h : t.Sound) {p : Packet} {number : Nat} {source egress nextHop : String} {out : Interface}
    {s : Step} (hd : t.devices.get? p.current = some d) (forwards : d.Forwards p.target egress nextHop)
    (hport : t.port? ⟨p.current, egress⟩ = some out) (away : ¬t.Owns p.current p.target.text)
    (routes : 1 < number → t.RoutesAt p.current)
    (sent : source = p.source.getD ((Text.present? out.ip).getD "0.0.0.0"))
    (permits : t.PermitsPing ⟨p.current, egress⟩ .outgoing source p.target.text)
    (hs : t.handOver { p with source := some source } number source egress nextHop = .ok s) :
    t.Comes p number s := by
  unfold handOver at hs
  obtain ⟨⟨ends, blocked⟩, hdomain, hs⟩ := bind_eq_ok.1 hs
  obtain ⟨found, hfound, hs⟩ := bind_eq_ok.1 hs
  cases found with
  | none =>
    obtain rfl := Except.ok.inj hs
    exact .stopped
  | some arrival =>
    obtain ⟨hmem, haddress⟩ := findFirst_eq_some hfound
    obtain ⟨j, hj⟩ := Option.isSome_iff_exists.1 (((domain_yields h hport).value hdomain) arrival hmem)
    obtain ⟨d', hd', -⟩ := device_of_port? hj
    have hip : j.ip = some nextHop := by
      unfold hasAddress at haddress
      rw [interface_eq hj] at haddress
      simpa using haddress
    simp only [interface_eq hj, entry_eq hd', ok_bind] at hs
    have leg : t.Leg p.target p.current ⟨number + 1, arrival.device, some arrival.port, j.ip⟩ egress arrival.port :=
      ⟨⟨d, nextHop, hd, forwards, ⟨j, hj, hip⟩, hip⟩, ⟨_, hdomain, hmem⟩, rfl⟩
    obtain ⟨denied, hdenied, hs⟩ := bind_eq_ok.1 hs
    cases denied with
    | some acl =>
      obtain rfl := Except.ok.inj hs
      have numbered : (⟨number + 1, arrival.device, some arrival.port, j.ip⟩ : TraceHop).number = number + 1 := rfl
      exact .refused numbered leg
    | none =>
      obtain rfl := Except.ok.inj hs
      exact .passed away routes rfl leg hport sent permits (permitsPing_of_deniedBy hd' hdenied)

/-- What a step comes to is one of what can become of the packet. -/
theorem step_comes (h : t.Sound) {p : Packet} {number : Nat} {s : Step} (hs : t.step p number = .ok s) :
    t.Comes p number s := by
  unfold step at hs
  obtain ⟨d, hentry, hs⟩ := bind_eq_ok.1 hs
  have hd : t.devices.get? p.current = some d := by
    unfold entry at hentry
    exact need_eq_ok.1 hentry
  obtain ⟨own, hown, hs⟩ := bind_eq_ok.1 hs
  cases own with
  | true =>
    obtain rfl := Except.ok.inj hs
    exact .arrived ((isAddressed_iff h hd hown).1 rfl)
  | false =>
    simp only [Bool.false_eq_true, if_false] at hs
    split at hs
    · obtain rfl := Except.ok.inj hs
      exact .stopped
    · rename_i passing
      have away : ¬t.Owns p.current p.target.text := fun own => by cases (isAddressed_iff h hd hown).2 own
      have routes : 1 < number → t.RoutesAt p.current := fun later => ⟨d, hd, by simpa [later] using passing⟩
      unfold forward at hs
      obtain ⟨decision, hdecision, hs⟩ := bind_eq_ok.1 hs
      cases decision with
      | stop reason detail =>
        obtain rfl := Except.ok.inj hs
        exact .stopped
      | forward egress nextHop =>
        have forwards := forwardingDecision_forward (h.devices _ d hd) hdecision
        obtain ⟨out, hout, hs⟩ := bind_eq_ok.1 hs
        have hport : t.port? ⟨p.current, egress⟩ = some out := (port?_of_get? hd).trans (need_eq_ok.1 hout)
        obtain ⟨denied, hdenied, hs⟩ := bind_eq_ok.1 hs
        cases denied with
        | some acl =>
          obtain rfl := Except.ok.inj hs
          exact .stopped
        | none =>
          exact handOver_comes h hd forwards hport away routes rfl (permitsPing_of_deniedBy hd hdenied) hs

/-! ## Packets on their way -/

section Way

variable {id : String} {hops : List TraceHop} {hop last : TraceHop}

theorem Itinerary.snoc (way : t.Itinerary id dst (hops ++ [last])) (numbered : hop.number = hops.length + 2)
    (follows : t.Follows dst last hop) : t.Itinerary id dst (hops ++ [last] ++ [hop]) where
  start := by
    rw [List.head?_append, way.start]
    rfl
  numbers := by
    rw [List.map_append, way.numbers]
    simp [List.range'_1_concat, numbered]
    omega
  legs := by
    rw [List.isChain_append]
    exact ⟨way.legs, List.isChain_singleton _, by simpa using follows⟩

theorem Itinerary.number_eq (way : t.Itinerary id dst (hops ++ [last])) : last.number = hops.length + 1 := by
  have numbers := way.numbers
  rw [List.map_append, List.length_append, List.length_singleton, List.range'_1_concat] at numbers
  simpa [Nat.add_comm] using List.append_inj_right' numbers (by simp)

/-- A packet that has come over an itinerary to the device where it is, always passed on and permitted. -/
structure OnWay (t : Topology) (id : String) (dst : Address) (number : Nat) (p : Packet) : Prop where
  real : p.Real t
  target : p.target = dst
  way : t.Itinerary id dst p.hops
  here : ∃ before last, p.hops = before ++ [last] ∧ before.length + 1 = number ∧ last.device = p.current ∧
    ∀ hop ∈ before.tail, t.RoutesAt hop.device
  admitted : p.hops.IsChain fun a b => ∃ source, p.source = some source ∧ t.Admitted dst source a b

/-- What a step makes of a packet on its way: it is on its way still, or the report is borne out. -/
def StepsOn (t : Topology) (id : String) (dst : Address) (number : Nat) : Step → Prop
  | .inl p => t.OnWay id dst (number + 1) p
  | .inr r => t.Certifies id dst r

/-- A report that a packet got no further than the last device of an itinerary is borne out. -/
theorem Itinerary.certifies (way : t.Itinerary id dst (hops ++ [last])) (short : hops.length ≤ 16) {r : TraceReport}
    (target : r.target = dst.text) (here : r.hops = hops ++ [last]) {f : TraceFailure}
    (failure : r.failure = some f) (numbered : f.number = hops.length + 1) (placed : f.device = last.device) :
    t.Certifies id dst r where
  toItinerary := here ▸ way
  target := target
  short := by
    rw [here, List.length_append, List.length_singleton]
    omega
  failed := by
    intro f' hf
    obtain rfl := Option.some.inj (failure.symm.trans hf)
    exact ⟨last, by rw [here]; simp, numbered.trans way.number_eq.symm, placed⟩
  succeeded := by
    intro success
    rw [TraceReport.success, failure] at success
    cases success

theorem Admitted.follows {source : String} {a b : TraceHop} (h : t.Admitted dst source a b) : t.Follows dst a b := by
  obtain ⟨egress, ingress, leg, -⟩ := h
  exact ⟨egress, ingress, leg⟩

variable (h : t.Sound) {number : Nat} {p : Packet} (hp : t.OnWay id dst number p)

include hp

theorem OnWay.arrives (few : number ≤ 16) (own : t.Owns p.current p.target.text) :
    t.Certifies id dst p.arrived where
  toItinerary := hp.way
  target := by rw [← hp.target]; rfl
  short := by
    obtain ⟨before, last, hops, length, -⟩ := hp.here
    show p.hops.length ≤ 17
    rw [hops, List.length_append, List.length_singleton]
    omega
  failed := by
    intro f hf
    cases hf
  succeeded := by
    obtain ⟨before, last, hops, length, device, routes⟩ := hp.here
    intro _
    show p.hops.length ≤ 16 ∧ _
    refine ⟨?_, ⟨last, ?_, ?_⟩, fun hop hmem => routes hop ?_, _, rfl, ?_⟩
    · rw [hops, List.length_append, List.length_singleton]
      omega
    · rw [Packet.arrived, hops]
      simp
    · rw [device, ← hp.target]
      exact own
    · rw [Packet.arrived, hops] at hmem
      cases before with
      | nil => cases hmem
      | cons first rest => simpa using hmem
    · refine hp.admitted.imp fun a b ⟨source, sent, admitted⟩ => ?_
      rw [sent, (hp.real.source source sent).nonempty]
      exact admitted

include h

/-- A step keeps a packet on its way, or its report is borne out. -/
theorem OnWay.step (few : number ≤ 16) : Yields (t.StepsOn id dst number) (t.step p number) := by
  obtain ⟨s, hs, goes⟩ := (step_yields h hp.real number).exists_ok
  obtain ⟨before, last, hops, length, device, routes⟩ := hp.here
  have way : t.Itinerary id dst (before ++ [last]) := hops ▸ hp.way
  rw [hs]
  cases step_comes h hs with
  | arrived own => exact hp.arrives few own
  | stopped => exact way.certifies (by omega) (congrArg Address.text hp.target) hops rfl length.symm device.symm
  | @refused source hop egress ingress reason detail numbered leg =>
    have follows : t.Follows dst last hop := ⟨egress, ingress, by rwa [device, ← hp.target]⟩
    have on := way.snoc (numbered.trans (by omega)) follows
    refine on.certifies ?_ (congrArg Address.text hp.target) (congrArg (· ++ [hop]) hops) rfl ?_ rfl
    all_goals
      rw [List.length_append, List.length_singleton, length]
    exact few
  | @passed source hop egress ingress out away onward numbered leg port sent leaves enters =>
    have admitted : t.Admitted dst source last hop :=
      ⟨egress, ingress, by rwa [device, ← hp.target], by rwa [device, ← hp.target], by rwa [← hp.target]⟩
    refine ⟨goes, hp.target, ?_, ⟨before ++ [last], hop, by rw [hops], by simp; omega, rfl, ?_⟩, ?_⟩
    · show t.Itinerary id dst (p.hops ++ [hop])
      rw [hops]
      exact way.snoc (numbered.trans (by omega)) admitted.follows
    · intro x hx
      cases before with
      | nil => cases hx
      | cons first rest =>
        rcases List.mem_append.1 (show x ∈ rest ++ [last] from hx) with hx | hx
        · exact routes x hx
        · rw [List.mem_singleton.1 hx, device]
          exact onward (by simp at length; omega)
    · have kept {a b : TraceHop} : (∃ s, p.source = some s ∧ t.Admitted dst s a b) → t.Admitted dst source a b := by
        rintro ⟨s, hs, admitted⟩
        rwa [sent, hs]
      refine List.isChain_append.2 ⟨hp.admitted.imp fun a b before => ⟨source, rfl, kept before⟩,
        List.isChain_singleton _, ?_⟩
      rw [hops]
      simpa using admitted

/-- Wherever a packet on its way gets to, its report is borne out. -/
theorem OnWay.follow {fuel : Nat} (left : fuel + number = 17) :
    Yields (t.Certifies id dst) (t.followPacket fuel number p) := by
  induction fuel generalizing number p with
  | zero =>
    obtain ⟨before, last, hops, length, device, -⟩ := hp.here
    have way : t.Itinerary id dst (before ++ [last]) := hops ▸ hp.way
    refine way.certifies (by omega) (congrArg Address.text hp.target) hops rfl ?_ device.symm
    rw [hops, List.length_append, List.length_singleton]
  | succ fuel ih =>
    unfold followPacket
    refine (hp.step h (by omega)).bind fun s hs => ?_
    cases s with
    | inl p' => exact ih hs (by omega)
    | inr r => exact hs

end Way

/-- A report of a trace in a sound topology is borne out. -/
theorem trace_certifies (h : t.Sound) {id target : String} (hd : t.devices.get? id = some d)
    (htarget : Address.read target = .ok dst) {source : Option String}
    (hsource : ∀ name, Text.present? source = some name → (d.interfaces.get? name).isSome = true) :
    Yields (t.Certifies id dst) (t.trace id target source) := by
  rw [trace_eq h hd htarget hsource]
  refine OnWay.follow h ⟨⟨Table.mem_keys_of_get? hd, ?_⟩, rfl, ⟨rfl, rfl, List.isChain_singleton _⟩,
    ⟨[], _, rfl, rfl, rfl, fun _ hx => by cases hx⟩, List.isChain_singleton _⟩ rfl
  exact fun s hs => sourceAddress_isAddress (h.devices id d hd) hs

/-! ## Histories -/

/-- Whatever was done to a lab, a trace from a device to an address comes to a report that is borne out. -/
theorem reached_certifies (cs : List Change) {id target : String} (hd : (reached cs).devices.get? id = some d)
    (htarget : Address.read target = .ok dst) {source : Option String}
    (hsource : ∀ name, Text.present? source = some name → (d.interfaces.get? name).isSome = true) :
    Yields ((reached cs).Certifies id dst) ((reached cs).trace id target source) :=
  trace_certifies (reached_orderly cs).sound hd htarget hsource

/-- One end host reaches the other over the cable, and the report of its trace is borne out. -/
theorem cabledHosts_certifies : ∃ d dst, (reached cabledHosts).devices.get? "PC1" = some d ∧
    Address.read "10.0.0.2" = .ok dst ∧ (reached cabledHosts).Certifies "PC1" dst ⟨"10.0.0.2", some "10.0.0.1",
      [⟨1, "PC1", none, none⟩, ⟨2, "PC2", some "FastEthernet0", some "10.0.0.2"⟩], none⟩ := by
  have lab : ((reached cabledHosts).devices.get? "PC1").isSome = true ∧
      (reached cabledHosts).trace "PC1" "10.0.0.2" none = .ok ⟨"10.0.0.2", some "10.0.0.1",
        [⟨1, "PC1", none, none⟩, ⟨2, "PC2", some "FastEthernet0", some "10.0.0.2"⟩], none⟩ := by
    decide +kernel
  have readable : (Address.read "10.0.0.2").toOption.isSome = true := by decide +kernel
  generalize cabledHosts = cs at lab ⊢
  obtain ⟨there, traced⟩ := lab
  obtain ⟨d, hd⟩ := Option.isSome_iff_exists.1 there
  cases htarget : Address.read "10.0.0.2" with
  | error e =>
    rw [htarget] at readable
    cases readable
  | ok dst =>
    exact ⟨d, dst, hd, rfl, (reached_certifies cs hd htarget fun name hname => by cases hname).value traced⟩

end Topology

end NetRack
