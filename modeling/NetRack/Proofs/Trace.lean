import NetRack.Proofs.Domain
import NetRack.Topology.Trace

/-!
# Packets are followed to a report

In a sound topology a packet to an address never gets lost without a report: wherever it is, there is a
device, the next hop of every route can be looked up, and every rule can be matched.
-/

namespace NetRack

theorem isAddress_zeros : IsAddress "0.0.0.0" := ⟨.zero, by decide +kernel⟩

theorem IsAddress.nonempty {s : String} (h : IsAddress s) : Text.present? (some s) = some s := by
  obtain ⟨a, rfl⟩ := h
  simp [Text.present?]

theorem present?_eq_some {o : Option String} {s : String} (h : Text.present? o = some s) : o = some s := by
  cases o with
  | none => cases h
  | some s' =>
    unfold Text.present? at h
    dsimp only at h
    split at h
    · cases h
    · exact h

/-! ## Access lists -/

theorem decideByRules_yields {protocol : Stored Protocol} {source target : String}
    (hs : IsAddress source) (ht : IsAddress target) {rules : List AclRule}
    (h : ∀ r ∈ rules, r.Readable) : Yields (fun _ => True) (decideByRules protocol source target rules) := by
  induction rules with
  | nil => trivial
  | cons r rules ih =>
    have hr := h r (by simp)
    have rest := ih fun s hmem => h s (by simp [hmem])
    have matched : Yields (fun _ => True) (r.matchesPacket protocol source target) := by
      unfold AclRule.matchesPacket
      split
      · trivial
      · refine (matchesWildcard_yields hr.source hr.sourceWildcard hs).bind fun b _ => ?_
        split
        · trivial
        · exact matchesWildcard_yields hr.destination hr.destinationWildcard ht
    unfold decideByRules
    refine matched.bind fun b _ => ?_
    split
    · trivial
    · exact rest

namespace Topology

variable {t : Topology} {d : Device}

theorem deniedBy_yields (h : d.Sound) (name : String) (direction : Direction) {source target : String}
    (hs : IsAddress source) (ht : IsAddress target) :
    Yields (fun _ => True) (deniedBy d name direction source target) := by
  unfold deniedBy
  cases d.interfaces.get? name with
  | none => trivial
  | some i =>
    dsimp only
    split
    · trivial
    · split
      · trivial
      · rename_i acl hacl
        unfold AccessList.permits
        split
        · trivial
        · exact (decideByRules_yields hs ht (h.lists _ acl hacl)).bind fun _ _ => trivial

/-! ## The way out of a device -/

/-- Where a packet is sent: out of an interface that is there. -/
def Decision.Leads (d : Device) : Decision → Prop
  | .forward egress _ => ∃ i, d.interfaces.get? egress = some i
  | .stop _ _ => True

theorem stopToward_yields (h : d.Sound) (a : Address) (detail : String) :
    Yields (Decision.Leads d) (stopToward d a detail) := by
  have search := findFirst_ok (c := isDownToward a) (l := d.ordered.map Prod.snd)
    (p := fun i => (i.hasIp && !i.operUp) && i.net.any (·.contains a)) fun i hi => by
      have haddressed := (h.interfaces.each _ i ((Device.mem_ordered_values h.interfaces).1 hi)).addressed
      unfold isDownToward
      rw [haddressed.network?_eq]
      cases i.hasIp && !i.operUp <;> rfl
  unfold stopToward
  rw [Device.sortedInterfaces_of_table h.interfaces, ok_bind, search, ok_bind]
  split
  · split <;> trivial
  · trivial

theorem resolveEgress_named (d : Device) (dst : Address) (fuel : Nat) (egress : String)
    (nextHop : Option String) :
    Yields (Decision.Leads d) (resolveEgress d dst fuel (some egress) nextHop) := by
  unfold resolveEgress
  cases hi : d.interfaces.get? egress with
  | none => simp [Decision.Leads]
  | some i =>
    simp only [Meets.ok_iff]
    split
    · exact ⟨i, hi⟩
    · trivial

/-- A next hop can be looked up if the route has no interface of its own. -/
theorem resolveEgress_yields (h : d.Sound) (dst : Address) (fuel : Nat) {egress nextHop : Option String}
    (hop : egress = none → ∃ a : Address, nextHop = some a.text) :
    Yields (Decision.Leads d) (resolveEgress d dst fuel egress nextHop) := by
  induction fuel generalizing egress nextHop with
  | zero =>
    cases egress with
    | some name => exact resolveEgress_named d dst 0 name nextHop
    | none =>
      obtain ⟨a, rfl⟩ := hop rfl
      unfold resolveEgress
      simp only [Address.readField_text, ok_bind]
      exact stopToward_yields h a _
  | succ fuel ih =>
    cases egress with
    | some name => exact resolveEgress_named d dst (fuel + 1) name nextHop
    | none =>
      obtain ⟨a, rfl⟩ := hop rfl
      unfold resolveEgress
      simp only [Address.readField_text, ok_bind]
      refine (lookupRoute_yields h.routes.each a).bind fun found hfound => ?_
      cases found with
      | none => exact stopToward_yields h a _
      | some inner =>
        refine ih fun hnone => ?_
        obtain ⟨b, hb⟩ := (h.routes.each inner (hfound inner rfl)).next_hop hnone
        refine ⟨b, ?_⟩
        unfold nextHopOr
        rw [hb, IsAddress.nonempty ⟨b, rfl⟩]
        rfl

theorem forwardingDecision_yields (h : d.Sound) (dst : Address) :
    Yields (Decision.Leads d) (forwardingDecision d dst) := by
  unfold forwardingDecision
  refine (lookupRoute_yields h.routes.each dst).bind fun found hfound => ?_
  cases found with
  | none => exact stopToward_yields h dst _
  | some route =>
    exact resolveEgress_yields h dst 4 fun hnone => (h.routes.each route (hfound route rfl)).next_hop hnone

/-! ## Targets -/

theorem findDevice_known {text : String} (hd : t.findDevice text = some d) :
    ∃ k, t.devices.get? k = some d := by
  unfold findDevice at hd
  split at hd
  · rename_i d' hget
    cases hd
    exact ⟨text, hget⟩
  · obtain ⟨k, -, hk⟩ := List.mem_filterMap.1 (List.mem_of_find?_eq_some hd)
    exact ⟨k, hk⟩

/-- The address of a target is an address. -/
theorem resolveTarget_yields (h : t.Sound) (text : String) :
    Yields (fun found => ∀ ip, found = some ip → IsAddress ip) (t.resolveTarget text) := by
  unfold resolveTarget
  cases Address.read? text with
  | some a =>
    intro ip hip
    cases hip
    exact ⟨a, rfl⟩
  | none =>
    cases hfind : t.findDevice text with
    | none => exact fun ip hip => by cases hip
    | some d =>
      obtain ⟨k, hk⟩ := findDevice_known hfind
      have hsound := h.devices k d hk
      simp only [Device.sortedInterfaces_of_table hsound.interfaces, ok_bind]
      have addressed {i : Interface} (hi : i ∈ (d.ordered.map Prod.snd).filter (·.hasIp)) :
          ∀ ip, i.ip = some ip → IsAddress ip := by
        intro ip hip
        obtain ⟨hmem, hhas⟩ := List.mem_filter.1 hi
        have hget := (Device.mem_ordered_values hsound.interfaces).1 hmem
        obtain ⟨a, ha⟩ := (hsound.interfaces.each _ i hget).addressed.ip_of_hasIp hhas
        rw [ha] at hip
        cases hip
        exact ⟨a, rfl⟩
      split
      · rename_i i hfound
        exact addressed (List.mem_of_find?_eq_some hfound)
      · intro ip hip
        obtain ⟨i, hhead, hi⟩ := Option.bind_eq_some_iff.1 hip
        exact addressed (List.mem_of_mem_head? hhead) ip hi

/-! ## From device to device -/

/-- A packet that is at a device and has the address of its source, if any. -/
structure Packet.Real (t : Topology) (p : Packet) : Prop where
  place : p.current ∈ t.devices.keys
  source : ∀ s, p.source = some s → IsAddress s

/-- A packet that goes on is real. -/
def Step.Goes (t : Topology) : Step → Prop
  | .inl p => p.Real t
  | .inr _ => True

theorem isAddressed_yields (h : d.Sound) (ip : String) (operational : Bool) :
    Yields (fun _ => True) (d.isAddressed ip operational) := by
  unfold Device.isAddressed Device.ownsIp
  rw [Device.sortedInterfaces_of_table h.interfaces]
  trivial

theorem handOver_yields (h : t.Sound) {p : Packet} (number : Nat) {source egress : String}
    (nextHop : String) (hsource : IsAddress source) (hp : ∀ s, p.source = some s → IsAddress s)
    {i : Interface} (hi : t.port? ⟨p.current, egress⟩ = some i) :
    Yields (Step.Goes t) (t.handOver p number source egress nextHop) := by
  unfold handOver
  refine (domain_yields h hi).bind ?_
  rintro ⟨ends, blocked⟩ hends
  have search := findFirst_ok (c := t.hasAddress nextHop) (l := ends)
    (p := fun e => (t.port? e).any fun j => j.ip = some nextHop) fun e he => by
      obtain ⟨j, hj⟩ := Option.isSome_iff_exists.1 (hends e he)
      unfold hasAddress
      rw [interface_eq hj, hj]
      rfl
  simp only [search, ok_bind]
  cases hfound : ends.find? fun e => (t.port? e).any fun j => j.ip = some nextHop with
  | none => trivial
  | some arrival =>
    obtain ⟨j, hj⟩ := Option.isSome_iff_exists.1 (hends arrival (List.mem_of_find?_eq_some hfound))
    obtain ⟨d, hd, -⟩ := device_of_port? hj
    simp only [interface_eq hj, entry_eq hd, ok_bind]
    refine (deniedBy_yields (h.devices _ d hd) _ _ hsource ⟨_, rfl⟩).bind fun denied _ => ?_
    cases denied with
    | some acl => trivial
    | none => exact ⟨Table.mem_keys_of_get? hd, hp⟩

theorem forward_yields (h : t.Sound) {p : Packet} (hp : p.Real t) (number : Nat)
    (hd : t.devices.get? p.current = some d) : Yields (Step.Goes t) (t.forward p number d) := by
  have hsound := h.devices _ d hd
  unfold forward
  refine (forwardingDecision_yields hsound p.target).bind fun decision hleads => ?_
  cases decision with
  | stop reason detail => trivial
  | forward egress nextHop =>
    obtain ⟨out, hout⟩ := hleads
    have hport : t.port? ⟨p.current, egress⟩ = some out := (port?_of_get? hd).trans hout
    have source : IsAddress (p.source.getD ((Text.present? out.ip).getD "0.0.0.0")) := by
      cases hs : p.source with
      | some s => exact hp.source s hs
      | none =>
        rcases (h.port_sound hport).addressed.ip_cases with hip | ⟨a, hip⟩
        · rw [hip]
          exact isAddress_zeros
        · rw [hip, IsAddress.nonempty ⟨a, rfl⟩]
          exact ⟨a, rfl⟩
    simp only [hout, need, ok_bind]
    refine (deniedBy_yields hsound egress .outgoing source ⟨_, rfl⟩).bind fun denied _ => ?_
    cases denied with
    | some acl => trivial
    | none =>
      refine handOver_yields h number nextHop source (fun s hs => ?_) hport
      cases hs
      exact source

theorem step_yields (h : t.Sound) {p : Packet} (hp : p.Real t) (number : Nat) :
    Yields (Step.Goes t) (t.step p number) := by
  obtain ⟨d, hmem⟩ := Table.mem_keys.1 hp.place
  have hd := Table.get?_eq_some.2 hmem
  unfold step
  rw [entry_eq hd, ok_bind]
  refine (isAddressed_yields (h.devices _ d hd) _ _).bind fun own _ => ?_
  split
  · trivial
  · split
    · trivial
    · exact forward_yields h hp number hd

/-- Every packet is followed to a report. -/
theorem followPacket_yields (h : t.Sound) (fuel number : Nat) {p : Packet} (hp : p.Real t) :
    Yields (fun _ => True) (t.followPacket fuel number p) := by
  induction fuel generalizing number p with
  | zero => trivial
  | succ fuel ih =>
    unfold followPacket
    refine (step_yields h hp number).bind fun s hs => ?_
    cases s with
    | inr report => trivial
    | inl p' => exact ih (number + 1) hs

/-- The address that a packet has for its source if an interface is given for it. -/
def sourceAddress (d : Device) (source : Option String) : Option String :=
  (Text.present? source).bind fun name => (d.interfaces.get? name).bind (·.ip)

/-- A packet from a device to an address sets out with the address of the interface that is given, if any. -/
theorem trace_eq (h : t.Sound) {id target : String} (hd : t.devices.get? id = some d) {a : Address}
    (htarget : Address.read target = .ok a) {source : Option String}
    (hsource : ∀ name, Text.present? source = some name → (d.interfaces.get? name).isSome = true) :
    t.trace id target source =
      t.followPacket hopLimit 1 ⟨a, sourceAddress d source, id, [⟨1, id, none, none⟩]⟩ := by
  have known : t.device id = .ok d := by
    unfold device deviceKey
    rw [h.trimmed id (Table.mem_keys_of_get? hd), hd]
  unfold trace sourceAddress
  rw [htarget, ok_bind]
  cases hs : Text.present? source with
  | none => rfl
  | some name =>
    obtain ⟨i, hi⟩ := Option.isSome_iff_exists.1 (hsource name hs)
    simp [known, hi, need]

theorem sourceAddress_isAddress (h : d.Sound) {source : Option String} {s : String}
    (hs : sourceAddress d source = some s) : IsAddress s := by
  obtain ⟨name, -, hs⟩ := Option.bind_eq_some_iff.1 hs
  obtain ⟨i, hi, hip⟩ := Option.bind_eq_some_iff.1 hs
  rcases (h.interfaces.each _ i hi).addressed.ip_cases with hnone | ⟨a, ha⟩
  · rw [hnone] at hip
    cases hip
  · exact ⟨a, Option.some.inj (hip.symm.trans ha)⟩

/-- A packet from a device to an address, sent from an interface that has one, comes to a report. -/
theorem trace_yields (h : t.Sound) {id target : String} (hd : t.devices.get? id = some d)
    (htarget : IsAddress target) {source : Option String}
    (hsource : ∀ name, source = some name → ((d.interfaces.get? name).any (·.hasIp)) = true) :
    Yields (fun _ => True) (t.trace id target source) := by
  obtain ⟨a, ha⟩ := htarget.read
  rw [trace_eq h hd ha fun name hname => ?_]
  · exact followPacket_yields h hopLimit 1
      ⟨Table.mem_keys_of_get? hd, fun s hs => sourceAddress_isAddress (h.devices id d hd) hs⟩
  · obtain ⟨i, hi, -⟩ := (Option.any_eq_true ..).1 (hsource name (present?_eq_some hname))
    rw [hi]
    rfl

end Topology

end NetRack
