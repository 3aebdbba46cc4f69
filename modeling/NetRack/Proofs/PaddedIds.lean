import NetRack.Proofs.History

/-!
# Ids with blanks around them

A device is looked up by its id without the blanks around it.  A line does nothing else with the id that it is
given, so blanks make no difference to it.  Removing a device and plugging cables in and out look the device up
and go on with the id as it is written, under which there is no device, and at which no cable ends: a device is
not removed by such an id, and no cable is plugged in or out there.  So blanks make a difference whenever the
id without them would do.
-/

namespace NetRack

/-! ## Faults of one kind -/

/-- The kinds of faults that a caller can tell apart. -/
inductive FaultKind where
  | address
  | mask
  | value
  | key
  | position
  | member
  | type
  | propagation
  | modeStack
deriving DecidableEq, Repr

namespace Fault

/-- The kind of a fault. -/
def kind : Fault → FaultKind
  | badAddress => .address
  | badMask => .mask
  | hostBits | badNumber | edit _ => .value
  | unknownDevice _ | noEntry _ => .key
  | noPort => .position
  | noProcess => .member
  | notText => .type
  | inconsistent _ => .propagation
  | stackOverflow _ | stackUnderflow => .modeStack

theorem Dangling.kind_ne {f : Fault} (h : f.Dangling) : f.kind ≠ .value := by
  rcases h with ⟨key, rfl⟩ | ⟨cause, rfl⟩ <;> exact nofun

end Fault

section Outcomes

variable {α β : Type}

/-- Two computations have the same outcome: the same result, or faults of one kind. -/
def SameOutcome (x y : Except Fault α) : Prop := x.mapError Fault.kind = y.mapError Fault.kind

theorem SameOutcome.refl (x : Except Fault α) : SameOutcome x x := rfl

theorem sameOutcome_error {f g : Fault} : SameOutcome (.error f : Except Fault α) (.error g) ↔ f.kind = g.kind :=
  ⟨Except.error.inj, congrArg Except.error⟩

theorem not_sameOutcome_ok {f : Fault} {a : α} : ¬SameOutcome (.error f) (.ok a) := nofun

/-- Both give the same result, or both fail in one kind of way. -/
theorem SameOutcome.cases {x y : Except Fault α} (h : SameOutcome x y) :
    (∃ a, x = .ok a ∧ y = .ok a) ∨ ∃ f g, x = .error f ∧ y = .error g ∧ f.kind = g.kind := by
  cases x with
  | ok a =>
    cases y with
    | ok b => exact Or.inl ⟨a, rfl, congrArg Except.ok (Except.ok.inj h).symm⟩
    | error g => cases h
  | error f =>
    cases y with
    | ok b => cases h
    | error g => exact Or.inr ⟨f, g, rfl, rfl, Except.error.inj h⟩

theorem SameOutcome.symm {x y : Except Fault α} (h : SameOutcome x y) : SameOutcome y x := Eq.symm h

theorem SameOutcome.value {x y : Except Fault α} (h : SameOutcome x y) {a : α} (hx : x = .ok a) : y = .ok a := by
  subst hx
  exact mapError_eq_ok.1 h.symm

/-- What follows on the same result has to have the same outcome. -/
theorem SameOutcome.bind {x y : Except Fault α} {f g : α → Except Fault β} (h : SameOutcome x y)
    (hfg : ∀ a, x = .ok a → SameOutcome (f a) (g a)) : SameOutcome (x >>= f) (y >>= g) := by
  rcases h.cases with ⟨a, rfl, rfl⟩ | ⟨e, e', rfl, rfl, same⟩
  · exact hfg a rfl
  · exact sameOutcome_error.2 same

end Outcomes

namespace Topology

variable {t : Topology} {id port : String}

/-! ## Looking up -/

@[simp] theorem deviceKey_trim (id : String) : deviceKey (Text.trim id) = deviceKey id := trim_trim id

/-- A device is looked up by its id without the blanks around it. -/
theorem sameOutcome_device (t : Topology) (id : String) : SameOutcome (t.device id) (t.device (Text.trim id)) := by
  unfold Topology.device
  rw [deviceKey_trim]
  cases t.devices.get? (deviceKey id) with
  | none => rfl
  | some d => rfl

theorem sameOutcome_physicalPort (t : Topology) (id port : String) :
    SameOutcome (t.physicalPort id port) (t.physicalPort (Text.trim id) port) := by
  unfold physicalPort
  refine (sameOutcome_device t id).bind fun d _ => ?_
  dsimp only
  split
  · cases InterfaceName.kind ((InterfaceName.normalize? port).getD port) with
    | error f => rfl
    | ok k =>
      simp only [ok_bind]
      split <;> rfl
  · rfl

/-- An id that is written with blanks is none of a device. -/
theorem Sound.not_mem_of_padded (h : t.Sound) (padded : Text.trim id ≠ id) : id ∉ t.devices.keys :=
  fun hk => padded (h.trimmed id hk)

theorem Sound.linkAt_of_unknown (h : t.Sound) {e : LinkEnd} (unknown : e.device ∉ t.devices.keys) :
    t.linkAt e = none := by
  cases hl : t.linkAt e with
  | none => rfl
  | some l =>
    obtain ⟨hmem, he⟩ := h.linkAt_iff.1 hl
    exact absurd (h.ends l hmem e he).device_mem unknown

/-! ## Lines -/

/-- Blanks around the id of a device make no difference to a line. -/
theorem sameOutcome_execute (t : Topology) (explainer : Option Explainer) (id line : String) :
    SameOutcome (Console.execute explainer t id line) (Console.execute explainer t (Text.trim id) line) := by
  unfold Console.execute
  rw [deviceKey_trim]
  exact (sameOutcome_device t id).bind fun d _ => SameOutcome.refl _

/-! ## Removing -/

/-- A device is looked for as the id is written, if it is there without the blanks. -/
theorem removeDevice_padded (h : t.Sound) (padded : Text.trim id ≠ id) (known : Text.trim id ∈ t.devices.keys) :
    t.removeDevice id = .error (.noEntry id) := by
  obtain ⟨d, hmem⟩ := Table.mem_keys.1 known
  have found : t.device id = .ok d := device_eq_ok.2 (Table.get?_eq_some.2 hmem)
  have absent : (!t.devices.contains id) = true := by
    rw [Bool.not_eq_true', ← Bool.not_eq_true, Table.contains_iff]
    exact h.not_mem_of_padded padded
  unfold removeDevice
  simp only [found, ok_bind, absent, if_true]
  rfl

theorem sameOutcome_removeDevice (h : t.Sound) (hs : t.Settled) (id : String) :
    SameOutcome (t.removeDevice id) (t.removeDevice (Text.trim id)) ↔
      Text.trim id = id ∨ Text.trim id ∉ t.devices.keys := by
  by_cases padded : Text.trim id = id
  · rw [padded]
    exact iff_of_true (SameOutcome.refl _) (Or.inl rfl)
  · by_cases known : Text.trim id ∈ t.devices.keys
    · obtain ⟨u, hu, -⟩ := (removeDevice_yields h hs known).exists_ok
      rw [removeDevice_padded h padded known, hu]
      exact iff_of_false not_sameOutcome_ok (not_or.2 ⟨padded, not_not_intro known⟩)
    · refine iff_of_true ?_ (Or.inr known)
      have absent : t.devices.get? (deviceKey id) = none := Table.get?_eq_none.2 known
      unfold removeDevice Topology.device
      rw [deviceKey_trim, absent]
      rfl

example : ¬SameOutcome ((reached [.addDevice "R1" "router" none]).removeDevice " R1")
    ((reached [.addDevice "R1" "router" none]).removeDevice "R1") := by
  have ordered := reached_orderly [.addDevice "R1" "router" none]
  have known : "R1" ∈ (reached [.addDevice "R1" "router" none]).devices.keys := by decide +kernel
  have trimmed : Text.trim " R1" = "R1" := by decide +kernel
  have same := sameOutcome_removeDevice ordered.sound ordered.settled " R1"
  rw [trimmed] at same
  exact same.not.2 (not_or.2 ⟨by decide, not_not_intro known⟩)

/-! ## Plugging out -/

/-- A cable ends at a port of a device. -/
def Attached (t : Topology) (id port : String) : Prop :=
  ∃ name, t.physicalPort id port = .ok name ∧ t.linkAt ⟨id, name⟩ ≠ none

theorem disconnect_attached (h : t.Sound) (hs : t.Settled) (attached : t.Attached id port) :
    ∃ u, t.disconnect id port = .ok u := by
  obtain ⟨name, hname, hl⟩ := attached
  obtain ⟨l, hl⟩ := Option.ne_none_iff_exists'.1 hl
  obtain ⟨u, hu, -⟩ := (disconnect_yields h hs hname hl).exists_ok
  exact ⟨u, hu⟩

theorem disconnect_unattached {name : String} (hname : t.physicalPort id port = .ok name)
    (free : t.linkAt ⟨id, name⟩ = none) : t.disconnect id port = .error (.edit (.notConnected id name)) := by
  unfold disconnect
  rw [hname, ok_bind, free]

theorem sameOutcome_disconnect (h : t.Sound) (hs : t.Settled) (id port : String) :
    SameOutcome (t.disconnect id port) (t.disconnect (Text.trim id) port) ↔
      Text.trim id = id ∨ ¬t.Attached (Text.trim id) port := by
  by_cases padded : Text.trim id = id
  · rw [padded]
    exact iff_of_true (SameOutcome.refl _) (Or.inl rfl)
  by_cases attached : t.Attached (Text.trim id) port
  · refine iff_of_false ?_ (not_or.2 ⟨padded, not_not_intro attached⟩)
    obtain ⟨u, hu⟩ := disconnect_attached h hs attached
    obtain ⟨name, hname, -⟩ := attached
    have found := (sameOutcome_physicalPort t id port).symm.value hname
    rw [disconnect_unattached found (h.linkAt_of_unknown (h.not_mem_of_padded padded)), hu]
    exact not_sameOutcome_ok
  · refine iff_of_true ?_ (Or.inr attached)
    unfold disconnect
    refine (sameOutcome_physicalPort t id port).bind fun name hname => ?_
    have unknown : t.linkAt ⟨id, name⟩ = none := h.linkAt_of_unknown (h.not_mem_of_padded padded)
    have free : t.linkAt ⟨Text.trim id, name⟩ = none := by
      by_contra hl
      exact attached ⟨name, (sameOutcome_physicalPort t id port).value hname, hl⟩
    rw [unknown, free]
    exact sameOutcome_error.2 rfl

/-! ## Plugging in -/

/-- Ports are there and free, at ends of the ids as they are written. -/
def Pluggable (t : Topology) (idA portA idB portB : String) : Prop :=
  ∃ nameA nameB, t.physicalPort idA portA = .ok nameA ∧ t.physicalPort idB portB = .ok nameB ∧
    ¬t.Taken ⟨idA, nameA⟩ ⟨idB, nameB⟩

variable {idA idB portA portB nameA nameB : String}

/-- Ends that are taken are taken without the blanks around the ids. -/
theorem Taken.trim (h : t.Sound) (taken : t.Taken ⟨idA, nameA⟩ ⟨idB, nameB⟩) :
    t.Taken ⟨Text.trim idA, nameA⟩ ⟨Text.trim idB, nameB⟩ := by
  have linked (id name : String) (hl : t.linkAt ⟨id, name⟩ ≠ none) : t.linkAt ⟨Text.trim id, name⟩ ≠ none := by
    have known : id ∈ t.devices.keys := by
      by_contra hk
      exact hl (h.linkAt_of_unknown hk)
    rwa [h.trimmed id known]
  rcases taken with same | hA | hB
  · cases same
    exact Or.inl rfl
  · exact Or.inr (Or.inl (linked idA nameA hA))
  · exact Or.inr (Or.inr (linked idB nameB hB))

/-- Ports that are there and free are not connected by an id that is written with blanks. -/
theorem connect_padded (h : t.Sound) (pluggable : t.Pluggable idA portA idB portB)
    (padded : ¬(Text.trim idA = idA ∧ Text.trim idB = idB)) :
    ∃ f, t.connect idA portA idB portB = .error f ∧ f.Dangling := by
  obtain ⟨nameA, nameB, hA, hB, free⟩ := pluggable
  rw [connect_eq, hA, ok_bind, hB, ok_bind]
  refine join_broken h ((physicalPort_meets h).value hA) ((physicalPort_meets h).value hB) free ?_
  rcases not_and_or.1 padded with hp | hp
  · exact Or.inl (h.not_mem_of_padded hp)
  · exact Or.inr (h.not_mem_of_padded hp)

/-- Ports that are there are connected by the ids without blanks, or it is refused. -/
theorem connect_trim (h : t.Sound) (hs : t.Settled) (hA : t.physicalPort (Text.trim idA) portA = .ok nameA)
    (hB : t.physicalPort (Text.trim idB) portB = .ok nameB) :
    Meets (fun f => f.kind = .value) (fun _ => True)
      (t.connect (Text.trim idA) portA (Text.trim idB) portB) := by
  have there {id port name : String} (hname : t.physicalPort (Text.trim id) port = .ok name) :
      t.HasPort ⟨Text.trim id, name⟩ := by
    obtain ⟨d, hd, -⟩ := bind_eq_ok.1 hname
    refine (physicalPort_meets h).value hname (Table.mem_keys_of_get? (v := d) ?_)
    rw [← device_eq_ok.1 hd, deviceKey_trim, deviceKey]
  rw [connect_eq, hA, ok_bind, hB, ok_bind]
  by_cases taken : t.Taken ⟨Text.trim idA, nameA⟩ ⟨Text.trim idB, nameB⟩
  · obtain ⟨cause, hcause⟩ := join_taken taken
    rw [hcause]
    rfl
  · exact (join_yields h hs (there hA) (there hB) taken).anyway.imp fun _ _ => trivial

theorem sameOutcome_connect (h : t.Sound) (hs : t.Settled) (idA portA idB portB : String) :
    SameOutcome (t.connect idA portA idB portB) (t.connect (Text.trim idA) portA (Text.trim idB) portB) ↔
      (Text.trim idA = idA ∧ Text.trim idB = idB) ∨ ¬t.Pluggable idA portA idB portB := by
  by_cases padded : Text.trim idA = idA ∧ Text.trim idB = idB
  · rw [padded.1, padded.2]
    exact iff_of_true (SameOutcome.refl _) (Or.inl ⟨rfl, rfl⟩)
  by_cases pluggable : t.Pluggable idA portA idB portB
  · refine iff_of_false ?_ (not_or.2 ⟨padded, not_not_intro pluggable⟩)
    obtain ⟨f, hf, dangling⟩ := connect_padded h pluggable padded
    obtain ⟨nameA, nameB, hA, hB, -⟩ := pluggable
    have outcome := connect_trim h hs ((sameOutcome_physicalPort t idA portA).value hA)
      ((sameOutcome_physicalPort t idB portB).value hB)
    rw [hf]
    cases hc : t.connect (Text.trim idA) portA (Text.trim idB) portB with
    | ok u => exact not_sameOutcome_ok
    | error g =>
      rw [sameOutcome_error, outcome.cause hc]
      exact dangling.kind_ne
  · refine iff_of_true ?_ (Or.inr pluggable)
    rw [connect_eq, connect_eq]
    refine (sameOutcome_physicalPort t idA portA).bind fun nameA hA => ?_
    refine (sameOutcome_physicalPort t idB portB).bind fun nameB hB => ?_
    have taken : t.Taken ⟨idA, nameA⟩ ⟨idB, nameB⟩ := by
      by_contra free
      exact pluggable ⟨nameA, nameB, hA, hB, free⟩
    obtain ⟨cause, hcause⟩ := join_taken taken
    obtain ⟨cause', hcause'⟩ := join_taken (taken.trim h)
    rw [hcause, hcause']
    rfl

/-! ## All operations -/

/-- What blanks around ids do: nothing to a line, but a device is not removed by such an id, and no cable is
plugged out or in by it. -/
structure ReadsIds (t : Topology) : Prop where
  execute : ∀ explainer id line,
    SameOutcome (Console.execute explainer t id line) (Console.execute explainer t (Text.trim id) line)
  removeDevice : ∀ id, SameOutcome (t.removeDevice id) (t.removeDevice (Text.trim id)) ↔
    Text.trim id = id ∨ Text.trim id ∉ t.devices.keys
  disconnect : ∀ id port, SameOutcome (t.disconnect id port) (t.disconnect (Text.trim id) port) ↔
    Text.trim id = id ∨ ¬t.Attached (Text.trim id) port
  connect : ∀ idA portA idB portB,
    SameOutcome (t.connect idA portA idB portB) (t.connect (Text.trim idA) portA (Text.trim idB) portB) ↔
      (Text.trim idA = idA ∧ Text.trim idB = idB) ∨ ¬t.Pluggable idA portA idB portB

/-- In every lab, an operation comes to the same by an id with blanks around it and without if it is a line, or
if there are no blanks, or if it would not be carried out anyway. -/
theorem reached_readsIds (cs : List Change) : (reached cs).ReadsIds where
  execute := sameOutcome_execute (reached cs)
  removeDevice := sameOutcome_removeDevice (reached_orderly cs).sound (reached_orderly cs).settled
  disconnect := sameOutcome_disconnect (reached_orderly cs).sound (reached_orderly cs).settled
  connect := sameOutcome_connect (reached_orderly cs).sound (reached_orderly cs).settled

end Topology

end NetRack
