import NetRack.Proofs.Ports.Line

/-!
# Addresses of a device

An interface has an address together with its mask or neither of them, and two interfaces of a device are never
in networks that share an address.  There are two commands that give an address to an interface: both refuse the
first and the last address of a network, and the one of routers and switches refuses a network that meets another.
An end host has one port only.
-/

namespace NetRack

open InterfaceName (kindOf)

/-! ## Networks apart -/

namespace Address

/-- Clearing the bits past two lengths is clearing the bits past the lesser. -/
theorem masked_of_le (a : Address) {m n : Nat} (h : m ≤ n) : (a.masked n).masked m = a.masked m := by
  have less : (netmask n).bits &&& (netmask m).bits = (netmask m).bits := by
    unfold netmask
    ext i hi
    simp only [BitVec.getElem_and, BitVec.getElem_shiftLeft, BitVec.getElem_allOnes, Bool.and_true]
    simp
    omega
  unfold masked
  rw [BitVec.and_assoc, less]

end Address

namespace Network

/-- No address lies in both networks. -/
def Apart (m n : Network) : Prop := ∀ a, ¬(m.contains a = true ∧ n.contains a = true)

variable {m n : Network}

theorem overlaps_comm (m n : Network) : m.overlaps n = n.overlaps m := by
  unfold overlaps
  generalize m.contains n.base = p, m.contains n.broadcast = q, n.contains m.base = r, n.contains m.broadcast = s
  cases p <;> cases q <;> cases r <;> cases s <;> rfl

/-- Of two networks that share an address, the one with the lesser length has the base of the other. -/
theorem contains_base {a : Address} (hm : m.contains a = true) (hn : n.contains a = true) (h : m.length ≤ n.length) :
    m.contains n.base = true := by
  unfold contains at hm hn ⊢
  have hm := of_decide_eq_true hm
  have hn := of_decide_eq_true hn
  rw [decide_eq_true_iff, ← hn, Address.masked_of_le a h, hm]

theorem Apart.of_not_overlaps (h : m.overlaps n = false) : m.Apart n := by
  rintro a ⟨hm, hn⟩
  have meet : m.overlaps n = true := by
    rcases Nat.le_total m.length n.length with hl | hl
    · simp [overlaps, contains_base hm hn hl]
    · simp [overlaps, contains_base hn hm hl]
  rw [h] at meet
  cases meet

end Network

/-! ## Addresses of ports -/

/-- An interface has no address, or one with a mask that may be configured. -/
def Interface.IsNumbered (i : Interface) : Prop :=
  (i.ip = none ∧ i.mask = none) ∨ ∃ (a : Address) (n : Nat), n ≤ 32 ∧ i.ip = some a.text ∧
    i.mask = some (Address.netmask n).text ∧ isReserved (.around a n) a = false

namespace Interface

variable {i j : Interface}

theorem net_of_sameAddress (h : i.SameAddress j) : j.net = i.net := by
  unfold net network? addressing?
  rw [h.ip, h.mask]

theorem net_of_unaddressed (ip : i.ip = none) (mask : i.mask = none) : i.net = none := by
  have addressed : i.Addressed := Or.inl ⟨ip, mask⟩
  have hasIp : i.hasIp = false := by simp [hasIp, addressing?, ip, Text.present?]
  rw [← addressed.net_isSome] at hasIp
  simpa using hasIp

theorem net_of_addressed {a : Address} {n : Nat} (short : n ≤ 32) (ip : i.ip = some a.text)
    (mask : i.mask = some (Address.netmask n).text) : i.network? = .ok (some (.around a n)) := by
  have addressed : i.addressing? = some (a.text, (Address.netmask n).text) := by
    simp [addressing?, ip, mask, Text.present?]
  simp [network?, addressed, networkOf, Network.readAround_text a short]

end Interface

/-- The ports of a device are addressed as they should be. -/
structure Ports.Addressing (p : Ports) : Prop where
  each : ∀ k i, p.interfaces.get? k = some i → i.IsNumbered
  apart : ∀ k i k' i' m m', p.interfaces.get? k = some i → p.interfaces.get? k' = some i' → k ≠ k' →
    i.net = some m → i'.net = some m' → m.overlaps m' = false
  routed : p.isA .switch = true → ∀ k i, p.interfaces.get? k = some i →
    (kindOf k = .physical ∨ kindOf k = .portChannel) → i.ip = none ∧ i.mask = none
  host : p.isA .pc = true → ∀ k ∈ p.interfaces.keys, k = "FastEthernet0"

namespace Ports.Addressing

variable {p q : Ports} {focus : Option String} {c : Command}

theorem factory (type : DeviceType) (hostname id : String) : (Device.factory type hostname id).ports.Addressing := by
  have unaddressed {k : String} {i : Interface}
      (hi : (Device.factory type hostname id).ports.interfaces.get? k = some i) : i.ip = none ∧ i.mask = none := by
    obtain ⟨x, hx, rfl⟩ := get?_of_get?_ports hi
    obtain ⟨port, -, heq⟩ := List.mem_map.1 (Table.mem_of_get?_ofList hx)
    obtain ⟨-, rfl⟩ := Prod.mk.inj heq
    exact ⟨rfl, rfl⟩
  refine ⟨fun k i hi => Or.inl (unaddressed hi), fun k i k' i' m m' hi _ _ hm => ?_,
    fun _ k i hi _ => unaddressed hi, fun host k hk => ?_⟩
  · rw [Interface.net_of_unaddressed (unaddressed hi).1 (unaddressed hi).2] at hm
    cases hm
  · obtain rfl : type = .pc := Stored.known.inj (of_decide_eq_true host)
    rw [Device.keys_ports] at hk
    obtain ⟨port, hport, rfl⟩ := mem_factory_keys.1 hk
    rw [List.mem_singleton.1 hport]

/-- Interfaces that have kept their addresses, or have none any more, are addressed as they should be. -/
theorem of_kept (h : p.Addressing) (s : p.Step focus c q)
    (kept : ∀ k x, q.interfaces.get? k = some x →
      (x.ip = none ∧ x.mask = none) ∨ ∃ i, p.interfaces.get? k = some i ∧ i.SameAddress x) : q.Addressing := by
  obtain ⟨type, names⟩ := s.names
  have sameType (t : DeviceType) : q.isA t = p.isA t := by
    unfold isA
    rw [type]
  have net {k : String} {x : Interface} {m : Network} (hx : q.interfaces.get? k = some x) (hm : x.net = some m) :
      ∃ i, p.interfaces.get? k = some i ∧ i.net = some m := by
    rcases kept k x hx with ⟨ip, mask⟩ | ⟨i, hi, same⟩
    · rw [Interface.net_of_unaddressed ip mask] at hm
      cases hm
    · exact ⟨i, hi, Interface.net_of_sameAddress same ▸ hm⟩
  constructor
  · intro k x hx
    rcases kept k x hx with none | ⟨i, hi, same⟩
    · exact Or.inl none
    · unfold Interface.IsNumbered
      rw [same.ip, same.mask]
      exact h.each k i hi
  · intro k x k' x' m m' hx hx' hne hm hm'
    obtain ⟨i, hi, hm⟩ := net hx hm
    obtain ⟨i', hi', hm'⟩ := net hx' hm'
    exact h.apart k i k' i' m m' hi hi' hne hm hm'
  · intro switch k x hx kind
    rcases kept k x hx with none | ⟨i, hi, same⟩
    · exact none
    · rw [same.ip, same.mask]
      exact h.routed (sameType .switch ▸ switch) k i hi kind
  · intro host k hk
    rw [sameType] at host
    rcases names k hk with hk | ⟨other, -⟩
    · exact h.host host k hk
    · rw [host] at other
      cases other

/-- An address that is free is given to an interface. -/
theorem of_given (h : p.Addressing) {key : String} {i j : Interface} {a : Address} {n : Nat}
    (hi : p.interfaces.get? key = some i) (short : n ≤ 32) (ip : j.ip = some a.text)
    (mask : j.mask = some (Address.netmask n).text) (free : isReserved (.around a n) a = false)
    (apart : p.isA .pc = false → ∀ k x m, p.interfaces.get? k = some x → k ≠ key → x.net = some m →
      m.overlaps (.around a n) = false)
    (routed : p.isA .switch = true → kindOf key ≠ .physical ∧ kindOf key ≠ .portChannel) :
    (p.put key j).Addressing := by
  have given : j.net = some (.around a n) := by
    unfold Interface.net
    rw [Interface.net_of_addressed short ip mask]
    rfl
  have clear {k : String} {x : Interface} {m : Network} (hx : p.interfaces.get? k = some x) (hne : k ≠ key)
      (hm : x.net = some m) : m.overlaps (.around a n) = false := by
    cases host : p.isA .pc with
    | false => exact apart host k x m hx hne hm
    | true =>
      -- There is no other port.
      have one := h.host host k (Table.mem_keys_of_get? hx)
      exact absurd (one.trans (h.host host key (Table.mem_keys_of_get? hi)).symm) hne
  constructor
  · intro k x hx
    rcases of_get?_put hx with ⟨rfl, rfl⟩ | ⟨-, hx⟩
    · exact Or.inr ⟨a, n, short, ip, mask, free⟩
    · exact h.each k x hx
  · intro k x k' x' m m' hx hx' hne hm hm'
    rcases of_get?_put hx with ⟨rfl, rfl⟩ | ⟨hk, kept⟩
    · obtain rfl : _ = m := Option.some.inj (given.symm.trans hm)
      rcases of_get?_put hx' with ⟨rfl, rfl⟩ | ⟨hk', kept'⟩
      · exact absurd rfl hne
      · rw [Network.overlaps_comm]
        exact clear kept' hk' hm'
    · rcases of_get?_put hx' with ⟨rfl, rfl⟩ | ⟨-, kept'⟩
      · obtain rfl : _ = m' := Option.some.inj (given.symm.trans hm')
        exact clear kept hk hm
      · exact h.apart k x k' x' m m' kept kept' hne hm hm'
  · intro switch k x hx kind
    rcases of_get?_put hx with ⟨rfl, rfl⟩ | ⟨-, hx⟩
    · exact (kind.elim (routed switch).1 (routed switch).2).elim
    · exact h.routed switch k x hx kind
  · intro host k hk
    exact h.host host k (keys_put p key j ▸ hk)

theorem step (h : p.Addressing) (s : p.Step focus c q) : q.Addressing := by
  have put {key : String} {i j : Interface} (hi : p.interfaces.get? key = some i)
      (hj : (j.ip = none ∧ j.mask = none) ∨ i.SameAddress j) {k : String} {x : Interface}
      (hx : (p.put key j).interfaces.get? k = some x) :
      (x.ip = none ∧ x.mask = none) ∨ ∃ i, p.interfaces.get? k = some i ∧ i.SameAddress x := by
    rcases of_get?_put hx with ⟨rfl, rfl⟩ | ⟨-, hx⟩
    · exact hj.imp id fun same => ⟨i, hi, same⟩
    · exact Or.inr ⟨x, hx, rfl, rfl⟩
  have made := s
  cases s with
  | same => exact h
  | interface written host new virtual ip mask =>
    refine h.of_kept made fun k x hx => ?_
    rw [Table.get?_insert] at hx
    split at hx
    · cases hx
      exact Or.inl ⟨ip, mask⟩
    · exact Or.inr ⟨x, hx, rfl, rfl⟩
  | vlan => exact h.of_kept made fun k x hx => Or.inr ⟨x, hx, rfl, rfl⟩
  | noVlan => exact h.of_kept made fun k x hx => Or.inr ⟨x, hx, rfl, rfl⟩
  | set hi address => exact h.of_kept made fun k x hx => put hi (Or.inr address) hx
  | noAddress hi ip mask => exact h.of_kept made fun k x hx => put hi (Or.inl ⟨ip, mask⟩) hx
  | address hi short ip mask free apart routed => exact h.of_given hi short ip mask free apart routed
  | mode _ hi _ _ address => exact h.of_kept made fun k x hx => put hi (Or.inr address) hx
  | accessVlan hi address => exact h.of_kept made fun k x hx => put hi (Or.inr address) hx
  | channel low high host hi ip mask copied address =>
    refine h.of_kept made fun k x hx => ?_
    obtain ⟨y, hxy, hy⟩ := of_get?_channel hx
    have same : y.SameAddress x := by
      rcases hxy with rfl | rfl
      · exact ⟨rfl, rfl⟩
      · exact address y
    rcases hy with hy | ⟨-, rfl⟩
    · exact Or.inr ⟨y, hy, same⟩
    · exact Or.inl ⟨same.ip.trans ip, same.mask.trans mask⟩

end Ports.Addressing

/-! ## Addresses of devices -/

/-- An interface has neither address nor mask, or both of them: the mask is ones, then zeros, and the address is
neither the first nor the last of its network, if that has more than two. -/
inductive Interface.WellAddressed (i : Interface) : Prop where
  | none (ip : i.ip = .none) (mask : i.mask = .none)
  | some {a : Address} {n : Nat} (ip : i.ip = .some a.text) (mask : i.mask = .some (Address.netmask n).text)
      (short : n ≤ 32) (network : i.network? = .ok (.some (.around a n)))
      (within : n < 31 → a ≠ (Network.around a n).base ∧ a ≠ (Network.around a n).broadcast)

/-- The interfaces of a device are addressed as they should be. -/
structure Device.WellAddressed (d : Device) : Prop where
  each : ∀ k i, d.interfaces.get? k = some i → i.WellAddressed
  apart : ∀ k i k' i' m m', d.interfaces.get? k = some i → d.interfaces.get? k' = some i' → k ≠ k' →
    i.network? = .ok (some m) → i'.network? = .ok (some m') → m.Apart m'
  routed : d.isA .switch = true → ∀ k i, d.interfaces.get? k = some i →
    (i.kind = .ok .physical ∨ i.kind = .ok .portChannel) → i.hasIp = false
  tagged : ∀ k i, d.interfaces.get? k = some i → i.kind = .ok .subinterface → i.hasIp = true →
    i.dot1qVlan.isSome = true

/-- A sound device whose ports are addressed as they should be is. -/
theorem Ports.Addressing.wellAddressed {d : Device} (h : d.ports.Addressing) (sound : d.Sound) :
    d.WellAddressed := by
  have net {i : Interface} {m : Network} (hm : i.network? = .ok (some m)) : i.net = some m := by
    unfold Interface.net
    rw [hm]
    rfl
  constructor
  · intro k i hi
    rcases h.each k i.frame (get?_ports_of_get? hi) with ⟨ip, mask⟩ | ⟨a, n, short, ip, mask, free⟩
    · exact .none ip mask
    · refine .some ip mask short (Interface.net_of_addressed short ip mask) fun hn => ?_
      have roomy : decide ((Network.around a n).length < 31) = true := decide_eq_true hn
      rw [isReserved, roomy, Bool.true_and, Bool.or_eq_false_iff] at free
      exact ⟨of_decide_eq_false free.1, of_decide_eq_false free.2⟩
  · intro k i k' i' m m' hi hi' hne hm hm'
    exact .of_not_overlaps (h.apart k i.frame k' i'.frame m m' (get?_ports_of_get? hi) (get?_ports_of_get? hi') hne
      (net hm) (net hm'))
  · intro switch k i hi kind
    rw [sound.interfaces.kind_eq hi, Except.ok.injEq, Except.ok.injEq] at kind
    have unaddressed : i.ip = none ∧ i.mask = none := h.routed switch k i.frame (get?_ports_of_get? hi) kind
    simp [Interface.hasIp, Interface.addressing?, unaddressed.1, Text.present?]
  · intro k i hi kind addressed
    rw [sound.interfaces.kind_eq hi, Except.ok.injEq] at kind
    cases host : d.isA .pc with
    | false => exact (sound.tags host k i hi).tagged kind addressed
    | true =>
      rw [h.host host k (Table.mem_keys_of_get? (get?_ports_of_get? hi))] at kind
      exact absurd kind (by decide +kernel)

namespace Topology

/-- The interfaces of every device are addressed as they should be. -/
def WellAddressed (t : Topology) : Prop := ∀ k d, t.devices.get? k = some d → d.WellAddressed

/-- However a lab goes on, the interfaces of its devices are addressed as they should be. -/
theorem reached_wellAddressed (cs : List Change) : (reached cs).WellAddressed := by
  intro k d hd
  have addressing : d.ports.Addressing :=
    reached_ports Ports.Addressing.factory (fun _ _ _ _ h s => h.step s) cs hd
  exact addressing.wellAddressed ((reached_orderly cs).sound.devices k d hd)

end Topology

end NetRack
