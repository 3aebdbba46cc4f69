import NetRack.Proofs.Ports.Line
import NetRack.Proofs.Spelling

/-!
# What the names of interfaces denote

An interface goes by a type and numbers, and these are what its name is sorted by.  Within a device, two names
denote the same if and only if they are spelled alike but for needless zeros: a console takes `loopback 00` for
another interface than `loopback 0`.
-/

namespace NetRack

open InterfaceName

/-! ## Names of one device -/

/-- The names of all interfaces are spelled, and the physical ones are those that the device came with. -/
structure Ports.Named (p : Ports) : Prop where
  spelled : ∀ k ∈ p.interfaces.keys, IsSpelled k
  physical : ∀ k ∈ p.interfaces.keys, kindOf k = .physical →
    ∃ type, p.type = .known type ∧ ∃ port ∈ Device.factoryPorts type, port.1 = k

namespace Ports.Named

variable {p q : Ports} {focus : Option String} {c : Command}

theorem factory (type : DeviceType) (hostname id : String) : (Device.factory type hostname id).ports.Named := by
  have listed : ∀ k ∈ (Device.factory type hostname id).ports.interfaces.keys,
      ∃ port ∈ Device.factoryPorts type, port.1 = k := by
    rw [Device.keys_ports]
    exact fun k hk => mem_factory_keys.1 hk
  refine ⟨fun k hk => ?_, fun k hk _ => ⟨type, rfl, listed k hk⟩⟩
  obtain ⟨port, hport, rfl⟩ := listed k hk
  exact isSpelled_factoryPort type port hport

theorem step (h : p.Named) (s : p.Step focus c q) : q.Named := by
  obtain ⟨type, names⟩ := s.names
  constructor
  · intro k hk
    rcases names k hk with hk | ⟨-, -, ⟨raw, written⟩ | ⟨group, low, rfl⟩⟩
    · exact h.spelled k hk
    · exact isSpelled_of_normalize? written
    · exact isSpelled_ofGroup low
  · intro k hk physical
    rcases names k hk with hk | ⟨-, virtual, -⟩
    · rw [type]
      exact h.physical k hk physical
    · exact absurd physical virtual

end Ports.Named

/-- The ports of one type of a device have as many numbers in their names. -/
theorem factoryPorts_numbers (type : DeviceType) : ∀ p ∈ Device.factoryPorts type,
    (sortKey p.1).numbers.length =
      if (sortKey p.1).word = "Serial" then 3 else if type = .pc then 1 else 2 := by
  cases type <;> decide +kernel

/-- Two names denote the same for a device if and only if they are spelled alike but for needless zeros. -/
structure Device.TellsApart (d : Device) : Prop where
  readable : ∀ k ∈ d.interfaces.keys, readSortKey k = .ok (sortKey k)
  same_iff : ∀ a ∈ d.interfaces.keys, ∀ b ∈ d.interfaces.keys, sortKey a = sortKey b ↔ canonical a = canonical b

namespace Device

variable {d : Device} (h : d.Sound) (named : d.ports.Named)

include h named

/-- A subinterface has one number more than any port of its type. -/
theorem sub_of_sortKey {s s' : Spelling} (hs : s.Valid) (hs' : s'.Valid) (hk : s.name ∈ d.interfaces.keys)
    (hk' : s'.name ∈ d.interfaces.keys) (same : sortKey s.name = sortKey s'.name) (sub : s.sub.isSome = true) :
    s'.sub.isSome = true := by
  by_contra other
  have none : s'.sub = none := by simpa using other
  obtain ⟨parent, physical⟩ := h.interfaces.parents s.name hk ((Spelling.kindOf_name hs).2 sub)
  rw [Spelling.parentOf_name hs] at parent physical
  have keys := same
  rw [Spelling.sortKey_name hs, Spelling.sortKey_name hs', SortKey.mk.injEq] at keys
  obtain ⟨word, numbers⟩ := keys
  have physical' : kindOf s'.name = .physical := by
    rw [Spelling.kindOf_of_type hs' none, ← word]
    exact (Spelling.kindOf_of_type hs.parent rfl).symm.trans physical
  obtain ⟨type, htype, port, hport, heq⟩ := named.physical _ (by rwa [keys_ports]) physical
  obtain ⟨type', htype', port', hport', heq'⟩ := named.physical _ (by rwa [keys_ports]) physical'
  obtain rfl : type = type' := Stored.known.inj (htype.symm.trans htype')
  have count := factoryPorts_numbers type port hport
  have count' := factoryPorts_numbers type port' hport'
  rw [heq, Spelling.sortKey_name hs.parent] at count
  rw [heq', Spelling.sortKey_name hs', ← word, ← numbers] at count'
  have more : s.numerals.length = s.parent.numerals.length + 1 := by
    obtain ⟨g, hg⟩ := Option.isSome_iff_exists.1 sub
    simp [Spelling.numerals, Spelling.parent, hg]
  have equal := count'.trans count.symm
  simp only [List.length_map] at equal
  omega

theorem tellsApart : d.TellsApart where
  readable := by
    intro k hk
    unfold readSortKey
    rw [if_pos (sortable_of_readable (h.interfaces.readable k hk))]
  same_iff := by
    intro a ha b hb
    obtain ⟨s, hs, rfl⟩ := named.spelled a (by rwa [keys_ports])
    obtain ⟨s', hs', rfl⟩ := named.spelled b (by rwa [keys_ports])
    rw [Spelling.canonical_name hs, Spelling.canonical_name hs']
    constructor
    · intro same
      have sub : s.sub.isSome = s'.sub.isSome := by
        rw [Bool.eq_iff_iff]
        exact ⟨sub_of_sortKey h named hs hs' ha hb same, sub_of_sortKey h named hs' hs hb ha same.symm⟩
      rw [Spelling.sortKey_name hs, Spelling.sortKey_name hs', SortKey.mk.injEq] at same
      rw [Spelling.plain_eq same.1 same.2 sub]
    · intro same
      rw [← Spelling.sortKey_plain hs, same, Spelling.sortKey_plain hs']

end Device

/-- Names that are written without needless zeros denote different interfaces. -/
theorem Device.TellsApart.injective {d : Device} (h : d.TellsApart)
    (plain : ∀ k ∈ d.interfaces.keys, canonical k = k) :
    ∀ a ∈ d.interfaces.keys, ∀ b ∈ d.interfaces.keys, sortKey a = sortKey b → a = b := by
  intro a ha b hb same
  rw [← plain a ha, (h.same_iff a ha b hb).1 same, plain b hb]

/-! ## Histories -/

namespace Topology

/-- Every device tells its interfaces apart by their names without needless zeros. -/
def TellsApart (t : Topology) : Prop := ∀ k d, t.devices.get? k = some d → d.TellsApart

/-- However a lab goes on, its devices tell their interfaces apart. -/
theorem reached_tellsApart (cs : List Change) : (reached cs).TellsApart := by
  intro k d hd
  have named : d.ports.Named := reached_ports Ports.Named.factory (fun _ _ _ _ h s => h.step s) cs hd
  exact Device.tellsApart ((reached_orderly cs).sound.devices k d hd) named

end Topology

end NetRack
