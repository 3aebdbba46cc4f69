import NetRack.Proofs.Device
import NetRack.Topology.Edit
import Mathlib.Data.List.Nodup
import Mathlib.Data.List.Pairwise

/-!
# Sound topologies

A topology is sound if its devices are, every device has its key for an id, links end at distinct
physical ports that exist, and no two links have one id.  Nothing of this depends on which ports
work and which links are up: the outline of a topology, which leaves that out, tells everything.
-/

namespace NetRack

open InterfaceName (kindOf parentOf)

/-! ## Links -/

namespace Link

theorem touches_iff {l : Link} {e : LinkEnd} : l.touches e = true ↔ e ∈ l.ends := by
  simp only [touches, ends, Bool.or_eq_true, decide_eq_true_eq, List.mem_cons, List.not_mem_nil,
    or_false, eq_comm (a := e)]

theorem other?_of_touches {l : Link} {e : LinkEnd} (h : l.touches e = true) :
    ∃ p, l.other? e = some p ∧ p ∈ l.ends := by
  unfold other?
  by_cases ha : l.a = e
  · exact ⟨l.b, if_pos ha, by simp [ends]⟩
  · have hb : l.b = e := by simpa [touches, ha] using h
    exact ⟨l.a, by rw [if_neg ha, if_pos hb], by simp [ends]⟩

end Link

namespace Topology

variable {t : Topology}

theorem eq_of_parts {t u : Topology} (devices : t.devices = u.devices) (links : t.links = u.links)
    (next : t.nextLinkId = u.nextLinkId) : t = u := by
  cases t
  cases u
  cases devices
  cases links
  cases next
  rfl

/-! ## Ports by their ends -/

/-- The interface at an end. -/
def port? (t : Topology) (e : LinkEnd) : Option Interface :=
  (t.devices.get? e.device).bind fun d => d.interfaces.get? e.port

/-- Whether the interface at an end is switched on. -/
def isOn (t : Topology) (e : LinkEnd) : Bool := (t.port? e).any (·.adminUp)

/-- Whether the interface at an end works. -/
def works (t : Topology) (e : LinkEnd) : Bool := (t.port? e).any (·.operUp)

/-- Whether a physical port is at an end. -/
def HasPort (t : Topology) (e : LinkEnd) : Prop := (t.port? e).isSome ∧ kindOf e.port = .physical

theorem port?_of_get? {e : LinkEnd} {d : Device} (h : t.devices.get? e.device = some d) :
    t.port? e = d.interfaces.get? e.port := by
  unfold port?
  rw [h]
  rfl

theorem device_of_port? {e : LinkEnd} {i : Interface} (h : t.port? e = some i) :
    ∃ d, t.devices.get? e.device = some d ∧ d.interfaces.get? e.port = some i :=
  Option.bind_eq_some_iff.1 h

theorem device_mem_of_port? {e : LinkEnd} {i : Interface} (h : t.port? e = some i) :
    e.device ∈ t.devices.keys := by
  obtain ⟨d, hd, -⟩ := device_of_port? h
  exact Table.mem_keys_of_get? hd

theorem HasPort.device_mem {e : LinkEnd} (h : t.HasPort e) : e.device ∈ t.devices.keys := by
  obtain ⟨i, hi⟩ := Option.isSome_iff_exists.1 h.1
  exact device_mem_of_port? hi

theorem entry_eq {key : String} {d : Device} (h : t.devices.get? key = some d) : t.entry key = .ok d := by
  unfold entry
  rw [h]
  rfl

theorem entry_returns (t : Topology) (key : String) :
    Returns (fun d => t.devices.get? key = some d) (t.entry key) := .of_value fun _ hd => need_eq_ok.1 hd

theorem device_eq_ok {name : String} {d : Device} :
    t.device name = .ok d ↔ t.devices.get? (deviceKey name) = some d := by
  unfold Topology.device
  cases t.devices.get? (deviceKey name) with
  | none => simp
  | some d' => simp

theorem interface_eq {e : LinkEnd} {i : Interface} (h : t.port? e = some i) : t.interface e = .ok i := by
  obtain ⟨d, hd, hi⟩ := device_of_port? h
  unfold interface
  rw [entry_eq hd, ok_bind, hi]
  rfl

theorem get?_modifyDevice (t : Topology) (key k : String) (f : Device → Device) :
    (t.modifyDevice key f).devices.get? k =
      if k = key then (t.devices.get? k).map f else t.devices.get? k :=
  Table.get?_modify t.devices key k f

theorem port?_modifyInterface (t : Topology) (e e' : LinkEnd) (f : Interface → Interface) :
    (t.modifyInterface e f).port? e' = if e' = e then (t.port? e').map f else t.port? e' := by
  unfold port? modifyInterface
  rw [get?_modifyDevice]
  by_cases hd : e'.device = e.device
  · rw [if_pos hd]
    cases hg : t.devices.get? e'.device with
    | none => simp
    | some d =>
      simp only [Option.map_some, Option.bind_some, Device.modifyInterface, Table.get?_modify]
      by_cases hp : e'.port = e.port
      · have he : e' = e := by
          cases e
          cases e'
          simp only at hd hp
          rw [hd, hp]
        rw [if_pos hp, if_pos he]
      · have he : e' ≠ e := fun h => hp (by rw [h])
        rw [if_neg hp, if_neg he]
  · have he : e' ≠ e := fun h => hd (by rw [h])
    rw [if_neg hd, if_neg he]

/-! ## Outlines -/

/-- The topology without what works and what is up. -/
def outline (t : Topology) : Topology :=
  { t with
    devices := t.devices.mapValues fun _ d =>
      { d with interfaces := d.interfaces.mapValues fun _ i => { i with operUp := false } }
    links := t.links.map fun l => { l with up := false } }

theorem outline_modifyInterface (t : Topology) (e : LinkEnd) (up : Bool) :
    (t.modifyInterface e fun i => { i with operUp := up }).outline = t.outline := by
  unfold outline modifyInterface modifyDevice
  rw [Table.mapValues_modify]
  intro d _
  rw [Device.modifyInterface, Table.mapValues_modify]
  intro i _
  rfl

section SameOutline

variable {u : Topology}

theorem keys_of_outline (h : u.outline = t.outline) : u.devices.keys = t.devices.keys := by
  have := congrArg (fun v : Topology => v.devices.keys) h
  simpa [outline] using this

/-- What devices of one outline have in common. -/
theorem get?_of_outline (h : u.outline = t.outline) {k : String} {d' : Device}
    (hd : u.devices.get? k = some d') :
    ∃ d, t.devices.get? k = some d ∧ d' = { d with interfaces := d'.interfaces } ∧
      d'.interfaces.mapValues (fun _ i => { i with operUp := false }) =
        d.interfaces.mapValues (fun _ i => { i with operUp := false }) := by
  have hk := congrArg (fun v : Topology => v.devices.get? k) h
  simp only [outline, Table.get?_mapValues, hd, Option.map_some] at hk
  cases ht : t.devices.get? k with
  | none => rw [ht] at hk; cases hk
  | some d =>
    rw [ht] at hk
    simp only [Option.map_some, Option.some.injEq] at hk
    refine ⟨d, rfl, ?_, congrArg Device.interfaces hk⟩
    cases d
    cases d'
    simp only [Device.mk.injEq] at hk
    simp [hk]

theorem interface_of_outline {is is' : Table String Interface}
    (h : is'.mapValues (fun _ i => { i with operUp := false }) =
      is.mapValues fun _ i => { i with operUp := false }) {k : String} {i' : Interface}
    (hi : is'.get? k = some i') : ∃ i, is.get? k = some i ∧ i' = { i with operUp := i'.operUp } := by
  have hk := congrArg (fun v : Table String Interface => v.get? k) h
  simp only [Table.get?_mapValues, hi, Option.map_some] at hk
  cases ht : is.get? k with
  | none => rw [ht] at hk; cases hk
  | some i =>
    rw [ht] at hk
    simp only [Option.map_some, Option.some.injEq] at hk
    refine ⟨i, rfl, ?_⟩
    cases i
    cases i'
    simp only [Interface.mk.injEq] at hk
    simp [hk]

theorem port?_of_outline (h : u.outline = t.outline) {e : LinkEnd} {i' : Interface}
    (hi : u.port? e = some i') : ∃ i, t.port? e = some i ∧ i' = { i with operUp := i'.operUp } := by
  obtain ⟨d', hd', hi'⟩ := device_of_port? hi
  obtain ⟨d, hd, -, his⟩ := get?_of_outline h hd'
  obtain ⟨i, hget, heq⟩ := interface_of_outline his hi'
  exact ⟨i, (port?_of_get? hd).trans hget, heq⟩

theorem port?_isSome_of_outline (h : u.outline = t.outline) (e : LinkEnd) :
    (u.port? e).isSome = (t.port? e).isSome := by
  rw [Bool.eq_iff_iff, Option.isSome_iff_exists, Option.isSome_iff_exists]
  constructor
  · rintro ⟨i', hi'⟩
    obtain ⟨i, hi, -⟩ := port?_of_outline h hi'
    exact ⟨i, hi⟩
  · rintro ⟨i, hi⟩
    obtain ⟨i', hi', -⟩ := port?_of_outline h.symm hi
    exact ⟨i', hi'⟩

theorem hasPort_of_outline (h : u.outline = t.outline) {e : LinkEnd} : u.HasPort e ↔ t.HasPort e := by
  unfold HasPort
  rw [port?_isSome_of_outline h]

theorem isOn_of_outline (h : u.outline = t.outline) (e : LinkEnd) : u.isOn e = t.isOn e := by
  unfold isOn
  cases hi : u.port? e with
  | none =>
    have := port?_isSome_of_outline h e
    rw [hi] at this
    cases ht : t.port? e with
    | none => rfl
    | some i => rw [ht] at this; cases this
  | some i' =>
    obtain ⟨i, ht, heq⟩ := port?_of_outline h hi
    rw [ht, heq]
    rfl

theorem links_of_outline (h : u.outline = t.outline) :
    u.links.map (fun l => { l with up := false }) = t.links.map fun l => { l with up := false } :=
  congrArg (fun v : Topology => v.links) h

theorem nextLinkId_of_outline (h : u.outline = t.outline) : u.nextLinkId = t.nextLinkId := by
  have hnext : u.outline.nextLinkId = t.outline.nextLinkId := by rw [h]
  exact hnext

theorem mem_links_of_outline (h : u.outline = t.outline) {l' : Link} (hl : l' ∈ u.links) :
    ∃ l ∈ t.links, l' = { l with up := l'.up } := by
  have hmem : ({ l' with up := false } : Link) ∈ t.links.map fun l => { l with up := false } := by
    rw [← links_of_outline h]
    exact List.mem_map.2 ⟨l', hl, rfl⟩
  obtain ⟨l, hlt, heq⟩ := List.mem_map.1 hmem
  refine ⟨l, hlt, ?_⟩
  cases l
  cases l'
  simp only [Link.mk.injEq] at heq
  simp [heq]

theorem map_of_outline {β : Type} (h : u.outline = t.outline) (f : Link → β)
    (hf : ∀ l : Link, f { l with up := false } = f l) : u.links.map f = t.links.map f := by
  have := congrArg (List.map f) (links_of_outline h)
  simpa [List.map_map, Function.comp_def, hf] using this

end SameOutline

/-! ## Soundness -/

/-- Links end at distinct physical ports that exist. -/
structure Cabled (t : Topology) : Prop where
  ends : ∀ l ∈ t.links, ∀ e ∈ l.ends, t.HasPort e
  apart : (t.links.flatMap Link.ends).Nodup

/-- Whether a topology is as the console and the edits make it. -/
structure Sound (t : Topology) : Prop extends Cabled t where
  devices : ∀ k d, t.devices.get? k = some d → d.Sound
  identified : ∀ k d, t.devices.get? k = some d → d.id = k
  trimmed : ∀ k ∈ t.devices.keys, Text.trim k = k
  numbered : ∀ l ∈ t.links, ∃ n : Int, 1 ≤ n ∧ n < t.nextLinkId ∧ l.id = "L" ++ Text.intText n
  ids : (t.links.map (·.id)).Nodup
  positive : 1 ≤ t.nextLinkId

namespace Cabled

variable (h : t.Cabled)

include h

theorem end_port {l : Link} (hl : l ∈ t.links) {e : LinkEnd} (he : e ∈ l.ends) :
    ∃ i, t.port? e = some i := Option.isSome_iff_exists.1 (h.ends l hl e he).1

theorem link_unique {l m : Link} (hl : l ∈ t.links) (hm : m ∈ t.links) {e : LinkEnd} (hel : e ∈ l.ends)
    (hem : e ∈ m.ends) : l = m := by
  have pairwise := (List.nodup_flatMap.1 h.apart).2
  have symm : Std.Symm (Function.onFun List.Disjoint Link.ends) := ⟨fun _ _ hd _ hx hy => hd hy hx⟩
  by_contra hne
  exact pairwise.forall hl hm hne hel hem

theorem linkAt_iff {e : LinkEnd} {l : Link} : t.linkAt e = some l ↔ l ∈ t.links ∧ e ∈ l.ends := by
  unfold linkAt
  constructor
  · intro hf
    exact ⟨List.mem_of_find?_eq_some hf, Link.touches_iff.1 (by simpa using List.find?_some hf)⟩
  · rintro ⟨hl, he⟩
    cases hf : t.links.find? (·.touches e) with
    | none =>
      have := List.find?_eq_none.1 hf l hl
      exact absurd (Link.touches_iff.2 he) this
    | some m =>
      have hm := List.mem_of_find?_eq_some hf
      have hem : e ∈ m.ends := Link.touches_iff.1 (by simpa using List.find?_some hf)
      rw [h.link_unique hm hl hem he]

theorem ends_ne {l : Link} (hl : l ∈ t.links) : l.a ≠ l.b := by
  have := (List.nodup_flatMap.1 h.apart).1 l hl
  simpa [Link.ends] using this

theorem bothEndsOn_eq {l : Link} (hl : l ∈ t.links) : t.bothEndsOn l = .ok (t.isOn l.a && t.isOn l.b) := by
  obtain ⟨i, hi⟩ := h.end_port hl (e := l.a) (by simp [Link.ends])
  obtain ⟨j, hj⟩ := h.end_port hl (e := l.b) (by simp [Link.ends])
  unfold bothEndsOn isOn
  rw [interface_eq hi, interface_eq hj, hi, hj]
  cases hon : i.adminUp <;> simp [hon]

end Cabled

theorem Cabled.of_outline {u : Topology} (h : t.Cabled) (ho : u.outline = t.outline) : u.Cabled where
  ends := by
    intro l' hl' e he
    obtain ⟨l, hl, heq⟩ := mem_links_of_outline ho hl'
    rw [heq] at he
    exact (hasPort_of_outline ho).2 (h.ends l hl e he)
  apart := by
    have := map_of_outline ho Link.ends fun _ => rfl
    rw [List.flatMap_def, this, ← List.flatMap_def]
    exact h.apart

namespace Sound

variable (h : t.Sound)

include h

theorem table {k : String} {d : Device} (hd : t.devices.get? k = some d) : InterfaceTable d.interfaces :=
  (h.devices k d hd).interfaces

theorem port_sound {e : LinkEnd} {i : Interface} (hi : t.port? e = some i) : i.Sound e.port := by
  obtain ⟨d, hd, hget⟩ := device_of_port? hi
  exact (h.table hd).each _ _ hget

end Sound

theorem table_of_outline {is is' : Table String Interface} (h : InterfaceTable is)
    (ho : is'.mapValues (fun _ i => { i with operUp := false }) =
      is.mapValues fun _ i => { i with operUp := false }) : InterfaceTable is' := by
  have keys : is'.keys = is.keys := by simpa using congrArg Table.keys ho
  refine ⟨?_, ?_, ?_, ?_, ?_⟩
  · intro n i' hi'
    obtain ⟨i, hi, heq⟩ := interface_of_outline ho hi'
    have hsound := h.each n i hi
    rw [heq]
    exact ⟨hsound.name, hsound.addressed, hsound.member⟩
  · rw [keys]; exact h.readable
  · rw [keys]; exact h.named
  · rw [keys]; exact h.parents
  · rw [keys]; exact h.inhabited

/-- Soundness is told by the outline. -/
theorem Sound.of_outline {u : Topology} (h : t.Sound) (ho : u.outline = t.outline) : u.Sound where
  toCabled := h.toCabled.of_outline ho
  devices := by
    intro k d' hd'
    obtain ⟨d, hd, heq, his⟩ := get?_of_outline ho hd'
    have hs := h.devices k d hd
    rw [heq]
    refine ⟨hs.typed, table_of_outline hs.interfaces his, hs.routes, hs.lists, hs.statements, hs.pools,
      hs.process, fun hpc => (hs.tags hpc).congr fun n i' hi' => ?_⟩
    obtain ⟨i, hi, heq⟩ := interface_of_outline his hi'
    rw [heq]
    exact ⟨i, hi, id, rfl⟩
  identified := by
    intro k d' hd'
    obtain ⟨d, hd, heq, -⟩ := get?_of_outline ho hd'
    rw [heq]
    exact h.identified k d hd
  trimmed := by
    rw [keys_of_outline ho]
    exact h.trimmed
  numbered := by
    intro l' hl'
    obtain ⟨l, hl, heq⟩ := mem_links_of_outline ho hl'
    rw [heq, nextLinkId_of_outline ho]
    exact h.numbered l hl
  ids := by
    have := map_of_outline ho Link.id fun _ => rfl
    rw [this]
    exact h.ids
  positive := by
    rw [nextLinkId_of_outline ho]
    exact h.positive

end Topology

end NetRack
