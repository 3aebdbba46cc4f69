import NetRack.Proofs.History

/-!
# What the configuration dictates

The state that is derived in a lab is said here in the program's own words: which links are up, which
interfaces work, and which connected routes there are.  Whatever was done to a lab, all of it is as the
configuration dictates, also where nothing was touched.
-/

namespace NetRack

open InterfaceName (kindOf)

namespace Topology

/-- When an interface of a device has to work, by its kind. -/
def HasToWork (t : Topology) (key : String) (d : Device) (name : String) (i : Interface) : PortKind → Prop
  | .physical => ∃ l ∈ t.links, (⟨key, name⟩ : LinkEnd) ∈ l.ends ∧ l.up = true
  | .loopback => i.adminUp = true
  | .subinterface =>
    i.adminUp = true ∧ ∃ parent number p, InterfaceName.split name = .ok (parent, some number) ∧
      d.interfaces.get? parent = some p ∧ p.operUp = true
  | .svi =>
    i.adminUp = true ∧ ∃ vlan, InterfaceName.vlanOf name = .ok vlan ∧ d.vlans.contains vlan = true ∧
      ∃ port p, d.interfaces.get? port = some p ∧ InterfaceName.kind port = .ok .physical ∧
        p.operUp = true ∧ p.carries vlan = true
  | .portChannel =>
    i.adminUp = true ∧ ∃ group, InterfaceName.groupOf name = .ok group ∧
      ∃ port p, d.interfaces.get? port = some p ∧ p.operUp = true ∧ p.channelGroup = some group

/-- The state that is derived is what the configuration dictates. -/
structure Dictated (t : Topology) : Prop where
  links : ∀ l ∈ t.links, ∃ a b, t.interface l.a = .ok a ∧ t.interface l.b = .ok b ∧
    (l.up = true ↔ a.adminUp = true ∧ b.adminUp = true)
  interfaces : ∀ key d, t.devices.get? key = some d → ∀ name i, d.interfaces.get? name = some i →
    ∃ kind, InterfaceName.kind name = .ok kind ∧ (i.operUp = true ↔ t.HasToWork key d name i kind)
  routes : ∀ key d, t.devices.get? key = some d → ∀ name i, d.interfaces.get? name = some i →
    i.operUp = true → i.hasIp = true →
      ∃ net : Network, i.network? = .ok (some net) ∧ i.mask = some net.mask.text ∧
        d.routes.filter (fun r => r.isFrom .connected && decide (r.interface = some name)) =
          [{ network := net.base.text, mask := net.mask.text, source := .known .connected, distance := 0,
             interface := some name }]
  noOthers : ∀ key d, t.devices.get? key = some d → ∀ r ∈ d.routes, r.isFrom .connected = true →
    ∃ name i, r.interface = some name ∧ d.interfaces.get? name = some i ∧ i.operUp = true ∧ i.hasIp = true

variable {t : Topology} {key name : String} {d : Device} {i : Interface}

/-! ## Links and ports -/

theorem Settled.links_dictated (hs : t.Settled) (h : t.Sound) {l : Link} (hl : l ∈ t.links) :
    ∃ a b, t.interface l.a = .ok a ∧ t.interface l.b = .ok b ∧
      (l.up = true ↔ a.adminUp = true ∧ b.adminUp = true) := by
  have hea : l.a ∈ l.ends := by simp [Link.ends]
  obtain ⟨a, ha⟩ := h.end_port hl hea
  obtain ⟨b, hb⟩ := h.end_port hl (by simp [Link.ends] : l.b ∈ l.ends)
  have up := (hs.ports l.a (h.ends l hl l.a hea)).link l (h.linkAt_iff.2 ⟨hl, hea⟩)
  refine ⟨a, b, interface_eq ha, interface_eq hb, ?_⟩
  unfold isOn at up
  rw [ha, hb, Option.any_some, Option.any_some] at up
  rw [up, Bool.and_eq_true_iff]

theorem Settled.physical_dictated (hs : t.Settled) (h : t.Sound) (hd : t.devices.get? key = some d)
    (hi : d.interfaces.get? name = some i) (hk : kindOf name = .physical) :
    i.operUp = true ↔ ∃ l ∈ t.links, (⟨key, name⟩ : LinkEnd) ∈ l.ends ∧ l.up = true := by
  have hport : t.port? ⟨key, name⟩ = some i := (port?_of_get? (e := ⟨key, name⟩) hd).trans hi
  have works := (hs.ports ⟨key, name⟩ ⟨by rw [hport]; rfl, hk⟩).port
  unfold Topology.works at works
  rw [hport, Option.any_some] at works
  rw [works, Option.any_eq_true]
  constructor
  · rintro ⟨l, hl, hup⟩
    obtain ⟨hmem, he⟩ := h.linkAt_iff.1 hl
    exact ⟨l, hmem, he, hup⟩
  · rintro ⟨l, hmem, he, hup⟩
    exact ⟨l, h.linkAt_iff.2 ⟨hmem, he⟩, hup⟩

/-! ## Other interfaces -/

section Kinds

variable (table : InterfaceTable d.interfaces) (hi : d.interfaces.get? name = some i)
  (obeys : i.operUp = d.dictated i)

include table hi obeys

theorem subinterface_dictated (hk : kindOf name = .subinterface) :
    i.operUp = true ↔ t.HasToWork key d name i .subinterface := by
  unfold Device.dictated at obeys
  simp only [table.name_eq hi, hk] at obeys
  have numbered := InterfaceName.subOf_isSome name
  rw [decide_eq_true hk, Option.isSome_iff_exists] at numbered
  obtain ⟨number, hnumber⟩ := numbered
  have hsplit := InterfaceName.split_of_readable (table.readable_of_get? hi)
  rw [hnumber] at hsplit
  rw [obeys, Bool.and_eq_true_iff, Option.any_eq_true]
  refine and_congr_right fun _ => ?_
  constructor
  · rintro ⟨p, hp, hup⟩
    exact ⟨_, number, p, hsplit, hp, hup⟩
  · rintro ⟨parent, n, p, hparent, hp, hup⟩
    rw [hsplit] at hparent
    cases hparent
    exact ⟨p, hp, hup⟩

theorem svi_dictated (hk : kindOf name = .svi) : i.operUp = true ↔ t.HasToWork key d name i .svi := by
  unfold Device.dictated at obeys
  simp only [table.name_eq hi, hk] at obeys
  have hvlan := InterfaceName.vlanOf_of_readable (table.readable_of_get? hi) hk
  rw [obeys, Bool.and_eq_true_iff, Bool.and_eq_true_iff, and_assoc, List.any_eq_true]
  refine and_congr_right fun _ => ?_
  constructor
  · rintro ⟨known, p, hp, hup⟩
    simp only [Bool.and_eq_true_iff, decide_eq_true_eq] at hup
    have hget := table.get?_of_mem_values hp
    have hkind := InterfaceName.kind_of_readable (table.readable_of_get? hget)
    rw [hup.1] at hkind
    exact ⟨_, hvlan, known, p.name, p, hget, hkind, hup.2⟩
  · rintro ⟨vlan, hv, known, port, p, hp, hkind, hup⟩
    rw [hvlan] at hv
    cases hv
    refine ⟨known, p, Table.mem_values.2 ⟨port, hp⟩, ?_⟩
    simp only [Bool.and_eq_true_iff, decide_eq_true_eq]
    rw [table.name_eq hp]
    exact ⟨InterfaceName.kindOf_eq hkind, hup⟩

theorem portChannel_dictated (hk : kindOf name = .portChannel) :
    i.operUp = true ↔ t.HasToWork key d name i .portChannel := by
  unfold Device.dictated at obeys
  simp only [table.name_eq hi, hk] at obeys
  have hgroup := InterfaceName.groupOf_of_readable (table.readable_of_get? hi) hk
  rw [obeys, Bool.and_eq_true_iff, List.any_eq_true]
  refine and_congr_right fun _ => ?_
  constructor
  · rintro ⟨p, hp, hup⟩
    rw [Bool.and_eq_true_iff, decide_eq_true_eq] at hup
    exact ⟨_, hgroup, p.name, p, table.get?_of_mem_values hp, hup⟩
  · rintro ⟨group, hg, port, p, hp, hup⟩
    rw [hgroup] at hg
    cases hg
    refine ⟨p, Table.mem_values.2 ⟨port, hp⟩, ?_⟩
    rw [Bool.and_eq_true_iff, decide_eq_true_eq]
    exact hup

end Kinds

theorem Settled.interfaces_dictated (hs : t.Settled) (h : t.Sound) (hd : t.devices.get? key = some d)
    (hi : d.interfaces.get? name = some i) :
    i.operUp = true ↔ t.HasToWork key d name i (kindOf name) := by
  have table := h.table hd
  have obeys := hs.obeys key d hd name i hi
  cases hk : kindOf name with
  | physical => exact hs.physical_dictated h hd hi hk
  | loopback =>
    unfold Device.dictated at obeys
    simp only [table.name_eq hi, hk] at obeys
    rw [obeys]
    rfl
  | subinterface => exact subinterface_dictated table hi obeys hk
  | svi => exact svi_dictated table hi obeys hk
  | portChannel => exact portChannel_dictated table hi obeys hk

/-! ## Connected routes -/

theorem Settled.routes_dictated (hs : t.Settled) (h : t.Sound) (hd : t.devices.get? key = some d)
    (hi : d.interfaces.get? name = some i) (hup : i.operUp = true) (hip : i.hasIp = true) :
    ∃ net : Network, i.network? = .ok (some net) ∧ i.mask = some net.mask.text ∧
      d.routes.filter (·.isConnectedAt name) = [connectedRoute net name] := by
  have hsound := h.devices key d hd
  rcases (hsound.interfaces.each name i hi).addressed.cases_of with ⟨-, -, hno⟩ | ⟨a, n, hn, -, hmask, -, hnet, -⟩
  · rw [hno] at hip
    cases hip
  · refine ⟨.around a n, hnet, hmask, ?_⟩
    have dictated : d.connectedAt name = some (connectedRoute (.around a n) name) := by
      unfold Device.connectedAt
      rw [hi]
      simp only [hup, if_true, Interface.net, hnet]
      rfl
    refine (hsound.routes.filter _).eq_of_mem_iff ⟨?_, List.pairwise_singleton _ _⟩ fun r => ?_
    · intro r hr
      rw [List.mem_singleton] at hr
      rw [hr]
      exact .connected _ name hn
    · rw [List.mem_filter, List.mem_singleton, hs.connects key d hd name r, dictated, Option.some_inj, eq_comm]

theorem Settled.no_other_routes (hs : t.Settled) (h : t.Sound) (hd : t.devices.get? key = some d) {r : Route}
    (hr : r ∈ d.routes) (hc : r.isFrom .connected = true) :
    ∃ name i, r.interface = some name ∧ d.interfaces.get? name = some i ∧ i.operUp = true ∧ i.hasIp = true := by
  have hsound := h.devices key d hd
  obtain ⟨name, hname⟩ : ∃ name, r.interface = some name := by
    cases hsound.routes.each r hr with
    | connected n name short => exact ⟨name, rfl⟩
    | static n target distance short far => cases hc
    | ospf n a name metric short named => cases hc
  have hat : r.isConnectedAt name = true := by
    unfold Route.isConnectedAt
    rw [hc, hname]
    simp
  have dictated := (hs.connects key d hd name r).1 ⟨hr, hat⟩
  unfold Device.connectedAt at dictated
  cases hi : d.interfaces.get? name with
  | none =>
    rw [hi] at dictated
    cases dictated
  | some i =>
    simp only [hi] at dictated
    split at dictated
    · rename_i hup
      obtain ⟨n, hn, -⟩ := Option.map_eq_some_iff.1 dictated
      refine ⟨name, i, hname, hi, hup, ?_⟩
      rw [← (hsound.interfaces.each name i hi).addressed.net_isSome, hn]
      rfl
    · cases dictated

/-! ## Whatever was done -/

/-- Whatever was done to a lab, all that is derived is as the configuration dictates. -/
theorem reached_dictated (cs : List Change) : (reached cs).Dictated where
  links := fun _ hl => (reached_orderly cs).settled.links_dictated (reached_orderly cs).sound hl
  interfaces := by
    obtain ⟨hsound, hsettled, -⟩ := reached_orderly cs
    intro key d hd name i hi
    have readable := (hsound.table hd).readable_of_get? hi
    exact ⟨kindOf name, InterfaceName.kind_of_readable readable, hsettled.interfaces_dictated hsound hd hi⟩
  routes := by
    obtain ⟨hsound, hsettled, -⟩ := reached_orderly cs
    intro key d hd name i hi hup hip
    exact hsettled.routes_dictated hsound hd hi hup hip
  noOthers := by
    obtain ⟨hsound, hsettled, -⟩ := reached_orderly cs
    intro key d hd r hr hc
    exact hsettled.no_other_routes hsound hd hr hc

end Topology

end NetRack
