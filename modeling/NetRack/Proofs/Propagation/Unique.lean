import NetRack.Proofs.Propagation.Outcome

/-!
# What is derived is determined

Two settled topologies of one frame can differ only in what OSPF computed.  The links of both are up as
the same ports dictate, so the same physical ports work, so the same other interfaces work, so the same
connected routes are there; and a table lists its routes in one order only.  If OSPF is up to date in
both, they are the same.
-/

namespace NetRack

open InterfaceName (kindOf)

/-! ## Devices of one frame -/

namespace Device

variable {d d' : Device}

/-- Devices of one frame differ in what is derived. -/
theorem eq_of_frame (h : d'.frame = d.frame) :
    d' = { d with
      interfaces := d'.interfaces
      routes := d'.routes
      ospfNeighbors := d'.ospfNeighbors } := by
  cases d
  cases d'
  simp only [frame, mk.injEq] at h
  simp [h]

theorem interfaces_of_frame (h : d'.frame = d.frame) :
    d'.interfaces.mapValues (fun _ i => { i with operUp := false }) =
      d.interfaces.mapValues fun _ i => { i with operUp := false } := congrArg interfaces h

/-- Devices of one frame have the same interfaces, whether those work or not. -/
theorem withOper_of_frame (h : d'.frame = d.frame) :
    d'.interfaces = (d.withOper fun k => (d'.interfaces.get? k).any (·.operUp)).interfaces := by
  have same := interfaces_of_frame h
  have keys : d'.interfaces.keys = d.interfaces.keys := by simpa using congrArg Table.keys same
  refine Table.ext (by simp [withOper, keys]) fun k => ?_
  rw [get?_withOper]
  cases hi' : d'.interfaces.get? k with
  | none =>
    have absent := Table.get?_eq_none.1 hi'
    rw [keys] at absent
    rw [Table.get?_eq_none.2 absent]
    rfl
  | some i' =>
    obtain ⟨i, hi, heq⟩ := Topology.interface_of_outline same hi'
    rw [hi, heq]
    rfl

/-- Where the same physical ports work, so do the same other interfaces. -/
theorem interfaces_eq_of_obeys (h : InterfaceTable d.interfaces) (hf : d'.frame = d.frame) (ho : d.Obeys)
    (ho' : d'.Obeys) (physical : ∀ k i i', d.interfaces.get? k = some i → d'.interfaces.get? k = some i' →
      kindOf k = .physical → i'.operUp = i.operUp) : d'.interfaces = d.interfaces := by
  have made := withOper_of_frame hf
  have same : d'.dictated = (d.withOper fun k => (d'.interfaces.get? k).any (·.operUp)).dictated := by
    refine dictated_congr made ?_
    show d'.frame.vlans = d.frame.vlans
    rw [hf]
  have found {k : String} {i : Interface} (hi : d.interfaces.get? k = some i) :
      ∃ b, d'.interfaces.get? k = some { i with operUp := b } := by
    rw [made, get?_withOper, hi]
    exact ⟨_, rfl⟩
  have kept : d.KeepsPhysical fun k => (d'.interfaces.get? k).any (·.operUp) := by
    intro k i hi hk
    obtain ⟨b, hi'⟩ := found hi
    dsimp only
    rw [hi']
    exact physical k i _ hi hi' hk
  rw [made, withOper_self]
  intro k i hi
  by_cases hk : kindOf k = .physical
  · exact kept k i hi hk
  · obtain ⟨b, hi'⟩ := found hi
    rw [hi', ho k i hi, ← dictated_withOper h kept hi hk, ← same]
    exact ho' k _ hi'

/-- Where the same interfaces work, the same routes are there but for what OSPF computed. -/
theorem routes_eq_of_connects (h : RouteTable d.routes) (h' : RouteTable d'.routes)
    (hf : d'.frame = d.frame) (hi : d'.interfaces = d.interfaces) (hc : ∀ name, d.Connects name)
    (hc' : ∀ name, d'.Connects name) :
    (d'.routes.filter fun r => !r.isFrom .ospf) = d.routes.filter fun r => !r.isFrom .ospf := by
  have plain : (d'.routes.filter fun r => !r.isDerived) = d.routes.filter fun r => !r.isDerived :=
    congrArg Device.routes hf
  -- A connected route is the route of the interface that it names.
  have connected {x y : Device} (hx : RouteTable x.routes) (hy : ∀ name, x.Connects name)
      (hy' : ∀ name, y.Connects name) (same : y.interfaces = x.interfaces) {r : Route} (hr : r ∈ x.routes)
      (hfrom : r.isFrom .connected = true) : r ∈ y.routes := by
    have named : ∃ name, r.isConnectedAt name = true := by
      cases hx.each r hr with
      | connected n name short =>
        exact ⟨name, by rw [Route.isConnectedAt, hfrom, Topology.connectedRoute]; simp⟩
      | static n target distance short far => cases hfrom
      | ospf n a name metric short named => cases hfrom
    obtain ⟨name, hat⟩ := named
    have dictated := (hy name r).1 ⟨hr, hat⟩
    refine ((hy' name r).2 ?_).1
    rw [connectedAt_congr same]
    exact dictated
  refine h'.filter_eq h fun r hr => ?_
  cases hfrom : r.isFrom .connected with
  | true =>
    exact ⟨fun hmem => connected h' hc' hc hi.symm hmem hfrom, fun hmem => connected h hc hc' hi hmem hfrom⟩
  | false =>
    have hplain : (!r.isDerived) = true := by simp_all [Route.isDerived]
    have mem := congrArg (r ∈ ·) plain
    simpa [hplain] using mem

end Device

namespace Topology

variable {t u : Topology}

/-- The topology without what OSPF computed. -/
def withoutOspf (t : Topology) : Topology :=
  { t with devices := t.devices.mapValues fun _ d => clearOspf d }

/-! ## Links and physical ports -/

theorem isOn_of_frame (h : u.frame = t.frame) (e : LinkEnd) : u.isOn e = t.isOn e := by
  have through (w : Topology) : w.isOn e = w.frame.isOn e := by
    unfold isOn port?
    rw [get?_frame]
    cases w.devices.get? e.device with
    | none => rfl
    | some d => simp [Device.frame, Option.any_map]
  rw [through u, through t, h]

/-- The links of a settled topology are up as their ends dictate. -/
theorem Settled.links_eq (hs : t.Settled) (h : t.Sound) :
    t.links = t.frame.links.map fun l => { l with up := t.isOn l.a && t.isOn l.b } := by
  unfold frame
  rw [List.map_map]
  refine (List.map_id t.links).symm.trans (List.map_congr_left fun l hl => ?_)
  have ha : l.a ∈ l.ends := by simp [Link.ends]
  have up := (hs.ports l.a (h.ends l hl l.a ha)).link l (h.linkAt_iff.2 ⟨hl, ha⟩)
  simp only [id, Function.comp_apply, ← up]

theorem links_of_frame (ht : t.Sound) (hu : u.Sound) (hst : t.Settled) (hsu : u.Settled)
    (h : u.frame = t.frame) : u.links = t.links := by
  rw [hsu.links_eq hu, hst.links_eq ht, h]
  simp only [isOn_of_frame h]

/-! ## All of it -/

theorem device_of_settled (ht : t.Sound) (hu : u.Sound) (hst : t.Settled) (hsu : u.Settled)
    (h : u.frame = t.frame) {k : String} {d d' : Device} (hd : t.devices.get? k = some d)
    (hd' : u.devices.get? k = some d') : clearOspf d' = clearOspf d := by
  have links := links_of_frame ht hu hst hsu h
  have hframe : d'.frame = d.frame := by
    obtain ⟨d₀, hd₀, heq⟩ := device_of_frame h hd'
    rw [hd] at hd₀
    cases hd₀
    exact heq
  have interfaces : d'.interfaces = d.interfaces := by
    refine Device.interfaces_eq_of_obeys (ht.table hd) hframe (hst.obeys k d hd) (hsu.obeys k d' hd') ?_
    intro name i i' hi hi' hk
    have port : t.port? ⟨k, name⟩ = some i := (port?_of_get? (e := ⟨k, name⟩) hd).trans hi
    have port' : u.port? ⟨k, name⟩ = some i' := (port?_of_get? (e := ⟨k, name⟩) hd').trans hi'
    have works := (hst.ports ⟨k, name⟩ ⟨by rw [port]; rfl, hk⟩).port
    have works' := (hsu.ports ⟨k, name⟩ ⟨by rw [port']; rfl, hk⟩).port
    unfold Topology.works linkAt at works works'
    rw [port, Option.any_some] at works
    rw [port', Option.any_some, links] at works'
    rw [works, works']
  have routes := Device.routes_eq_of_connects (ht.devices k d hd).routes (hu.devices k d' hd').routes hframe
    interfaces (hst.connects k d hd) (hsu.connects k d' hd')
  unfold clearOspf
  rw [routes, Device.eq_of_frame hframe, interfaces]

/-- Settled topologies of one frame differ only in what OSPF computed. -/
theorem withoutOspf_of_frame (ht : t.Sound) (hu : u.Sound) (hst : t.Settled) (hsu : u.Settled)
    (h : u.frame = t.frame) : u.withoutOspf = t.withoutOspf := by
  have keys : u.devices.keys = t.devices.keys := by
    have := congrArg (fun w : Topology => w.devices.keys) h
    simpa [frame] using this
  have nextLinkId : u.frame.nextLinkId = t.frame.nextLinkId := by rw [h]
  have links := links_of_frame ht hu hst hsu h
  refine eq_of_parts (Table.ext (by simp [withoutOspf, keys]) fun k => ?_) links nextLinkId
  unfold withoutOspf
  rw [Table.get?_mapValues, Table.get?_mapValues]
  cases hd' : u.devices.get? k with
  | none =>
    have absent := Table.get?_eq_none.1 hd'
    rw [keys] at absent
    rw [Table.get?_eq_none.2 absent]
  | some d' =>
    obtain ⟨d, hd, -⟩ := device_of_frame h hd'
    rw [hd, Option.map_some, Option.map_some, device_of_settled ht hu hst hsu h hd hd']

/-! ## OSPF -/

/-- OSPF does not look at what it computed. -/
theorem view_withoutOspf (t : Topology) : t.withoutOspf.view = t.view := by
  have each (d : Device) : (clearOspf d).view = d.view := by
    unfold Device.view
    rw [connected_clearOspf]
    rfl
  unfold view withoutOspf
  simp only [Table.mapValues_mapValues, each]

/-- Topologies that differ only in what OSPF computed are the same if it is up to date in both. -/
theorem Current.eq_of_withoutOspf (ct : t.Current) (cu : u.Current) (ht : t.Sound) (hu : u.Sound)
    (h : u.withoutOspf = t.withoutOspf) : u = t := by
  obtain ⟨results, hresults, hdevices⟩ := ct
  obtain ⟨results', hresults', hdevices'⟩ := cu
  have hview : u.view = t.view := by rw [← view_withoutOspf, h, view_withoutOspf]
  rw [ospfResults_of_view hview, hresults] at hresults'
  cases hresults'
  have cleared (k : String) : (u.devices.get? k).map clearOspf = (t.devices.get? k).map clearOspf := by
    have same : u.withoutOspf.devices.get? k = t.withoutOspf.devices.get? k := by rw [h]
    unfold withoutOspf at same
    rwa [Table.get?_mapValues, Table.get?_mapValues] at same
  have keys : u.devices.keys = t.devices.keys := by
    have same : u.withoutOspf.devices.keys = t.withoutOspf.devices.keys := by rw [h]
    simpa [withoutOspf] using same
  have links : u.withoutOspf.links = t.withoutOspf.links := by rw [h]
  have nextLinkId : u.withoutOspf.nextLinkId = t.withoutOspf.nextLinkId := by rw [h]
  refine eq_of_parts (Table.ext keys fun k => ?_) links nextLinkId
  have same := cleared k
  cases hd' : u.devices.get? k with
  | none =>
    rw [hd', Option.map_none] at same
    exact (Option.map_eq_none_iff.1 same.symm).symm
  | some d' =>
    rw [hd', Option.map_some] at same
    obtain ⟨d, hd, heq⟩ := Option.map_eq_some_iff.1 same.symm
    obtain ⟨hneighbors, hroutes⟩ := hdevices k d hd
    obtain ⟨hneighbors', hroutes'⟩ := hdevices' k d' hd'
    have plain : (d'.routes.filter fun r => !r.isFrom .ospf) = d.routes.filter fun r => !r.isFrom .ospf :=
      congrArg Device.routes heq.symm
    have routes : d'.routes = d.routes := by
      refine (hu.devices k d' hd').routes.eq_of_mem_iff (ht.devices k d hd).routes fun r => ?_
      cases ho : r.isFrom .ospf with
      | true => rw [hroutes' r ho, hroutes r ho]
      | false =>
        have mem := congrArg (r ∈ ·) plain
        simpa [ho] using mem
    have rest : d' = { d with routes := d'.routes, ospfNeighbors := d'.ospfNeighbors } := by
      cases d
      cases d'
      simp only [clearOspf, Device.mk.injEq] at heq
      simp [heq]
    rw [hd, rest, routes, hneighbors', ← hneighbors]

/-- A settled topology in which OSPF is up to date is determined by its frame. -/
theorem eq_of_frame (ht : t.Sound) (hu : u.Sound) (hst : t.Settled) (hsu : u.Settled) (ct : t.Current)
    (cu : u.Current) (h : u.frame = t.frame) : u = t :=
  ct.eq_of_withoutOspf cu ht hu (withoutOspf_of_frame ht hu hst hsu h)

end Topology

end NetRack
