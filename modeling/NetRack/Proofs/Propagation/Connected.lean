import NetRack.Proofs.Propagation.Logical

/-!
# Connected routes under propagation

An interface that works and has an address gives rise to one connected route, any other to none.
Looking at an interface anew leaves its connected routes as its state dictates, and no other route
of the device is changed.
-/

namespace NetRack

/-! ## Topologies that differ in their routes -/

/-- Two topologies differ at most in routes and OSPF neighbors, and the routes form tables. -/
structure Rerouted (t u : Topology) : Prop where
  links : u.links = t.links
  nextLinkId : u.nextLinkId = t.nextLinkId
  keys : u.devices.keys = t.devices.keys
  devices : ∀ k d', u.devices.get? k = some d' → ∃ d, t.devices.get? k = some d ∧
    d' = { d with routes := d'.routes, ospfNeighbors := d'.ospfNeighbors }

namespace Rerouted

variable {t u v : Topology}

theorem refl (t : Topology) : Rerouted t t := ⟨rfl, rfl, rfl, fun _ d hd => ⟨d, hd, rfl⟩⟩

theorem trans (h : Rerouted t u) (h' : Rerouted u v) : Rerouted t v where
  links := h'.links.trans h.links
  nextLinkId := h'.nextLinkId.trans h.nextLinkId
  keys := h'.keys.trans h.keys
  devices := by
    intro k d'' hd''
    obtain ⟨d', hd', heq'⟩ := h'.devices k d'' hd''
    obtain ⟨d, hd, heq⟩ := h.devices k d' hd'
    refine ⟨d, hd, ?_⟩
    rw [heq', heq]

/-- What devices keep, they keep in their places. -/
theorem map_eq (h : Rerouted t u) {β : Type} {f : Device → β}
    (same : ∀ k d d', t.devices.get? k = some d → u.devices.get? k = some d' → f d' = f d) (k : String) :
    (u.devices.get? k).map f = (t.devices.get? k).map f := by
  cases hd' : u.devices.get? k with
  | none =>
    have absent : k ∉ t.devices.keys := h.keys ▸ Table.get?_eq_none.1 hd'
    rw [Table.get?_eq_none.2 absent]
  | some d' =>
    obtain ⟨d, hd, -⟩ := h.devices k d' hd'
    rw [hd, Option.map_some, Option.map_some, same k d d' hd hd']

theorem eq_self (h : Rerouted t u)
    (same : ∀ k d d', t.devices.get? k = some d → u.devices.get? k = some d' → d' = d) : u = t := by
  refine Topology.eq_of_parts (Table.ext h.keys fun k => ?_) h.links h.nextLinkId
  simpa using h.map_eq (f := id) same k

theorem port? (h : Rerouted t u) (e : LinkEnd) : u.port? e = t.port? e := by
  unfold Topology.port?
  cases hd : u.devices.get? e.device with
  | none =>
    have absent : e.device ∉ t.devices.keys := h.keys ▸ Table.get?_eq_none.1 hd
    rw [Table.get?_eq_none.2 absent]
  | some d' =>
    obtain ⟨d, hget, heq⟩ := h.devices _ d' hd
    rw [hget, heq]
    rfl

theorem sound (h : Rerouted t u) (ht : t.Sound)
    (routes : ∀ k d', u.devices.get? k = some d' → RouteTable d'.routes) : u.Sound where
  ends := by
    intro l hl e he
    rw [h.links] at hl
    obtain ⟨hport, hphys⟩ := ht.ends l hl e he
    exact ⟨by rw [h.port?]; exact hport, hphys⟩
  apart := by
    rw [h.links]
    exact ht.apart
  devices := by
    intro k d' hd'
    have hroutes := routes k d' hd'
    obtain ⟨d, hd, heq⟩ := h.devices k d' hd'
    have hs := ht.devices k d hd
    rw [heq]
    exact ⟨hs.typed, hs.interfaces, hroutes, hs.lists, hs.statements, hs.pools, hs.process, hs.tags⟩
  identified := by
    intro k d' hd'
    obtain ⟨d, hd, heq⟩ := h.devices k d' hd'
    rw [heq]
    exact ht.identified k d hd
  trimmed := by
    rw [h.keys]
    exact ht.trimmed
  numbered := by
    rw [h.links, h.nextLinkId]
    exact ht.numbered
  ids := by
    rw [h.links]
    exact ht.ids
  positive := by
    rw [h.nextLinkId]
    exact ht.positive

theorem of_modifyDevice {key : String} {f : Device → Device}
    (hf : ∀ d, t.devices.get? key = some d →
      f d = { d with routes := (f d).routes, ospfNeighbors := (f d).ospfNeighbors }) :
    Rerouted t (t.modifyDevice key f) where
  links := rfl
  nextLinkId := rfl
  keys := Table.keys_modify t.devices key f
  devices := by
    intro k d' hd'
    rw [Topology.get?_modifyDevice] at hd'
    split at hd'
    · rename_i hk
      subst hk
      obtain ⟨d, hd, rfl⟩ := Option.map_eq_some_iff.1 hd'
      exact ⟨d, hd, hf d hd⟩
    · exact ⟨d', hd', rfl⟩

end Rerouted

/-! ## The routes of one interface -/

namespace Route

/-- Whether a route is the connected route of an interface. -/
def isConnectedAt (r : Route) (name : String) : Bool :=
  r.isFrom .connected && decide (r.interface = some name)

end Route

namespace Device

/-- The connected route that the state of an interface dictates. -/
def connectedAt (d : Device) (name : String) : Option Route :=
  match d.interfaces.get? name with
  | some i => if i.operUp then i.net.map fun n => Topology.connectedRoute n name else none
  | none => none

theorem connectedAt_congr {d d' : Device} (interfaces : d'.interfaces = d.interfaces) :
    d'.connectedAt = d.connectedAt := by
  funext name
  unfold connectedAt
  rw [interfaces]

/-- The connected routes of an interface are as its state dictates. -/
def Connects (d : Device) (name : String) : Prop :=
  ∀ r, (r ∈ d.routes ∧ r.isConnectedAt name = true) ↔ d.connectedAt name = some r

variable {d : Device} {name : String}

theorem connectedAt_isRoute (h : InterfaceTable d.interfaces) {r : Route}
    (hr : d.connectedAt name = some r) : IsRoute r ∧ r.isConnectedAt name = true := by
  unfold connectedAt at hr
  cases hi : d.interfaces.get? name with
  | none => rw [hi] at hr; cases hr
  | some i =>
    simp only [hi] at hr
    split at hr
    · obtain ⟨n, hn, rfl⟩ := Option.map_eq_some_iff.1 hr
      exact ⟨.connected n name ((h.each name i hi).addressed.net_short hn),
        by simp [Route.isConnectedAt, Route.isFrom, Topology.connectedRoute, Stored.holds]⟩
    · cases hr

/-- The routes of a device once one of its interfaces has been looked at. -/
structure Reconnects (name : String) (d d' : Device) : Prop where
  same : d' = { d with routes := d'.routes }
  table : RouteTable d'.routes
  routes : ∀ r, r ∈ d'.routes ↔
    (r ∈ d.routes ∧ r.isConnectedAt name = false) ∨ d.connectedAt name = some r

end Device

namespace Topology

/-- Of a device whose connected routes at an interface are looked at anew they are put away, and one of its own may
be put in. -/
theorem withConnected_returns (d : Device) (name : String) {P : Device → Prop}
    (without : P { d with routes := d.routes.filter fun r => !r.isConnectedAt name })
    (put : ∀ n, Returns (fun routes => P { d with routes })
      (insertRoute (d.routes.filter fun r => !r.isConnectedAt name) (connectedRoute n name))) :
    Returns P (withConnected d name) := by
  unfold withConnected
  dsimp only
  split
  · split
    all_goals
      refine .after fun network => ?_
      cases network with
      | none => exact without
      | some n => exact (put n).bind fun _ h => h
  · exact without

theorem withConnected_reconnects {d : Device} {name : String} (h : InterfaceTable d.interfaces)
    (hroutes : RouteTable d.routes) :
    Yields (d.Reconnects name) (withConnected d name) := by
  have others : ∀ r, r ∈ (d.routes.filter fun r => !r.isConnectedAt name) ↔
      r ∈ d.routes ∧ r.isConnectedAt name = false := by
    intro r
    simp [List.mem_filter]
  have without (hnone : d.connectedAt name = none) :
      d.Reconnects name { d with routes := d.routes.filter fun r => !r.isConnectedAt name } := by
    refine ⟨rfl, hroutes.filter _, fun r => ?_⟩
    rw [hnone]
    exact (others r).trans (by simp)
  have replaced {n : Network} (hsome : d.connectedAt name = some (connectedRoute n name)) :
      Yields (d.Reconnects name) (do
        return { d with
          routes := ← insertRoute (d.routes.filter fun r => !r.isConnectedAt name)
            (connectedRoute n name) }) := by
    obtain ⟨hr, hat⟩ := Device.connectedAt_isRoute h hsome
    have apart : ∀ s ∈ d.routes.filter fun r => !r.isConnectedAt name,
        s.key = (connectedRoute n name).key → s = connectedRoute n name := by
      intro s hs heq
      obtain ⟨hmem, hnot⟩ := (others s).1 hs
      have way := IsRoute.sameWay_of_key_eq (hroutes.each s hmem) hr heq
      have : s.isConnectedAt name = true := by
        simp only [Route.sameWay, Bool.and_eq_true, decide_eq_true_eq] at way
        rw [← hat]
        unfold Route.isConnectedAt Route.isFrom
        rw [way.1.1.1.1, way.2]
      rw [this] at hnot
      cases hnot
    refine (insertRoute_yields (hroutes.filter _) hr apart).bind fun routes ⟨htable, hmem⟩ => ?_
    refine ⟨rfl, htable, fun r => ?_⟩
    rw [hsome]
    refine (hmem r).trans (or_congr (others r) ?_)
    simp [eq_comm]
  unfold withConnected
  cases hi : d.interfaces.get? name with
  | none => exact without (by simp [Device.connectedAt, hi])
  | some i =>
    simp only
    split
    · rename_i hup
      rw [(h.each name i hi).addressed.network?_eq, ok_bind]
      cases hn : i.net with
      | none => exact without (by simp [Device.connectedAt, hi, hn])
      | some n => exact replaced (by simp [Device.connectedAt, hi, hup, hn])
    · rename_i hup
      exact without (by simp [Device.connectedAt, hi, hup])

end Topology

/-! ## The routes of many interfaces -/

/-- The routes of a topology once some of its interfaces have been looked at. -/
structure Connected (es : List LinkEnd) (t u : Topology) : Prop where
  rerouted : Rerouted t u
  tables : ∀ k d', u.devices.get? k = some d' → RouteTable d'.routes
  neighbors : ∀ k d d', t.devices.get? k = some d → u.devices.get? k = some d' →
    d'.ospfNeighbors = d.ospfNeighbors
  others : ∀ k d d', t.devices.get? k = some d → u.devices.get? k = some d' →
    ∀ r : Route, r.isFrom .connected = false → (r ∈ d'.routes ↔ r ∈ d.routes)
  keeps : ∀ k d d', t.devices.get? k = some d → u.devices.get? k = some d' →
    ∀ name, d.Connects name → d'.Connects name
  connects : ∀ k d', u.devices.get? k = some d' → ∀ name, (⟨k, name⟩ : LinkEnd) ∈ es → d'.Connects name

theorem Device.Reconnects.connects {d d' : Device} {name : String} (h : d.Reconnects name d')
    (table : InterfaceTable d.interfaces) : d'.Connects name := by
  have same : d'.connectedAt name = d.connectedAt name := by
    unfold connectedAt
    rw [h.same]
  intro r
  rw [same, h.routes]
  constructor
  · rintro ⟨⟨-, hnot⟩ | hr, hat⟩
    · rw [hnot] at hat
      cases hat
    · exact hr
  · intro hr
    exact ⟨Or.inr hr, (connectedAt_isRoute table hr).2⟩

theorem Device.Reconnects.keeps {d d' : Device} {name other : String} (h : d.Reconnects name d')
    (table : InterfaceTable d.interfaces) (hd : d.Connects other) : d'.Connects other := by
  by_cases hn : other = name
  · rw [hn]
    exact h.connects table
  · have same : d'.connectedAt other = d.connectedAt other := by
      unfold connectedAt
      rw [h.same]
    have apart : ∀ r : Route, r.isConnectedAt other = true → r.isConnectedAt name = false := by
      intro r hr
      simp only [Route.isConnectedAt, Bool.and_eq_true, decide_eq_true_eq] at hr
      simp [Route.isConnectedAt, hr.2, hn]
    intro r
    rw [same, ← hd r, h.routes]
    constructor
    · rintro ⟨⟨hr, -⟩ | hr, hat⟩
      · exact ⟨hr, hat⟩
      · have := (connectedAt_isRoute table hr).2
        rw [apart r hat] at this
        cases this
    · rintro ⟨hr, hat⟩
      exact ⟨Or.inl ⟨hr, apart r hat⟩, hat⟩

/-- Routes that are not connected are left alone. -/
theorem Device.Reconnects.others {d d' : Device} {name : String} (h : d.Reconnects name d')
    (table : InterfaceTable d.interfaces) {r : Route} (hr : r.isFrom .connected = false) :
    r ∈ d'.routes ↔ r ∈ d.routes := by
  have hnot : r.isConnectedAt name = false := by simp [Route.isConnectedAt, hr]
  rw [h.routes]
  constructor
  · rintro (⟨hmem, -⟩ | hat)
    · exact hmem
    · have := (connectedAt_isRoute table hat).2
      rw [hnot] at this
      cases this
  · exact fun hmem => Or.inl ⟨hmem, hnot⟩

namespace Topology

theorem refreshConnected_connected {t : Topology} {e : LinkEnd} (h : t.Sound)
    (he : e.device ∈ t.devices.keys) : Yields (Connected [e] t) (refreshConnected t e) := by
  obtain ⟨d, hmem⟩ := Table.mem_keys.1 he
  have hd : t.devices.get? e.device = some d := Table.get?_eq_some.2 hmem
  have table := h.table hd
  have hroutes := (h.devices _ d hd).routes
  unfold refreshConnected
  rw [entry_eq hd, ok_bind]
  refine (withConnected_reconnects table hroutes).bind fun d' hd' => ?_
  have here : (t.modifyDevice e.device fun _ => d').devices.get? e.device = some d' := by
    rw [get?_modifyDevice, if_pos rfl, hd]
    rfl
  -- A device is the one that has been looked at, or another that is as it was.
  have cases_of {k : String} {x y : Device} (hx : t.devices.get? k = some x)
      (hy : (t.modifyDevice e.device fun _ => d').devices.get? k = some y) : (x = d ∧ y = d') ∨ y = x := by
    by_cases hk : k = e.device
    · subst hk
      rw [here] at hy
      rw [hd] at hx
      exact Or.inl ⟨(Option.some.inj hx).symm, (Option.some.inj hy).symm⟩
    · rw [get?_modifyDevice, if_neg hk, hx] at hy
      exact Or.inr (Option.some.inj hy).symm
  have rerouted : Rerouted t (t.modifyDevice e.device fun _ => d') := by
    refine Rerouted.of_modifyDevice fun x hx => ?_
    rw [hd] at hx
    cases hx
    rw [hd'.same]
  refine ⟨rerouted, ?_, ?_, ?_, ?_, ?_⟩
  · intro k y hy
    obtain ⟨x, hx, -⟩ := rerouted.devices k y hy
    rcases cases_of hx hy with ⟨-, rfl⟩ | rfl
    · exact hd'.table
    · exact (h.devices k y hx).routes
  · intro k x y hx hy
    rcases cases_of hx hy with ⟨rfl, rfl⟩ | rfl
    · rw [hd'.same]
    · rfl
  · intro k x y hx hy r hr
    rcases cases_of hx hy with ⟨rfl, rfl⟩ | rfl
    · exact hd'.others table hr
    · exact Iff.rfl
  · intro k x y hx hy name hname
    rcases cases_of hx hy with ⟨rfl, rfl⟩ | rfl
    · exact hd'.keeps table hname
    · exact hname
  · intro k y hy name hname
    cases List.mem_singleton.1 hname
    rw [here] at hy
    cases hy
    exact hd'.connects table

/-- Looking at interfaces leaves their connected routes as their state dictates. -/
theorem refreshConnected_fold {t : Topology} {es : List LinkEnd} (h : t.Sound)
    (hes : ∀ e ∈ es, e.device ∈ t.devices.keys) :
    Yields (Connected es t) (es.foldlM refreshConnected t) := by
  induction es generalizing t with
  | nil =>
    refine ⟨Rerouted.refl t, fun k d hd => (h.devices k d hd).routes, ?_, ?_, ?_, ?_⟩
    · intro k d d' hd hd'
      rw [hd] at hd'
      cases hd'
      rfl
    · intro k d d' hd hd' r _
      rw [hd] at hd'
      cases hd'
      rfl
    · intro k d d' hd hd' name hname
      rw [hd] at hd'
      cases hd'
      exact hname
    · intro k d' _ name hname
      cases hname
  | cons e es ih =>
    rw [List.foldlM_cons]
    refine (refreshConnected_connected h (hes e (by simp))).bind fun u hu => ?_
    have hu' : u.Sound := hu.rerouted.sound h hu.tables
    have hes' : ∀ x ∈ es, x.device ∈ u.devices.keys := by
      intro x hx
      rw [hu.rerouted.keys]
      exact hes x (by simp [hx])
    refine (ih hu' hes').imp fun v hv => ?_
    have middle : ∀ k d'', v.devices.get? k = some d'' → ∃ d', u.devices.get? k = some d' := by
      intro k d'' hd''
      obtain ⟨d', hd', -⟩ := hv.rerouted.devices k d'' hd''
      exact ⟨d', hd'⟩
    refine ⟨hu.rerouted.trans hv.rerouted, hv.tables, ?_, ?_, ?_, ?_⟩
    · intro k d d'' hd hd''
      obtain ⟨d', hd'⟩ := middle k d'' hd''
      exact (hv.neighbors k d' d'' hd' hd'').trans (hu.neighbors k d d' hd hd')
    · intro k d d'' hd hd'' r hr
      obtain ⟨d', hd'⟩ := middle k d'' hd''
      exact (hv.others k d' d'' hd' hd'' r hr).trans (hu.others k d d' hd hd' r hr)
    · intro k d d'' hd hd'' name hname
      obtain ⟨d', hd'⟩ := middle k d'' hd''
      exact hv.keeps k d' d'' hd' hd'' name (hu.keeps k d d' hd hd' name hname)
    · intro k d'' hd'' name hname
      obtain ⟨d', hd'⟩ := middle k d'' hd''
      rcases List.mem_cons.1 hname with heq | hname
      · exact hv.keeps k d' d'' hd' hd'' name (hu.connects k d' hd' name (by simp [heq]))
      · exact hv.connects k d'' hd'' name hname

end Topology

end NetRack
