import NetRack.Proofs.Propagation.Settled

/-!
# The outcome of propagation

If all but what a change is about is settled and sound, propagation of the change succeeds: the
outcome is settled and sound, OSPF is up to date in it unless nothing called for looking at it anew,
and what is not derived from the configuration is left alone.
-/

namespace NetRack

open InterfaceName (kindOf parentOf)

/-- A device without the state that propagation derives. -/
def Device.frame (d : Device) : Device :=
  { d with
    interfaces := d.interfaces.mapValues fun _ i => { i with operUp := false }
    routes := d.routes.filter fun r => !r.isDerived
    ospfNeighbors := [] }

theorem Device.static_frame (d : Device) :
    d.frame.routes.filter (·.isFrom .static) = d.routes.filter (·.isFrom .static) :=
  filter_filter_of_imp (fun _ static => by simp [Route.not_derived_of_static static]) d.routes

namespace Topology

variable {t u v : Topology}

/-- A topology without the state that propagation derives. -/
def frame (t : Topology) : Topology :=
  { t with
    devices := t.devices.mapValues fun _ d => d.frame
    links := t.links.map fun l => { l with up := false } }

theorem get?_frame (t : Topology) (k : String) : t.frame.devices.get? k = (t.devices.get? k).map Device.frame :=
  Table.get?_mapValues t.devices _ k

theorem frame_of_outline (h : u.outline = t.outline) : u.frame = t.frame := by
  have through (w : Topology) : w.frame = { w.outline with
      devices := w.outline.devices.mapValues fun _ d =>
        { d with routes := d.routes.filter fun r => !r.isDerived, ospfNeighbors := [] } } := by
    unfold frame outline
    rw [Table.mapValues_mapValues]
    rfl
  rw [through u, through t, h]

/-- What devices of one frame have in common. -/
theorem device_of_frame (h : u.frame = t.frame) {k : String} {d' : Device}
    (hd : u.devices.get? k = some d') : ∃ d, t.devices.get? k = some d ∧ d'.frame = d.frame := by
  have hk : u.frame.devices.get? k = t.frame.devices.get? k := by rw [h]
  rw [get?_frame, get?_frame, hd] at hk
  obtain ⟨d, hd', heq⟩ := Option.map_eq_some_iff.1 hk.symm
  exact ⟨d, hd', heq.symm⟩

end Topology

/-! ## Settled topologies with other routes -/

namespace Rerouted

variable {t u : Topology} (h : Rerouted t u)

include h

/-- The frame is left alone if the routes that are not derived are. -/
theorem frame (kept : ∀ k d d', t.devices.get? k = some d → u.devices.get? k = some d' →
    d'.routes.filter (fun r => !r.isDerived) = d.routes.filter fun r => !r.isDerived) :
    u.frame = t.frame := by
  refine Topology.eq_of_parts (Table.ext ?_ fun k => ?_) ?_ h.nextLinkId
  · simp [Topology.frame, h.keys]
  · rw [Topology.get?_frame, Topology.get?_frame]
    refine h.map_eq (fun k d d' hd hd' => ?_) k
    obtain ⟨d₀, hd₀, heq⟩ := h.devices k d' hd'
    rw [hd] at hd₀
    cases hd₀
    unfold Device.frame
    rw [kept k d d' hd hd', heq]
  · simp [Topology.frame, h.links]

theorem works (e : LinkEnd) : u.works e = t.works e := by
  unfold Topology.works
  rw [h.port?]

theorem isOn (e : LinkEnd) : u.isOn e = t.isOn e := by
  unfold Topology.isOn
  rw [h.port?]

theorem linkAt (e : LinkEnd) : u.linkAt e = t.linkAt e := by
  unfold Topology.linkAt
  rw [h.links]

theorem ports (hp : ∀ e, t.HasPort e → t.PortSettled e) (e : LinkEnd) (he : u.HasPort e) :
    u.PortSettled e := by
  obtain ⟨hport, hlink⟩ := hp e ⟨by rw [← h.port?]; exact he.1, he.2⟩
  refine ⟨by rw [h.works, h.linkAt, hport], fun l hl => ?_⟩
  rw [h.linkAt] at hl
  rw [h.isOn, h.isOn]
  exact hlink l hl

theorem obeys (ho : ∀ k d, t.devices.get? k = some d → d.Obeys) (k : String) (d' : Device)
    (hd' : u.devices.get? k = some d') : d'.Obeys := by
  obtain ⟨d, hd, heq⟩ := h.devices k d' hd'
  rw [heq]
  exact ho k d hd

end Rerouted

/-- Looking at connected routes leaves all others alone. -/
theorem Connected.frame {es : List LinkEnd} {t u : Topology} (hu : Connected es t u) (h : t.Sound) :
    u.frame = t.frame := by
  refine hu.rerouted.frame fun k d d' hd hd' => ?_
  refine (hu.tables k d' hd').filter_eq (h.devices k d hd).routes fun r hr => ?_
  exact hu.others k d d' hd hd' r (Route.not_derived (by simpa using hr)).1

namespace Topology

variable {t : Topology}

theorem connects_of_updated {d d' : Device} {result : OspfResult} (h : Updated d result d') {name : String}
    (hc : d.Connects name) : d'.Connects name := by
  have same : d'.connectedAt = d.connectedAt := Device.connectedAt_congr (by rw [h.same])
  intro r
  rw [same, ← hc r, h.routes]
  constructor
  · rintro ⟨⟨hr, -⟩ | hr, hat⟩
    · exact ⟨hr, hat⟩
    · unfold Route.isConnectedAt at hat
      rw [Route.isFrom_of_ne (h.real r hr) (by decide : RouteSource.ospf ≠ .connected)] at hat
      cases hat
  · rintro ⟨hr, hat⟩
    refine ⟨Or.inl ⟨hr, ?_⟩, hat⟩
    cases ho : r.isFrom .ospf with
    | false => rfl
    | true =>
      unfold Route.isConnectedAt at hat
      rw [Route.isFrom_of_ne ho (by decide : RouteSource.ospf ≠ .connected)] at hat
      cases hat

/-- Computing OSPF anew leaves the routes of other sources alone. -/
theorem Recomputed.frame {results : List OspfResult} {u : Topology} (hu : Recomputed t results u)
    (h : t.Sound) : u.frame = t.frame := by
  refine hu.rerouted.frame fun k d d' hd hd' => ?_
  have hup := hu.pair hd hd'
  refine hup.table.filter_eq (h.devices k d hd).routes fun r hr => ?_
  have plain := (Route.not_derived (by simpa using hr)).2
  rw [hup.routes]
  constructor
  · rintro (hmem | hmem)
    · exact hmem.1
    · rw [hup.real r hmem] at plain
      cases plain
  · exact fun hmem => Or.inl ⟨hmem, plain⟩

/-! ## The outcome -/

/-- What propagation of a change of ports comes to. -/
structure Propagated (t : Topology) (es : List LinkEnd) (routing : Bool) (r : Refresh) : Prop where
  sound : r.topology.Sound
  settled : r.topology.Settled
  frame : r.topology.frame = t.frame
  marks : ∀ e ∈ es, e.device ∈ t.devices.keys → e ∈ r.dirty
  current : r.dirty ≠ [] ∨ routing = true → r.topology.Current
  quiet : es = [] → r.dirty = [] → routing = false → r.topology = t

theorem mem_sortEnds {e : LinkEnd} {es : List LinkEnd} : e ∈ sortEnds es ↔ e ∈ es := mem_sortBy

/-- How far propagation has come once ports and other interfaces have been looked at. -/
structure Refreshed (t : Topology) (es : List LinkEnd) (r : Refresh) : Prop where
  refreshes : Refreshes ⟨t, []⟩ r
  ports : ∀ e, r.topology.HasPort e → r.topology.PortSettled e
  obeys : ∀ k d, r.topology.devices.get? k = some d → d.Obeys
  connects : ∀ k d, r.topology.devices.get? k = some d → ∀ name,
    (⟨k, name⟩ : LinkEnd) ∉ r.dirty → d.Connects name
  marks : ∀ e ∈ es, e.device ∈ t.devices.keys → e ∈ r.dirty
  quiet : es = [] → r.topology.links = t.links

theorem Refreshed.eq_of_quiet {es : List LinkEnd} {r : Refresh} (hr : Refreshed t es r) (hes : es = [])
    (hd : r.dirty = []) : r.topology = t := by
  refine eq_of_parts (Table.ext (keys_of_outline hr.refreshes.outline) fun k => ?_) (hr.quiet hes)
    (nextLinkId_of_outline hr.refreshes.outline)
  refine hr.refreshes.device_eq fun e he => ?_
  rw [hd] at he
  cases he

theorem refresh_yields (h : t.Sound) {es : List LinkEnd} {ks : List String} (hs : t.SettledBut es ks)
    (readable : ∀ e ∈ es, ∃ p, InterfaceName.split e.port = .ok p) :
    Yields (Refreshed t es) (do
      let r ← (sortEnds (distinct es)).foldlM refreshPort ⟨t, []⟩
      (sortTexts (distinct (r.dirty.map (·.device) ++ ks))).foldlM refreshLogical r) := by
  have looks : Yields (Looks (sortEnds (distinct es)) ⟨t, []⟩)
      ((sortEnds (distinct es)).foldlM refreshPort ⟨t, []⟩) := by
    refine (refreshPorts_looks (r := ⟨t, []⟩) h.toCabled).mono ?_ fun _ hr => hr
    rintro f ⟨e, he, hf⟩
    obtain ⟨p, hp⟩ := readable e (mem_distinct.1 (mem_sortEnds.1 he))
    rw [hp] at hf
    cases hf
  obtain ⟨r, hok, hr⟩ := looks.exists_ok
  rw [hok, ok_bind]
  have mem_es {e : LinkEnd} : e ∈ sortEnds (distinct es) ↔ e ∈ es := mem_sortEnds.trans mem_distinct
  have marks : ∀ e ∈ es, e.device ∈ t.devices.keys → e ∈ r.dirty :=
    fun e he hk => hr.marks e (mem_es.2 he) hk
  have ports : ∀ e, r.topology.HasPort e → r.topology.PortSettled e := by
    intro e he
    rcases hs.ports e ((hasPort_of_outline hr.refreshes.outline).1 he) with hset | ⟨p, hp, hhas, hreach⟩
    · exact hr.keeps e hset
    · exact hr.settles p (mem_es.2 hp) hhas e hreach
  have tables : ∀ k d, r.topology.devices.get? k = some d → InterfaceTable d.interfaces :=
    fun k d hd => (h.of_outline hr.refreshes.outline).table hd
  refine (refreshLogical_all tables).imp fun r' hr' => ?_
  have touched {k : String} : k ∈ sortTexts (distinct (r.dirty.map (·.device) ++ ks)) ↔
      (∃ e ∈ r.dirty, e.device = k) ∨ k ∈ ks := by
    unfold sortTexts
    rw [mem_sortBy, mem_distinct, List.mem_append, List.mem_map]
  have both : Refreshes ⟨t, []⟩ r' := hr.refreshes.trans hr'.refreshes
  refine ⟨both, ?_, ?_, ?_, fun e he hk => hr'.refreshes.dirty e (marks e he hk), ?_⟩
  · intro e he
    have hset := ports e ((hasPort_of_outline hr'.refreshes.outline).1 he)
    refine hset.congr hr'.refreshes.outline (hr'.physical e he.2) ?_
    unfold linkAt
    rw [hr'.links]
  · intro k d' hd'
    by_cases hk : k ∈ sortTexts (distinct (r.dirty.map (·.device) ++ ks))
    · exact hr'.obeys k d' hd' hk
    · have hnot := fun hh => hk (touched.2 hh)
      rw [hr'.others k hk, hr.refreshes.device_eq fun e he heq => hnot (Or.inl ⟨e, he, heq⟩)] at hd'
      rcases hs.obeys k d' hd' with hobeys | hks | ⟨p, hp, hpk⟩
      · exact hobeys
      · exact absurd (Or.inr hks) hnot
      · have hmem := marks p hp (hpk ▸ Table.mem_keys_of_get? hd')
        exact absurd (Or.inl ⟨p, hmem, hpk⟩) hnot
  · intro k d' hd' name hclean
    obtain ⟨d, hd, -, -⟩ := get?_of_outline both.outline hd'
    rcases hs.connects k d hd name with hc | hmem
    · exact both.connects hd hd' hclean hc
    · have hdirty := marks _ hmem (Table.mem_keys_of_get? hd)
      exact absurd (hr'.refreshes.dirty _ hdirty) hclean
  · rintro rfl
    cases hok
    exact hr'.links

/-- If all but what a change is about is settled, propagation of the change settles everything. -/
theorem propagatePorts_yields (h : t.Sound) {es : List LinkEnd} {ks : List String}
    (hs : t.SettledBut es ks) (readable : ∀ e ∈ es, ∃ p, InterfaceName.split e.port = .ok p)
    (routing : Bool) : Yields (Propagated t es routing) (t.propagatePorts es routing ks) := by
  unfold propagatePorts
  rw [← bind_assoc]
  refine (refresh_yields h hs readable).bind fun r hr => ?_
  have hsound : r.topology.Sound := h.of_outline hr.refreshes.outline
  have known : ∀ e ∈ sortEnds r.dirty, e.device ∈ r.topology.devices.keys := by
    intro e he
    rcases hr.refreshes.known e (mem_sortEnds.1 he) with hnil | hk
    · cases hnil
    · rw [keys_of_outline hr.refreshes.outline]
      exact hk
  obtain ⟨u, hok, hu⟩ := (refreshConnected_fold hsound known).exists_ok
  rw [hok, ok_bind]
  have husound : u.Sound := hu.rerouted.sound hsound hu.tables
  have husettled : u.Settled := by
    refine ⟨hu.rerouted.ports hr.ports, hu.rerouted.obeys hr.obeys, fun k d' hd' name => ?_⟩
    obtain ⟨d, hd, -⟩ := hu.rerouted.devices k d' hd'
    by_cases hdirty : (⟨k, name⟩ : LinkEnd) ∈ r.dirty
    · exact hu.connects k d' hd' name (mem_sortEnds.2 hdirty)
    · exact hu.keeps k d d' hd hd' name (hr.connects k d hd name hdirty)
  have huframe : u.frame = t.frame := (hu.frame hsound).trans (frame_of_outline hr.refreshes.outline)
  by_cases hre : (!r.dirty.isEmpty || routing) = true
  · rw [if_pos hre]
    obtain ⟨results, hresults, hyields⟩ := recomputeOspf_yields husound
    refine hyields.bind fun v hv => ?_
    have hvsettled : v.Settled := by
      refine ⟨hv.rerouted.ports husettled.ports, hv.rerouted.obeys husettled.obeys, fun k d'' hd'' name => ?_⟩
      obtain ⟨d, hd, hup⟩ := hv.device hd''
      exact connects_of_updated hup (husettled.connects k d hd name)
    dsimp only
    rw [hvsettled.verify (hv.sound husound), ok_bind]
    refine ⟨hv.sound husound, hvsettled, (hv.frame husound).trans huframe, hr.marks,
      fun _ => hv.current husound hresults, fun _ hd hf => ?_⟩
    rw [hd, hf] at hre
    cases hre
  · rw [if_neg hre, pure_eq_ok, ok_bind]
    dsimp only
    rw [husettled.verify husound, ok_bind]
    have hnone : r.dirty = [] ∧ routing = false := by simpa using hre
    refine ⟨husound, husettled, huframe, hr.marks, ?_, fun hes _ _ => ?_⟩
    · rintro (hd | hf)
      · exact absurd hnone.1 hd
      · rw [hnone.2] at hf
        cases hf
    · rw [hnone.1] at hok
      cases hok
      exact hr.eq_of_quiet hes hnone.1

/-- Where all is settled, there is nothing to be carried on. -/
theorem propagate_settled (h : t.Sound) (hs : t.Settled) {key : String} {d : Device}
    (hd : t.devices.get? key = some d) : t.propagate key [] false = .ok ⟨t, []⟩ := by
  have still : refreshLogical ⟨t, []⟩ key = .ok ⟨t, []⟩ :=
    refreshLogical_obeyed (r := ⟨t, []⟩) hd (h.table hd) (hs.obeys key d hd)
  show (refreshLogical ⟨t, []⟩ key >>= _) >>= _ = _
  rw [still, ok_bind]
  show (t.verify >>= _) = _
  rw [hs.verify h]
  rfl

end Topology

end NetRack
