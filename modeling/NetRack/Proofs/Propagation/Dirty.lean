import NetRack.Proofs.Ospf.Paths
import NetRack.Proofs.Propagation.Outcome

/-!
# What propagation leaves alone

Propagation says which ports are dirty.  In whatever state the lab is, also in one that no change leads to, this
is all there is to know: a port that is not dirty is as it was and has the connected routes that it had.  Nothing
that is configured changes, and no link goes up or down but at ports that were touched.
-/

namespace NetRack

/-! ## Configurations -/

namespace Topology

/-- What is configured in a topology, apart from its static routes. -/
def configuration (t : Topology) : Topology :=
  { t.frame with devices := t.frame.devices.mapValues fun _ d => { d with routes := [] } }

theorem configuration_of_outline {t u : Topology} (h : u.outline = t.outline) : u.configuration = t.configuration := by
  unfold configuration
  rw [frame_of_outline h]

end Topology

theorem Rerouted.configuration {t u : Topology} (h : Rerouted t u) : u.configuration = t.configuration := by
  refine Topology.eq_of_parts (Table.ext ?_ fun k => ?_) ?_ h.nextLinkId
  · simp [Topology.configuration, Topology.frame, h.keys]
  · simp only [Topology.configuration, Table.get?_mapValues, Topology.get?_frame, Option.map_map]
    refine h.map_eq (fun k d d' hd hd' => ?_) k
    obtain ⟨x, hx, heq⟩ := h.devices k d' hd'
    rw [hd] at hx
    cases hx
    rw [heq]
    rfl
  · simp [Topology.configuration, Topology.frame, h.links]

/-! ## Routes up to their order -/

/-- The same routes, in the same order or put in the order of their keys. -/
def Resorted (routes routes' : List Route) : Prop :=
  routes' = routes ∨ routes' = sortBy (keyLe Route.key) routes

namespace Resorted

variable {routes routes' routes'' : List Route}

theorem refl (routes : List Route) : Resorted routes routes := Or.inl rfl

theorem trans (h : Resorted routes routes') (h' : Resorted routes' routes'') : Resorted routes routes'' := by
  rcases h with rfl | rfl
  · exact h'
  · have order := sortBy_pairwise (keyLe_total Route.key) (keyLe_trans Route.key) routes
    unfold Resorted at h'
    rw [sortBy_of_pairwise order, or_self] at h'
    exact Or.inr h'

theorem filter (h : Resorted routes routes') (p : Route → Bool) : Resorted (routes.filter p) (routes'.filter p) := by
  rcases h with rfl | rfl
  · exact refl _
  · exact Or.inr (sortBy_filter (keyLe_total Route.key) (keyLe_trans Route.key) p routes)

theorem perm (h : Resorted routes routes') : routes'.Perm routes := by
  rcases h with rfl | rfl
  · exact List.Perm.refl _
  · exact sortBy_perm _ _

end Resorted

/-- A route that is put in may move the others, but not past each other if they are in order. -/
theorem insertRoute_resorted (routes : List Route) {r : Route} {p : Route → Bool} (hr : p r = false) :
    Returns (fun result => Resorted (routes.filter p) (result.filter p)) (insertRoute routes r) := by
  refine (insertRoute_returns routes r).imp fun result put => ?_
  rcases put with rfl | rfl
  · exact .refl _
  · have sorted : Resorted (routes ++ [r]) (sortBy (keyLe Route.key) (routes ++ [r])) := Or.inr rfl
    have others := sorted.filter p
    rw [List.filter_append, List.filter_cons_of_neg (by simp [hr]), List.filter_nil, List.append_nil] at others
    exact others

/-! ## Routes that are clean -/

/-- Whether a route of a device is neither computed by OSPF nor the connected route of a dirty port. -/
def Route.isClean (dirty : List LinkEnd) (key : String) (r : Route) : Bool :=
  !r.isFrom .ospf && !dirty.any fun e => e.device = key && r.isConnectedAt e.port

theorem Route.isClean_static (dirty : List LinkEnd) (key : String) {r : Route} (h : r.isFrom .static = true) :
    r.isClean dirty key = true := by
  have connected : r.isFrom .connected = false := r.isFrom_of_ne h (by decide)
  have ospf : r.isFrom .ospf = false := r.isFrom_of_ne h (by decide)
  simp [isClean, isConnectedAt, connected, ospf]

theorem Route.isClean_connected {dirty : List LinkEnd} {e : LinkEnd} (he : e ∉ dirty) {r : Route}
    (h : r.isConnectedAt e.port = true) : r.isClean dirty e.device = true := by
  obtain ⟨connected, here⟩ := (Bool.and_eq_true _ _).mp h
  have ospf : r.isFrom .ospf = false := r.isFrom_of_ne connected (by decide)
  have elsewhere : ∀ x ∈ dirty, x.device = e.device → r.isConnectedAt x.port = false := by
    intro x hx device
    have port : e.port ≠ x.port := by
      intro port
      refine he ?_
      cases e
      cases x
      cases device
      cases port
      exact hx
    unfold isConnectedAt
    rw [of_decide_eq_true here]
    simp [port]
  simp only [isClean, ospf, Bool.not_false, Bool.true_and, Bool.not_eq_true', List.any_eq_false]
  intro x hx
  by_cases device : x.device = e.device
  · simp [elsewhere x hx device]
  · simp [device]

namespace Device

/-- Two devices differ at most in OSPF neighbors and in routes of which a check does not hold. -/
structure Reroutes (p : Route → Bool) (d d' : Device) : Prop where
  same : d' = { d with routes := d'.routes, ospfNeighbors := d'.ospfNeighbors }
  kept : Resorted (d.routes.filter p) (d'.routes.filter p)

variable {p : Route → Bool}

theorem Reroutes.refl (d : Device) : d.Reroutes p d := ⟨rfl, .refl _⟩

end Device

namespace Topology

variable {t u v : Topology} {dirty : List LinkEnd}

/-- Two topologies differ at most in OSPF neighbors and in routes that are not clean. -/
structure ReroutesDirty (dirty : List LinkEnd) (t u : Topology) : Prop where
  rerouted : Rerouted t u
  kept : ∀ k d d', t.devices.get? k = some d → u.devices.get? k = some d' →
    Resorted (d.routes.filter (·.isClean dirty k)) (d'.routes.filter (·.isClean dirty k))

namespace ReroutesDirty

theorem refl (t : Topology) : ReroutesDirty dirty t t where
  rerouted := .refl t
  kept := by
    intro k d d' hd hd'
    rw [hd] at hd'
    cases hd'
    exact .refl _

theorem trans (h : ReroutesDirty dirty t u) (h' : ReroutesDirty dirty u v) : ReroutesDirty dirty t v where
  rerouted := h.rerouted.trans h'.rerouted
  kept := by
    intro k d d'' hd hd''
    obtain ⟨d', hd', -⟩ := h'.rerouted.devices k d'' hd''
    exact (h.kept k d d' hd hd').trans (h'.kept k d' d'' hd' hd'')

theorem mapValues {f : String → Device → Device}
    (hf : ∀ k d, t.devices.get? k = some d → d.Reroutes (·.isClean dirty k) (f k d)) :
    ReroutesDirty dirty t { t with devices := t.devices.mapValues f } := by
  have device {k : String} {d' : Device} (hd' : (t.devices.mapValues f).get? k = some d') :
      ∃ d, t.devices.get? k = some d ∧ d' = f k d := by
    rw [Table.get?_mapValues] at hd'
    obtain ⟨d, hd, heq⟩ := Option.map_eq_some_iff.1 hd'
    exact ⟨d, hd, heq.symm⟩
  refine ⟨⟨rfl, rfl, Table.keys_mapValues _ _, fun k d' hd' => ?_⟩, fun k d d' hd hd' => ?_⟩
  · obtain ⟨d, hd, rfl⟩ := device hd'
    exact ⟨d, hd, (hf k d hd).same⟩
  · obtain ⟨x, hx, rfl⟩ := device hd'
    rw [hd] at hx
    cases hx
    exact (hf k d hd).kept

theorem modifyDevice {key : String} {f : Device → Device}
    (hf : ∀ d, t.devices.get? key = some d → d.Reroutes (·.isClean dirty key) (f d)) :
    ReroutesDirty dirty t (t.modifyDevice key f) := by
  refine mapValues fun k d hd => ?_
  split
  · rename_i hk
    subst hk
    exact hf d hd
  · exact .refl d

/-- A device that has been read is put back with other routes. -/
theorem replaced {key : String} {d d' : Device} (hd : t.devices.get? key = some d)
    (h : d.Reroutes (·.isClean dirty key) d') : ReroutesDirty dirty t (t.modifyDevice key fun _ => d') := by
  refine modifyDevice fun x hx => ?_
  rw [hd] at hx
  cases hx
  exact h

end ReroutesDirty

/-! ## Connected routes -/

theorem withConnected_reroutes (d : Device) (name : String) {p : Route → Bool}
    (hp : ∀ r : Route, r.isConnectedAt name = true → p r = false) :
    Returns (d.Reroutes p) (withConnected d name) := by
  have others : (d.routes.filter fun r => !r.isConnectedAt name).filter p = d.routes.filter p := by
    refine filter_filter_of_imp (fun r hr => ?_) d.routes
    cases here : r.isConnectedAt name with
    | true => rw [hp r here] at hr; cases hr
    | false => rfl
  refine withConnected_returns d name ⟨rfl, ?_⟩ fun n => ?_
  · rw [others]
    exact .refl _
  · have new : p (connectedRoute n name) = false :=
      hp _ (by simp [Route.isConnectedAt, Route.isFrom, connectedRoute, Stored.holds])
    refine (insertRoute_resorted _ new).imp fun routes kept => ⟨rfl, ?_⟩
    rw [others] at kept
    exact kept

theorem refreshConnected_reroutes (t : Topology) {e : LinkEnd} (he : e ∈ dirty) :
    Returns (ReroutesDirty dirty t) (refreshConnected t e) := by
  have unclean : ∀ r : Route, r.isConnectedAt e.port = true → r.isClean dirty e.device = false := by
    intro r hr
    have found : (dirty.any fun x => x.device = e.device && r.isConnectedAt x.port) = true :=
      List.any_eq_true.2 ⟨e, he, by simp [hr]⟩
    simp [Route.isClean, found]
  exact (entry_returns t e.device).bind fun d hd =>
    (withConnected_reroutes d e.port unclean).bind fun d' hd' => ReroutesDirty.replaced hd hd'

/-! ## OSPF -/

theorem installRoutes_reroutes (edges : EdgeTable) (stubs : List (String × List (Network × Nat))) (r : OspfRouter)
    (d : Device) {p : Route → Bool} (hp : ∀ r : Route, r.isFrom .ospf = true → p r = false) :
    Returns (d.Reroutes p) (installRoutes edges stubs r d) := by
  unfold installRoutes
  split
  · exact .refl d
  · refine .after fun connected => ?_
    have computed : ∀ s ∈ (bestRoutes connected stubs (shortestPaths edges r.key)).map Prod.snd, p s = false := by
      intro s hs
      obtain ⟨x, hx, rfl⟩ := List.mem_map.1 hs
      obtain ⟨o, -, rfl⟩ := (bestRoutes_cheapest _ _ _).each x hx
      exact hp _ (by simp [Offer.route, ospfRoute, Route.isFrom, Stored.holds])
    have installed : Returns (fun routes => Resorted (d.routes.filter p) (routes.filter p))
        (((bestRoutes connected stubs (shortestPaths edges r.key)).map Prod.snd).foldlM insertRoute d.routes) :=
      Meets.foldlM (.refl _) fun routes s hs kept =>
        (insertRoute_resorted routes (computed s hs)).imp fun _ next => kept.trans next
    exact installed.bind fun routes kept => ⟨rfl, kept⟩

theorem recomputeOspf_reroutes (t : Topology) : Returns (ReroutesDirty dirty t) t.recomputeOspf := by
  have unclean {k : String} : ∀ r : Route, r.isFrom .ospf = true → r.isClean dirty k = false := by
    intro r hr
    simp [Route.isClean, hr]
  have cleared : ReroutesDirty dirty t { t with devices := t.devices.mapValues fun _ d => clearOspf d } := by
    refine .mapValues fun k d _ => ⟨rfl, ?_⟩
    have same : (clearOspf d).routes.filter (·.isClean dirty k) = d.routes.filter (·.isClean dirty k) :=
      filter_filter_of_imp (fun r clean => ((Bool.and_eq_true _ _).mp clean).1) d.routes
    rw [same]
    exact .refl _
  unfold recomputeOspf
  refine .after fun routers => ?_
  split
  · exact cleared
  · -- What routers and their adjacencies are found does not matter, only what is written of them.
    refine .after fun found => .after fun stubs => .foldlM ?_ fun u r hu => ?_
    · exact List.foldlRecOn found _ cleared fun u hu e _ =>
        hu.trans (.modifyDevice fun d _ => ⟨rfl, .refl _⟩)
    · exact (entry_returns u r.key).bind fun d hd =>
        (installRoutes_reroutes _ stubs r d unclean).bind fun d' hd' => hu.trans (.replaced hd hd')

end Topology

/-! ## Ports and links -/

/-- A link goes up or down at most at a port that was touched. -/
structure Link.Turned (es : List LinkEnd) (l l' : Link) : Prop where
  same : l' = { l with up := l'.up }
  touched : l'.up = l.up ∨ ∃ e ∈ es, l.touches (Topology.parentEnd e) = true

namespace Link.Turned

variable {es : List LinkEnd} {l l' l'' : Link}

theorem refl (l : Link) : Turned es l l := ⟨rfl, Or.inl rfl⟩

theorem trans (h : Turned es l l') (h' : Turned es l' l'') : Turned es l l'' where
  same := by
    have ends := h'.same
    rw [h.same] at ends
    exact ends
  touched := by
    rcases h'.touched with same | ⟨e, he, touches⟩
    · rw [same]
      exact h.touched
    · rw [h.same] at touches
      exact Or.inr ⟨e, he, touches⟩

theorem all_refl (ls : List Link) : List.Forall₂ (Turned es) ls ls := List.forall₂_same.2 fun l _ => refl l

theorem all_trans {ls ls' ls'' : List Link} (h : List.Forall₂ (Turned es) ls ls')
    (h' : List.Forall₂ (Turned es) ls' ls'') : List.Forall₂ (Turned es) ls ls'' := by
  induction h generalizing ls'' with
  | nil => exact h'
  | cons first _ ih =>
    obtain _ | ⟨first', rest'⟩ := h'
    exact .cons (first.trans first') (ih rest')

end Link.Turned

namespace Topology

variable {t u : Topology} {r r' r'' : Refresh} {es : List LinkEnd}

theorem setFirst_turned {e : LinkEnd} (he : e ∈ es) (up : Bool) (ls : List Link) :
    List.Forall₂ (Link.Turned es) ls (setLinkAt.setFirst (parentEnd e) up ls) := by
  induction ls with
  | nil => exact .nil
  | cons l rest ih =>
    unfold setLinkAt.setFirst
    split
    · rename_i touches
      exact .cons ⟨rfl, Or.inr ⟨e, he, touches⟩⟩ (Link.Turned.all_refl rest)
    · exact .cons (.refl l) ih

/-- What looking at ports anew keeps, also where they are not known to be cabled as they should be. -/
structure Turns (es : List LinkEnd) (r r' : Refresh) : Prop where
  refreshes : Refreshes r r'
  links : List.Forall₂ (Link.Turned es) r.topology.links r'.topology.links

namespace Turns

theorem refl (r : Refresh) : Turns es r r := ⟨.refl r, Link.Turned.all_refl _⟩

theorem trans (h : Turns es r r') (h' : Turns es r' r'') : Turns es r r'' :=
  ⟨h.refreshes.trans h'.refreshes, Link.Turned.all_trans h.links h'.links⟩

theorem mark {e : LinkEnd} (h : e.device ∈ r.topology.devices.keys) : Turns es r (r.mark e) where
  refreshes := Refresh.mark_refreshes h
  links := by
    rw [Refresh.topology_mark]
    exact Link.Turned.all_refl _

theorem setOper {e : LinkEnd} (h : e.device ∈ r.topology.devices.keys) (up : Bool) :
    Turns es r (r.setOper e up) where
  refreshes := Refresh.setOper_refreshes h
  links := by
    rw [Refresh.topology_setOper]
    exact Link.Turned.all_refl _

end Turns

theorem interface_returns (t : Topology) (e : LinkEnd) :
    Returns (fun _ => e.device ∈ t.devices.keys) (t.interface e) :=
  (entry_returns t e.device).bind fun _ hd => .always fun _ => Table.mem_keys_of_get? hd

theorem refreshPhysical_turns {e : LinkEnd} (he : e ∈ es) (hk : e.device ∈ r.topology.devices.keys) :
    Returns (Turns es r) (refreshPhysical r (parentEnd e)) := by
  unfold refreshPhysical
  cases r.topology.linkAt (parentEnd e) with
  | none => exact (Turns.setOper (e := parentEnd e) hk false : Turns es r _)
  | some l =>
    have both : Returns (fun _ => l.a.device ∈ r.topology.devices.keys) (r.topology.bothEndsOn l) :=
      (interface_returns r.topology l.a).bind fun i ha => .always fun _ => ha
    refine both.bind fun up ha => (interface_returns r.topology l.b).bind fun j hb => ?_
    show Turns es r (switchLink r (parentEnd e) l up)
    refine ⟨switchLink_refreshes ha hb, ?_⟩
    rw [topology_switchLink]
    exact setFirst_turned he up r.topology.links

theorem refreshPort_turns {e : LinkEnd} (he : e ∈ es) : Returns (Turns es r) (refreshPort r e) := by
  unfold refreshPort
  cases hd : r.topology.devices.get? e.device with
  | none => exact Turns.refl r
  | some d =>
    have hk : e.device ∈ r.topology.devices.keys := Table.mem_keys_of_get? hd
    have marked : Turns es r (r.mark e) := .mark hk
    have parent : Returns (· = (InterfaceName.parentOf e.port, InterfaceName.subOf e.port))
        (InterfaceName.split e.port) := (InterfaceName.split_meets e.port).mono (fun _ _ => trivial) fun _ hp => hp
    refine parent.bind ?_
    rintro p rfl
    dsimp only
    split
    · rw [InterfaceName.kind_parentOf, ok_bind]
      split
      · rw [← Refresh.topology_mark r e] at hk
        exact (refreshPhysical_turns he hk).imp fun _ physical => marked.trans physical
      · exact marked
    · exact marked

/-! ## Interfaces that are not physical -/

/-- Every interface is stored under its own name. -/
def OwnNames (t : Topology) : Prop := ∀ d ∈ t.devices.values, ∀ e ∈ d.interfaces.entries, e.2.name = e.1

instance (t : Topology) : Decidable t.OwnNames :=
  inferInstanceAs (Decidable (∀ d ∈ t.devices.values, ∀ e ∈ d.interfaces.entries, e.2.name = e.1))

theorem OwnNames.of_outline (h : t.OwnNames) (ho : u.outline = t.outline) : u.OwnNames := by
  intro d' hd' e he
  obtain ⟨k, hk⟩ := Table.mem_values.1 hd'
  obtain ⟨d, hd, -, interfaces⟩ := get?_of_outline ho hk
  obtain ⟨i, hi, same⟩ := interface_of_outline interfaces (Table.get?_eq_some.2 he)
  have own : i.name = e.1 := h d (Table.mem_values.2 ⟨k, hd⟩) (e.1, i) (Table.get?_eq_some.1 hi)
  rw [same]
  exact own

theorem sortedEntries_returns (d : Device) :
    Returns (fun entries => ∀ e ∈ entries, e ∈ d.interfaces.entries) d.sortedEntries := by
  refine .of_value fun entries h e he => ?_
  obtain ⟨keyed, hkeyed, heq⟩ := bind_eq_ok.1 h
  cases heq
  obtain ⟨x, hx, rfl⟩ := List.mem_map.1 he
  rw [← (keyed_eq_ok hkeyed).1]
  exact List.mem_map_of_mem (mem_sortBy.1 hx)

theorem refreshLogicalOne_turns (device : String) {e : String × Interface} (own : e.2.name = e.1) :
    Returns (Turns es r) (refreshLogicalOne device r e) := by
  unfold refreshLogicalOne
  refine .after fun kind => ?_
  split
  · exact Turns.refl r
  · refine (entry_returns r.topology device).bind fun d hd => .after fun up => ?_
    split
    · exact Turns.refl r
    · -- The port that changes is the one that is marked, for the interface has its own name.
      rw [own]
      exact Turns.setOper (e := ⟨device, e.1⟩) (Table.mem_keys_of_get? hd) up

theorem refreshLogical_turns (own : r.topology.OwnNames) (device : String) :
    Returns (Turns es r) (refreshLogical r device) := by
  unfold refreshLogical
  cases hd : r.topology.devices.get? device with
  | none => exact Turns.refl r
  | some d =>
    refine (sortedEntries_returns d).bind fun entries mem => Meets.foldlM (.refl r) fun r' e he turned => ?_
    have name : e.2.name = e.1 := own d (Table.mem_values.2 ⟨device, hd⟩) e (mem e he)
    exact (refreshLogicalOne_turns device name).imp fun _ next => turned.trans next

/-! ## Propagation -/

/-- What propagation leaves alone when ports are touched and some are dirty in the end: the configuration, with
static routes up to their order, the state of links that are not at a port that was touched, and ports that are
not dirty, with their connected routes. -/
structure SparesClean (es dirty : List LinkEnd) (t u : Topology) : Prop where
  configuration : u.configuration = t.configuration
  statics : ∀ k d d', t.devices.get? k = some d → u.devices.get? k = some d' →
    (d'.routes.filter (·.isFrom .static)).Perm (d.routes.filter (·.isFrom .static))
  links : List.Forall₂ (fun l l' : Link => l'.up = l.up ∨ ∃ e ∈ es, l.touches (parentEnd e) = true) t.links u.links
  clean : ∀ e, e ∉ dirty → u.port? e = t.port? e
  connected : ∀ e, e ∉ dirty → ∀ d d', t.devices.get? e.device = some d → u.devices.get? e.device = some d' →
    Resorted (d.routes.filter (·.isConnectedAt e.port)) (d'.routes.filter (·.isConnectedAt e.port))

/-- What the two halves of propagation leave alone, propagation does. -/
theorem Turns.spares (h : Turns es ⟨t, []⟩ r) (h' : ReroutesDirty r.dirty r.topology u) :
    SparesClean es r.dirty t u := by
  have kept {k : String} {d d' : Device} (hd : t.devices.get? k = some d) (hd' : u.devices.get? k = some d')
      {p : Route → Bool} (hp : ∀ x, p x = true → x.isClean r.dirty k = true) :
      Resorted (d.routes.filter p) (d'.routes.filter p) := by
    obtain ⟨m, hm, -⟩ := h'.rerouted.devices k d' hd'
    obtain ⟨x, hx, same, -⟩ := get?_of_outline h.refreshes.outline hm
    rw [hd] at hx
    cases hx
    have routes : m.routes = d.routes := by rw [same]
    have both := (h'.kept k m d' hm hd').filter p
    rwa [filter_filter_of_imp hp, filter_filter_of_imp hp, routes] at both
  refine ⟨?_, fun k d d' hd hd' => ?_, ?_, fun e he => ?_, fun e he d d' hd hd' => ?_⟩
  · exact h'.rerouted.configuration.trans (configuration_of_outline h.refreshes.outline)
  · exact (kept hd hd' fun _ static => Route.isClean_static r.dirty k static).perm
  · rw [h'.rerouted.links]
    exact h.links.imp fun _ _ turned => turned.touched
  · rw [h'.rerouted.port?]
    exact h.refreshes.clean e he
  · exact kept hd hd' fun _ here => Route.isClean_connected he here

theorem propagatePorts_returns (own : t.OwnNames) (es : List LinkEnd) (routing : Bool) (ks : List String) :
    Returns (fun r => SparesClean es r.dirty t r.topology) (t.propagatePorts es routing ks) := by
  have ports : Returns (Turns es ⟨t, []⟩) ((sortEnds (distinct es)).foldlM refreshPort ⟨t, []⟩) :=
    Meets.foldlM (.refl _) fun r e he turned =>
      (refreshPort_turns (mem_distinct.1 (mem_sortBy.1 he))).imp fun _ next => turned.trans next
  unfold propagatePorts
  refine ports.bind fun r turned => ?_
  have others : Returns (Turns es ⟨t, []⟩)
      ((sortTexts (distinct (r.dirty.map (·.device) ++ ks))).foldlM refreshLogical r) :=
    .foldlM turned fun r k turned =>
      (refreshLogical_turns (own.of_outline turned.refreshes.outline) k).imp fun _ next => turned.trans next
  refine others.bind fun r turned => ?_
  have connected : Returns (ReroutesDirty r.dirty r.topology) ((sortEnds r.dirty).foldlM refreshConnected r.topology) :=
    Meets.foldlM (.refl _) fun u e he rerouted =>
      (refreshConnected_reroutes u (mem_sortBy.1 he)).imp fun _ next => rerouted.trans next
  refine connected.bind fun u rerouted => ?_
  have checked (v : Topology) (rerouted : ReroutesDirty r.dirty r.topology v) :
      Returns (fun r => SparesClean es r.dirty t r.topology) (do v.verify; return (⟨v, r.dirty⟩ : Refresh)) :=
    .after fun _ => turned.spares rerouted
  dsimp only
  split
  · exact (recomputeOspf_reroutes u).bind fun v recomputed => checked v (rerouted.trans recomputed)
  · exact checked u rerouted

/-- Whatever is touched in a lab with interfaces under their own names, and whatever state it is in: if propagation
comes to an end, all that it has not said to be dirty is as it was. -/
theorem propagatePorts_spares (own : t.OwnNames) {es : List LinkEnd} {routing : Bool} {ks : List String}
    (h : t.propagatePorts es routing ks = .ok r) : SparesClean es r.dirty t r.topology :=
  (propagatePorts_returns own es routing ks).value h

/-- An interface that is switched on. -/
def switchedOn (name : String) (ip : Option String) (operUp : Bool) : Interface :=
  { name, ip, operUp, adminUp := true, mask := some "255.255.255.0" }

/-- Two routers on one cable, which no change has been carried on in: the cable is down although its ends are
switched on, a loopback does not work, and the other one has the connected route of an address that it had. -/
def staleLab : Topology where
  devices := .ofList [
    ("R1", {
      id := "R1", type := .known .router, hostname := "R1"
      interfaces := .ofList [
        ("GigabitEthernet0/0", switchedOn "GigabitEthernet0/0" (some "10.0.0.1") false),
        ("GigabitEthernet0/0.7", switchedOn "GigabitEthernet0/0.7" none false),
        ("Loopback0", switchedOn "Loopback0" (some "10.7.0.1") true)]
      routes := [
        connectedRoute (.around ⟨0x0A090001⟩ 24) "Loopback0",
        staticRoute (.around ⟨0x0A080000⟩ 24) (.hop ⟨0x0A000002⟩) 1] }),
    ("R2", {
      id := "R2", type := .known .router, hostname := "R2"
      interfaces := .ofList [
        ("GigabitEthernet0/0", switchedOn "GigabitEthernet0/0" (some "10.0.0.2") false),
        ("Loopback0", switchedOn "Loopback0" (some "10.7.1.1") false)] })]
  links := [{ id := "L1", a := ⟨"R1", "GigabitEthernet0/0"⟩, b := ⟨"R2", "GigabitEthernet0/0"⟩ }]
  nextLinkId := 2

/-- A subinterface is touched: the cable at its parent goes up, and the loopback across it is dirty with the rest.
The other loopback is not, and keeps a route that it should not have. -/
theorem staleLab_spares : ∃ r,
    staleLab.propagatePorts [⟨"R1", "GigabitEthernet0/0.7"⟩] false [] = .ok r ∧
      r.dirty = [⟨"R1", "GigabitEthernet0/0.7"⟩, ⟨"R1", "GigabitEthernet0/0"⟩, ⟨"R2", "GigabitEthernet0/0"⟩,
        ⟨"R2", "Loopback0"⟩] ∧
      SparesClean [⟨"R1", "GigabitEthernet0/0.7"⟩] r.dirty staleLab r.topology := by
  have own : staleLab.OwnNames := by decide +kernel
  have done : ((·.dirty) <$> staleLab.propagatePorts [⟨"R1", "GigabitEthernet0/0.7"⟩] false []).toOption =
      some [⟨"R1", "GigabitEthernet0/0.7"⟩, ⟨"R1", "GigabitEthernet0/0"⟩, ⟨"R2", "GigabitEthernet0/0"⟩,
        ⟨"R2", "Loopback0"⟩] := by decide +kernel
  obtain ⟨r, returned, dirty⟩ := map_eq_ok.1 (toOption_eq_some.1 done)
  exact ⟨r, returned, dirty, propagatePorts_spares own returned⟩

end Topology

end NetRack
