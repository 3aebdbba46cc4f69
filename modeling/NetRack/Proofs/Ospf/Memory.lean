import NetRack.Proofs.Console.Settle

/-!
# OSPF and remembered VLANs

OSPF may have been computed when other VLANs were known than now.  A topology is looked at here with
the tables of VLANs as they were remembered.  That OSPF is up to date with these survives that a device
is added, and what a command does that touches nothing and says nothing about routing: such a command
may change which VLANs are known, but nothing else that OSPF sees.
-/

namespace NetRack

/-- The VLANs that are remembered of each device. -/
abbrev VlanMemory := Table String (Table Int String)

/-- A command that touches nothing and says nothing about routing may change which VLANs are known, but
nothing else that OSPF sees. -/
theorem Reports.view_of_quiet {d : Device} {o : Outcome} (ho : Reports d o) (touched : o.touched = [])
    (routing : o.routing = false) (h : d.Sound) (vlans : Table Int String) :
    ({ o.device with vlans := vlans } : Device).view = ({ d with vlans := vlans } : Device).view := by
  obtain ⟨keys, ospf⟩ := ho.quiet touched routing
  have interfaces : o.device.interfaces.mapValues (fun _ i => i.wiring) =
      d.interfaces.mapValues fun _ i => i.wiring := by
    refine Table.ext ?_ fun k => ?_
    · rw [Table.keys_mapValues, Table.keys_mapValues, keys]
    · rw [Table.get?_mapValues, Table.get?_mapValues]
      refine ho.wiring k ?_
      rw [touched]
      exact List.not_mem_nil
  have connected : o.device.routes.filter (·.isFrom .connected) = d.routes.filter (·.isFrom .connected) := by
    refine (ho.sound.routes.filter _).eq_of_mem_iff (h.routes.filter _) fun r => ?_
    rw [List.mem_filter, List.mem_filter]
    refine and_congr_left fun hr => ho.routes r ?_
    exact Route.isFrom_of_ne hr (by decide : RouteSource.connected ≠ .static)
  unfold Device.view
  simp only [ho.id, ho.type, interfaces, connected, ospf]

namespace Topology

/-- The VLANs that a device has in a memory; those that it knows if it is not remembered. -/
def vlansIn (seen : VlanMemory) (key : String) (d : Device) : Table Int String :=
  (seen.get? key).getD d.vlans

/-- The topology with the VLANs that are remembered. -/
def withVlans (t : Topology) (seen : VlanMemory) : Topology :=
  { t with devices := t.devices.mapValues fun k d => { d with vlans := vlansIn seen k d } }

/-- The VLANs that are known now. -/
def knownVlans (t : Topology) : VlanMemory := t.devices.mapValues fun _ d => d.vlans

variable {t u : Topology} {seen : VlanMemory} {key : String}

/-! ## Remembering -/

theorem get?_withVlans (t : Topology) (seen : VlanMemory) (k : String) :
    (t.withVlans seen).devices.get? k =
      (t.devices.get? k).map fun d => { d with vlans := vlansIn seen k d } :=
  Table.get?_mapValues t.devices _ k

theorem keys_withVlans (t : Topology) (seen : VlanMemory) :
    (t.withVlans seen).devices.keys = t.devices.keys := Table.keys_mapValues _ _

theorem port?_withVlans (t : Topology) (seen : VlanMemory) (e : LinkEnd) :
    (t.withVlans seen).port? e = t.port? e := by
  unfold port?
  rw [get?_withVlans]
  cases t.devices.get? e.device <;> rfl

/-- With the VLANs that are known now a topology is what it is. -/
theorem withVlans_knownVlans (t : Topology) : t.withVlans t.knownVlans = t := by
  unfold withVlans knownVlans
  rw [Table.mapValues_id fun k d hmem => ?_]
  unfold vlansIn
  rw [Table.get?_mapValues, Table.get?_eq_some.2 hmem]
  rfl

/-- What matters of a memory is what it has for the devices that there are. -/
theorem withVlans_congr {seen' : VlanMemory}
    (h : ∀ k d, t.devices.get? k = some d → vlansIn seen' k d = vlansIn seen k d) :
    t.withVlans seen' = t.withVlans seen := by
  unfold withVlans
  rw [Table.mapValues_congr fun k d hmem => ?_]
  rw [h k d (Table.get?_eq_some.2 hmem)]

theorem withVlans_sound (h : t.Sound) (seen : VlanMemory) : (t.withVlans seen).Sound where
  ends := by
    intro l hl e he
    obtain ⟨hport, hphys⟩ := h.ends l hl e he
    exact ⟨by rw [port?_withVlans]; exact hport, hphys⟩
  apart := h.apart
  devices := by
    intro k d' hd'
    rw [get?_withVlans] at hd'
    obtain ⟨d, hd, rfl⟩ := Option.map_eq_some_iff.1 hd'
    have hs := h.devices k d hd
    exact ⟨hs.typed, hs.interfaces, hs.routes, hs.lists, hs.statements, hs.pools, hs.process, hs.tags⟩
  identified := by
    intro k d' hd'
    rw [get?_withVlans] at hd'
    obtain ⟨d, hd, rfl⟩ := Option.map_eq_some_iff.1 hd'
    exact h.identified k d hd
  trimmed := by
    rw [keys_withVlans]
    exact h.trimmed
  numbered := h.numbered
  ids := h.ids
  positive := h.positive

/-- If OSPF is up to date with the VLANs that are remembered, it is so with those that are known exactly
if it comes to the same with either. -/
theorem recomputeOspf_eq_self_iff_withVlans (h : t.Sound) (hc : (t.withVlans seen).Current) :
    t.recomputeOspf = .ok t ↔ (·.withVlans seen) <$> t.recomputeOspf = (t.withVlans seen).recomputeOspf := by
  rw [(recomputeOspf_eq_self_iff (withVlans_sound h seen)).2 hc]
  obtain ⟨results, -, hyields⟩ := recomputeOspf_yields h
  obtain ⟨u, hok, hu⟩ := hyields.exists_ok
  rw [hok, map_ok, Except.ok.injEq, Except.ok.injEq]
  constructor
  · intro heq
    rw [heq]
  · intro heq
    refine hu.rerouted.eq_self fun k d d' hd hd' => ?_
    have same : (u.withVlans seen).devices.get? k = (t.withVlans seen).devices.get? k := by rw [heq]
    rw [get?_withVlans, get?_withVlans, hd, hd', Option.map_some, Option.map_some, Option.some_inj] at same
    have vlans : d'.vlans = d.vlans := by rw [(hu.pair hd hd').same]
    have whole : ({ d' with vlans := d.vlans } : Device) = d :=
      congrArg (fun x : Device => { x with vlans := d.vlans }) same
    rwa [← vlans] at whole

/-! ## A device that is added -/

section NewDevice

variable {d : Device}

theorem OspfParts.house {routers : List OspfRouter} {adjacent : OspfRouter → List (OspfNeighbor × Edge)}
    {networks : OspfRouter → List (Network × Nat)} {routes : OspfRouter → List Route}
    (p : OspfParts t routers adjacent networks routes) (h : t.Sound) (fresh : key ∉ t.devices.keys)
    (noProcess : d.ospf = none) : OspfParts (t.house key d) routers adjacent networks routes where
  found := by
    have entries : (t.house key d).devices.entries = t.devices.entries ++ [(key, d)] := by
      show (t.devices.insert key d).entries = _
      unfold Table.insert
      rw [dif_neg fresh]
    have found := p.found
    unfold ospfRouters at found ⊢
    rw [entries, List.filterMap_append]
    simpa [noProcess] using found
  apart := p.apart
  within := by
    intro r hr
    obtain ⟨hd, hc⟩ := p.within r hr
    have hne : r.key ≠ key := fun heq => fresh (heq ▸ Table.mem_keys_of_get? hd)
    exact ⟨by rw [get?_house, if_neg hne]; exact hd, hc⟩
  adjacencies := by
    intro r hr
    obtain ⟨hd, -⟩ := p.within r hr
    have table := h.table hd
    rw [← p.adjacencies r hr]
    unfold Topology.adjacencies
    cases r.id with
    | none => rfl
    | some id =>
      dsimp only
      rw [Device.sortedInterfaces_of_table table, ok_bind, ok_bind]
      have each : ∀ i ∈ r.device.ordered.map Prod.snd,
          (t.house key d).adjacenciesAt routers r id i = t.adjacenciesAt routers r id i := by
        intro i hi
        have hport : t.port? ⟨r.key, i.name⟩ = some i :=
          (port?_of_get? hd).trans ((Device.mem_ordered_values table).1 hi)
        have domains : (t.house key d).domain ⟨r.key, i.name⟩ = t.domain ⟨r.key, i.name⟩ :=
          domain_insert h fresh d hport
        unfold adjacenciesAt
        rw [domains]
      rw [mapM_congr each]
  advertised := p.advertised
  computed := p.computed
  real := p.real

/-- A device without a process that is added leaves OSPF up to date. -/
theorem Current.house (hc : t.Current) (h : t.Sound) (fresh : key ∉ t.devices.keys) (noProcess : d.ospf = none)
    (noNeighbors : d.ospfNeighbors = []) (noRoutes : d.routes = []) : (t.house key d).Current := by
  obtain ⟨routers, adjacent, networks, routes, p⟩ := ospfParts_exist h
  obtain ⟨results, hresults, hdevices⟩ := hc
  rw [p.results] at hresults
  cases hresults
  refine ⟨_, (p.house h fresh noProcess).results, fun k d' hd' => ?_⟩
  rw [get?_house] at hd'
  split at hd'
  · rename_i hk
    cases hd'
    have unknown : (sortBy (keyLe OspfRouter.key) routers).find? (OspfRouter.key · = k) = none := by
      refine List.find?_eq_none.2 fun r hr heq => fresh ?_
      obtain ⟨hd, -⟩ := p.within r (mem_sortBy.1 hr)
      rw [← hk, ← of_decide_eq_true heq]
      exact Table.mem_keys_of_get? hd
    rw [resultFor_resultsOf, unknown, noNeighbors, noRoutes]
    exact ⟨rfl, fun r _ => Iff.rfl⟩
  · exact hdevices k d' hd'

theorem house_withVlans (t : Topology) (d : Device) (unseen : seen.get? key = none) :
    (t.house key d).withVlans seen = (t.withVlans seen).house key d := by
  refine eq_of_parts (Table.ext ?_ fun k => ?_) rfl rfl
  · rw [keys_withVlans]
    show (t.devices.insert key d).keys = ((t.withVlans seen).devices.insert key d).keys
    rw [Table.keys_insert, Table.keys_insert, keys_withVlans]
  · rw [get?_withVlans, get?_house, get?_house, get?_withVlans]
    split
    · rename_i hk
      rw [hk, Option.map_some]
      unfold vlansIn
      rw [unseen]
      rfl
    · rfl

end NewDevice

/-! ## A command that calls for nothing -/

/-- OSPF stays up to date with remembered VLANs if a command calls for nothing. -/
theorem Current.replaced {d : Device} {o : Outcome} (hc : (t.withVlans seen).Current) (h : t.Sound)
    (hd : t.devices.get? key = some d) (known : key ∈ seen.keys) (ho : Reports d o)
    (touched : o.touched = []) (routing : o.routing = false) :
    ((t.replaced key o.device).withVlans seen).Current := by
  obtain ⟨vlans, hmem⟩ := Table.mem_keys.1 known
  have hvlans : seen.get? key = some vlans := Table.get?_eq_some.2 hmem
  have here (x : Device) : vlansIn seen key x = vlans := by
    unfold vlansIn
    rw [hvlans]
    rfl
  have devices (k : String) : ((t.replaced key o.device).withVlans seen).devices.get? k =
      if k = key then some { o.device with vlans := vlans } else (t.withVlans seen).devices.get? k := by
    rw [get?_withVlans]
    split
    · rename_i hk
      rw [hk, get?_replaced_self hd, Option.map_some, here]
    · rename_i hk
      rw [get?_replaced_of_ne hk, get?_withVlans]
  have before : (t.withVlans seen).devices.get? key = some { d with vlans := vlans } := by
    rw [get?_withVlans, hd, Option.map_some, here]
  refine hc.of_view ?_ fun k d' hd' => ?_
  · refine eq_of_parts (Table.ext ?_ fun k => ?_) rfl rfl
    · show (((t.replaced key o.device).withVlans seen).devices.mapValues _).keys =
        ((t.withVlans seen).devices.mapValues _).keys
      rw [Table.keys_mapValues, Table.keys_mapValues, keys_withVlans, keys_withVlans]
      exact Table.keys_modify _ _ _
    · rw [get?_devices_view, get?_devices_view, devices]
      split
      · rename_i hk
        rw [hk, before, Option.map_some, Option.map_some,
          ho.view_of_quiet touched routing (h.devices key d hd)]
      · rfl
  · rw [devices] at hd'
    split at hd'
    · rename_i hk
      cases hd'
      rw [hk]
      refine ⟨_, before, ho.neighbors, fun r hr => ho.routes r ?_⟩
      exact Route.isFrom_of_ne hr (by decide : RouteSource.ospf ≠ .static)
    · exact ⟨d', hd', rfl, fun _ _ => Iff.rfl⟩

end Topology

end NetRack
