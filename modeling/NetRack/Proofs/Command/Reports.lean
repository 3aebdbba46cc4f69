import NetRack.Proofs.Console.Seat
import NetRack.Proofs.Propagation.Outcome

/-!
# What commands report

A command may change the wiring of an interface only if it reports the interface as touched, and
routes that are not static not at all.  If it touches nothing and says nothing about routing, then
what OSPF sees of the device is left alone, except for the table of VLANs: a VLAN that comes or goes
is not reported.
-/

namespace NetRack

open Outcome

/-- The device after a command is sound, and differs from the one before only as the command reports. -/
structure Reports (d : Device) (o : Outcome) : Prop where
  sound : o.device.Sound
  id : o.device.id = d.id
  type : o.device.type = d.type
  kept : ∀ k ∈ d.interfaces.keys, k ∈ o.device.interfaces.keys
  touched : ∀ k ∈ o.touched, k ∈ o.device.interfaces.keys
  wiring : ∀ k, k ∉ o.touched →
    (o.device.interfaces.get? k).map Interface.wiring = (d.interfaces.get? k).map Interface.wiring
  routes : ∀ r : Route, r.isFrom .static = false → (r ∈ o.device.routes ↔ r ∈ d.routes)
  neighbors : o.device.ospfNeighbors = d.ospfNeighbors
  quiet : o.touched = [] → o.routing = false →
    o.device.interfaces.keys = d.interfaces.keys ∧ o.device.ospf = d.ospf

/-- A command reports in full and leaves the console where it can be. -/
structure Delivers (d : Device) (o : Outcome) : Prop extends Reports d o where
  seated : o.device.Seated

/-- Two devices agree in what others depend on, but for what is configured of OSPF. -/
structure Device.SameNet (d d' : Device) : Prop where
  id : d'.id = d.id
  type : d'.type = d.type
  interfaces : d'.interfaces = d.interfaces
  routes : d'.routes = d.routes
  neighbors : d'.ospfNeighbors = d.ospfNeighbors

namespace Reports

variable {d : Device} {o : Outcome}

/-- A change of access lists, OSPF statements or pools. -/
theorem aside (h : d.Sound) (same : d.SameNet o.device) (lists : ReadableLists o.device.acls)
    (statements : ∀ c, o.device.ospf = some c → ∀ n ∈ c.networks, n.Readable)
    (pools : ReadablePools o.device.dhcpPools) (htouched : o.touched = [])
    (process : o.device.ospf.isSome = true → d.isA .router = true)
    (ospf : o.routing = false → o.device.ospf = d.ospf) : Reports d o where
  sound := by
    have type (k : DeviceType) : o.device.isA k = d.isA k := by
      unfold Device.isA
      rw [same.type]
    refine ⟨?_, ?_, ?_, lists, statements, pools, ?_, ?_⟩
    · rw [same.type]
      exact h.typed
    · rw [same.interfaces]
      exact h.interfaces
    · rw [same.routes]
      exact h.routes
    · rw [type]
      exact process
    · rw [type, same.interfaces]
      exact h.tags
  id := same.id
  type := same.type
  kept := by
    rw [same.interfaces]
    exact fun _ hk => hk
  touched := by
    rw [htouched]
    exact fun _ hk => (List.not_mem_nil hk).elim
  wiring := by
    intro k _
    rw [same.interfaces]
  routes := by
    intro r _
    rw [same.routes]
  neighbors := same.neighbors
  quiet := fun _ hr => ⟨by rw [same.interfaces], ospf hr⟩

/-- A change that no part of the lab depends on. -/
theorem apart (h : d.Sound) (same : d.SameNet o.device) (acls : o.device.acls = d.acls)
    (ospf : o.device.ospf = d.ospf) (pools : o.device.dhcpPools = d.dhcpPools)
    (htouched : o.touched = []) : Reports d o := by
  refine aside h same ?_ ?_ ?_ htouched ?_ fun _ => ospf
  · rw [acls]
    exact h.lists
  · rw [ospf]
    exact h.statements
  · rw [pools]
    exact h.pools
  · rw [ospf]
    exact h.process

end Reports

/-! ## Changes of an interface -/

theorem InterfaceTable.modify {t : Table String Interface} (h : InterfaceTable t) {key : String}
    {f : Interface → Interface} (hf : ∀ i, t.get? key = some i → (f i).Sound key) :
    InterfaceTable (t.modify key f) where
  each := by
    intro k i hi
    rw [Table.get?_modify] at hi
    split at hi
    · rename_i hk
      obtain ⟨j, hj, rfl⟩ := Option.map_eq_some_iff.1 hi
      rw [hk] at hj ⊢
      exact hf j hj
    · exact h.each k i hi
  readable := by
    rw [Table.keys_modify]
    exact h.readable
  named := by
    rw [Table.keys_modify]
    exact h.named
  parents := by
    rw [Table.keys_modify]
    exact h.parents
  inhabited := by
    rw [Table.keys_modify]
    exact h.inhabited

/-- A new interface with a readable name; a subinterface needs a physical parent. -/
theorem InterfaceTable.insert {t : Table String Interface} (h : InterfaceTable t) {key : String}
    {i : Interface} (hi : i.Sound key) (readable : InterfaceName.isReadable key = true) (named : key ≠ "")
    (parent : InterfaceName.kindOf key = .subinterface → InterfaceName.parentOf key ∈ t.keys ∧
      InterfaceName.kindOf (InterfaceName.parentOf key) = .physical) :
    InterfaceTable (t.insert key i) where
  each := by
    intro k j hj
    rw [Table.get?_insert] at hj
    split at hj
    · rename_i hk
      cases hj
      rw [hk]
      exact hi
    · exact h.each k j hj
  readable := by
    intro k hk
    rcases Table.mem_keys_insert.1 hk with hk | rfl
    · exact h.readable k hk
    · exact readable
  named := by
    intro k hk
    rcases Table.mem_keys_insert.1 hk with hk | rfl
    · exact h.named k hk
    · exact named
  parents := by
    intro k hk hsub
    have found : InterfaceName.parentOf k ∈ t.keys ∧
        InterfaceName.kindOf (InterfaceName.parentOf k) = .physical := by
      rcases Table.mem_keys_insert.1 hk with hk | rfl
      · exact h.parents k hk hsub
      · exact parent hsub
    exact ⟨Table.mem_keys_insert.2 (Or.inl found.1), found.2⟩
  inhabited := List.ne_nil_of_mem (Table.mem_keys_insert.2 (Or.inr rfl))

namespace Device

variable {d : Device}

theorem keeps_modifyInterface (key : String) (f : Interface → Interface) :
    d.Keeps (d.modifyInterface key f) := by
  refine Keeps.of_interfaces fun k hk => ?_
  rw [Table.keys_modify]
  exact hk

theorem Sound.with_interfaces (h : d.Sound) {interfaces : Table String Interface}
    (hi : InterfaceTable interfaces) (tags : d.isA .pc = false → TagTable interfaces) :
    ({ d with interfaces } : Device).Sound :=
  ⟨h.typed, hi, h.routes, h.lists, h.statements, h.pools, h.process, tags⟩

end Device

section Interfaces

variable {d : Device} {key : String} {i j : Interface}

/-- A change of an interface that is reported. -/
theorem Reports.of_modify (h : d.Sound) {o : Outcome} {f : Interface → Interface}
    (hdevice : o.device = d.modifyInterface key f) (hi : d.interfaces.get? key = some i)
    (hf : (f i).Sound key) (fits : d.isA .pc = false → (f i).FitsTag d.interfaces key)
    (htouched : ∀ k ∈ o.touched, k ∈ d.interfaces.keys)
    (told : key ∈ o.touched ∨ (f i).wiring = i.wiring) : Reports d o where
  sound := by
    rw [hdevice]
    refine h.with_interfaces (h.interfaces.modify fun i' hi' => ?_) fun hpc => ?_
    · rw [hi] at hi'
      cases hi'
      exact hf
    · refine (h.tags hpc).put (fits hpc) fun k x hx => ?_
      rw [Table.get?_modify] at hx
      split at hx
      · rename_i hk
        rw [hk, hi] at hx
        exact Or.inl ⟨hk, (Option.some.inj hx).symm⟩
      · exact Or.inr hx
  id := by rw [hdevice]; rfl
  type := by rw [hdevice]; rfl
  kept := by
    rw [hdevice]
    exact (Device.keeps_modifyInterface key f).interfaces
  touched := by
    rw [hdevice]
    exact fun k hk => (Device.keeps_modifyInterface key f).interfaces k (htouched k hk)
  wiring := by
    intro k hk
    rw [hdevice]
    show ((d.interfaces.modify key f).get? k).map _ = _
    rw [Table.get?_modify]
    split
    · rename_i hkey
      subst hkey
      rcases told with hmem | hwiring
      · exact absurd hmem hk
      · rw [hi, Option.map_some, Option.map_some, Option.map_some, hwiring]
    · rfl
  routes := by
    intro r _
    rw [hdevice]
    rfl
  neighbors := by rw [hdevice]; rfl
  quiet := by
    intro _ _
    rw [hdevice]
    exact ⟨Table.keys_modify .., rfl⟩

/-- A change of an interface that only concerns itself. -/
theorem setInterface_delivers (h : d.Sound) (hs : d.Seated) (hi : d.interfaces.get? key = some i)
    (hj : j.Sound key) (hwiring : j.wiring = i.wiring) : Delivers d (setInterface d key j) where
  toReports := by
    have hip : j.wiring.hasIp = i.wiring.hasIp := congrArg Interface.hasIp hwiring
    have htag : j.wiring.dot1qVlan = i.wiring.dot1qVlan := congrArg Interface.dot1qVlan hwiring
    exact Reports.of_modify h rfl hi hj (fun hpc => (h.tags hpc).fits hi hip.symm.trans htag)
      (fun _ hk => (List.not_mem_nil hk).elim) (Or.inr hwiring)
  seated := hs.of_keeps (Device.keeps_modifyInterface key _)

/-- A change of an interface that others may depend on. -/
theorem retagInterface_delivers (h : d.Sound) (hs : d.Seated) (hi : d.interfaces.get? key = some i)
    (hj : j.Sound key) (fits : d.isA .pc = false → j.FitsTag d.interfaces key) :
    Delivers d (touchInterface d key j) where
  toReports := by
    refine Reports.of_modify h rfl hi hj fits ?_ (Or.inl ?_)
    · intro k hk
      rw [List.mem_singleton.1 hk, hj.name]
      exact Table.mem_keys_of_get? hi
    · rw [← hj.name]
      exact List.mem_singleton.2 rfl
  seated := hs.of_keeps (Device.keeps_modifyInterface key _)

/-- Such a change by which the interface gets neither an address nor another tag. -/
theorem touchInterface_delivers (h : d.Sound) (hs : d.Seated) (hi : d.interfaces.get? key = some i)
    (hj : j.Sound key) (hip : j.hasIp = true → i.hasIp = true) (htag : j.dot1qVlan = i.dot1qVlan) :
    Delivers d (touchInterface d key j) :=
  retagInterface_delivers h hs hi hj fun hpc => (h.tags hpc).fits hi hip htag

end Interfaces

/-! ## Changes on which nothing depends -/

/-- A device without what neither its console nor the rest of the lab depends on. -/
def Device.essence (d : Device) : Device :=
  { d with
    hostname := ""
    dhcpExcluded := []
    nat := {}
    stp := {}
    enableSecret := none
    bannerMotd := none
    domainName := none
    domainLookup := true
    ipRouting := true
    defaultGateway := none
    startupConfig := none }

theorem Device.Keeps.of_essence {d d' : Device} (he : d'.essence = d.essence) : d.Keeps d' := by
  have same {α : Type} (f : Device → α) : f d'.essence = f d.essence := by rw [he]
  exact .of_same (same Device.mode) (same Device.modeStack) (same Device.context) (same Device.type)
    (same (·.interfaces.keys)) (same Device.ospf) (same Device.rip) (same Device.lines) (same Device.vlans)
    (same Device.acls) (same Device.dhcpPools)

/-- A change on which nothing depends. -/
theorem delivers_of_essence {d : Device} (h : d.Sound) (hs : d.Seated) {o : Outcome}
    (he : o.device.essence = d.essence) (htouched : o.touched = []) : Delivers d o := by
  have same {α : Type} (f : Device → α) : f o.device.essence = f d.essence := by rw [he]
  refine ⟨Reports.apart h ?_ (same Device.acls) (same Device.ospf) (same Device.dhcpPools) htouched,
    hs.of_keeps (.of_essence he)⟩
  exact ⟨same Device.id, same Device.type, same Device.interfaces, same Device.routes,
    same Device.ospfNeighbors⟩

/-! ## Entering a submode -/

/-- Where the console stands is not reported. -/
theorem Reports.of_console {d : Device} {o : Outcome} (h : Reports d o) (mode : Mode) (modeStack : ModeStack)
    (context : EditContext) :
    Reports d { o with device := { o.device with mode, modeStack, context } } :=
  ⟨⟨h.sound.typed, h.sound.interfaces, h.sound.routes, h.sound.lists, h.sound.statements, h.sound.pools,
    h.sound.process, h.sound.tags⟩,
    h.id, h.type, h.kept, h.touched, h.wiring, h.routes, h.neighbors, h.quiet⟩

/-- Neither is the table of VLANs. -/
theorem Reports.of_vlans {d : Device} {o : Outcome} (h : Reports d o) (vlans : Table Int String) :
    Reports d { o with device := { o.device with vlans } } :=
  ⟨⟨h.sound.typed, h.sound.interfaces, h.sound.routes, h.sound.lists, h.sound.statements, h.sound.pools,
    h.sound.process, h.sound.tags⟩,
    h.id, h.type, h.kept, h.touched, h.wiring, h.routes, h.neighbors, h.quiet⟩

/-- Neither are static routes, nor the gateway that a host is told. -/
theorem Reports.of_routes {d : Device} {o : Outcome} (h : Reports d o) {routes : List Route}
    (table : RouteTable routes)
    (same : ∀ r : Route, r.isFrom .static = false → (r ∈ routes ↔ r ∈ o.device.routes))
    (defaultGateway : Option String) :
    Reports d { o with device := { o.device with routes, defaultGateway } } :=
  ⟨⟨h.sound.typed, h.sound.interfaces, table, h.sound.lists, h.sound.statements, h.sound.pools,
    h.sound.process, h.sound.tags⟩, h.id, h.type,
    h.kept, h.touched, h.wiring, fun r hr => (same r hr).trans (h.routes r hr), h.neighbors, h.quiet⟩

/-- After a change that is reported a submode is entered, if its object is there. -/
theorem enterMode_delivers {d : Device} {o : Outcome} (m : Mode) (select : EditContext → EditContext)
    (hr : Reports d o) (hs : d.Seated) (hc : d.mode.isConfig = true) (mode : o.device.mode = d.mode)
    (stack : o.device.modeStack = d.modeStack) (context : o.device.context = d.context)
    (hm : m.isSubmode = true) (focus : select {} = (select {}).only m)
    (object : ({ o.device with
      mode := m, modeStack := ⟨m.outer, 4⟩, context := select {} } : Device).HasObject) :
    Yields (fun d' => Delivers d { o with device := d' }) (o.device.enterMode m select) := by
  have stacked : o.device.Stacked := by
    unfold Device.Stacked
    rw [stack, mode]
    exact hs.stacked
  have focused : o.device.Focused := by
    unfold Device.Focused
    rw [context, mode]
    exact hs.focused
  have hok := Device.enterMode_eq stacked focused (mode ▸ hc) hm select
  refine Meets.of_ok hok ⟨hr.of_console _ _ _, rfl, focus, object, fun hpc => ?_⟩
  -- An end host is in no configuration mode.
  have hd : d.isA .pc = true := by
    unfold Device.isA at hpc ⊢
    rw [← hr.type]
    exact hpc
  rw [hs.host hd] at hc
  cases hc

namespace Delivers

variable {d : Device} {o : Outcome}

/-- More may be said than need be. -/
theorem rerouting (h : Delivers d o) : Delivers d { o with routing := true } where
  toReports := ⟨h.sound, h.id, h.type, h.kept, h.touched, h.wiring, h.routes, h.neighbors,
    fun _ hr => by cases hr⟩
  seated := h.seated

theorem saying (h : Delivers d o) (output : String) : Delivers d { o with output } :=
  ⟨⟨h.sound, h.id, h.type, h.kept, h.touched, h.wiring, h.routes, h.neighbors, h.quiet⟩, h.seated⟩

end Delivers

end NetRack
