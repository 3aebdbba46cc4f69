import NetRack.Command.Submode
import NetRack.Proofs.Command.Interface

/-!
# What the commands of the other submodes and of end hosts do

In every submode the object to be configured is there, and what is written into it can be read.  An
end host always has a port to be given an address.
-/

namespace NetRack

open Outcome

variable {d : Device}

/-! ## Routing processes -/

/-- In the configuration of a routing process there is a process of one of the two protocols. -/
theorem process_cases (hs : d.Seated) (hm : d.mode = .routerConfig) :
    (∃ c, currentOspf? d = .ok (some c) ∧ configures d .ospf = true ∧ d.ospf = some c ∧
        currentRip? d = .ok none) ∨
      ∃ c, currentOspf? d = .ok none ∧ configures d .ospf = false ∧ d.rip = some c ∧
        currentRip? d = .ok (some c) := by
  have object := hs.object
  unfold Device.HasObject at object
  rw [hm] at object
  rcases object with ⟨hrouter, hsome⟩ | ⟨hrouter, hsome⟩
  · obtain ⟨c, hc⟩ := Option.isSome_iff_exists.1 hsome
    refine Or.inl ⟨c, ?_, ?_, hc, ?_⟩
    · simp [currentOspf?, configures, hrouter, hc]
    · simp [configures, hrouter]
    · simp [currentRip?, configures, hrouter]
  · obtain ⟨c, hc⟩ := Option.isSome_iff_exists.1 hsome
    refine Or.inr ⟨c, ?_, ?_, hc, ?_⟩
    · simp [currentOspf?, configures, hrouter]
    · simp [configures, hrouter]
    · simp [currentRip?, configures, hrouter, hc]

theorem setOspf_delivers (h : d.Sound) (hs : d.Seated) {old c : OspfConfig} (runs : d.ospf = some old)
    (hc : ∀ n ∈ c.networks, n.Readable) : Delivers d (rerouting { d with ospf := some c }) where
  toReports := by
    refine Reports.aside h ⟨rfl, rfl, rfl, rfl, rfl⟩ h.lists ?_ h.pools rfl
      (fun _ => h.process (by rw [runs]; rfl)) fun hr => by cases hr
    intro c' hc'
    cases hc'
    exact hc
  seated := hs.of_keeps ⟨rfl, rfl, rfl, rfl, fun _ hk => hk, fun _ => rfl, fun hi => hi, fun _ hk => hk,
    fun _ hk => hk, fun _ hk => hk, fun _ hk => hk⟩

theorem setRip_delivers (h : d.Sound) (hs : d.Seated) (c : RipConfig) :
    Delivers d (ofDevice { d with rip := some c }) where
  toReports := Reports.apart h ⟨rfl, rfl, rfl, rfl, rfl⟩ rfl rfl rfl rfl
  seated := hs.of_keeps ⟨rfl, rfl, rfl, rfl, fun _ hk => hk, fun hi => hi, fun _ => rfl, fun _ hk => hk,
    fun _ hk => hk, fun _ hk => hk, fun _ hk => hk⟩

theorem mem_addOnce {α : Type} [DecidableEq α] {x y : α} {xs : List α} (h : y ∈ addOnce x xs) :
    y ∈ xs ∨ y = x := by
  unfold addOnce at h
  split at h
  · exact Or.inl h
  · simpa using h

theorem currentOspf_answers (hs : d.Seated) (hm : d.mode = .routerConfig) :
    Answers (fun c => d.ospf = some c) (currentOspf d) := by
  unfold currentOspf
  rcases process_cases hs hm with ⟨c, hc, -, hospf, -⟩ | ⟨c, hc, -⟩
  · rw [hc]
    exact hospf
  · rw [hc]
    exact Answers.refuse _

theorem currentRip_answers (hs : d.Seated) (hm : d.mode = .routerConfig) (r : Refusal) :
    Answers (fun c => d.rip = some c) (currentRip d r) := by
  unfold currentRip
  rcases process_cases hs hm with ⟨c, -, -, -, hc⟩ | ⟨c, -, -, hrip, hc⟩
  · rw [hc]
    exact Answers.refuse _
  · rw [hc]
    exact hrip

theorem addOspfNetwork_delivers (h : d.Sound) (hs : d.Seated) (hm : d.mode = .routerConfig)
    {entry : OspfNetwork} (hentry : entry.Readable) : Answers (Delivers d) (addOspfNetwork d entry) := by
  unfold addOspfNetwork
  refine (currentOspf_answers hs hm).bind fun c hc => ?_
  dsimp only
  split
  · exact Answers.refuse _
  · refine setOspf_delivers h hs hc fun n hn => ?_
    rcases mem_addOnce hn with hn | rfl
    · exact h.statements c hc n hn
    · exact hentry

theorem removeNetwork_delivers (h : d.Sound) (hs : d.Seated) (hm : d.mode = .routerConfig)
    (network : Address) (tail : Option (Address × Int)) :
    Answers (Delivers d) (removeNetwork d network tail) := by
  unfold removeNetwork
  rcases process_cases hs hm with ⟨c, hc, -, hospf, -⟩ | ⟨c, hc, -, -, hrip⟩
  · rw [hc, ok_bind]
    unfold removeOspfNetwork
    cases tail with
    | none => exact Answers.refuse _
    | some pair =>
      refine (Answers.refuseIf _ _).bind fun _ _ => setOspf_delivers h hs hospf fun n hn => ?_
      exact h.statements c hospf n (List.mem_of_mem_erase hn)
  · rw [hc, ok_bind]
    dsimp only
    rw [hrip]
    exact setRip_delivers h hs _

theorem addPassiveInterface_delivers (h : d.Sound) (hs : d.Seated) (hm : d.mode = .routerConfig)
    (name : String) : Answers (Delivers d) (addPassiveInterface d name) := by
  unfold addPassiveInterface
  refine (Answers.refuseIf _ _).bind fun _ _ => ?_
  rcases process_cases hs hm with ⟨c, -, hconf, hospf, -⟩ | ⟨c, -, hconf, hrip, -⟩
  · simp only [hconf, if_true, hospf]
    exact setOspf_delivers h hs hospf (h.statements c hospf)
  · simp only [hconf, Bool.false_eq_true, if_false, hrip]
    exact (setRip_delivers h hs _).rerouting

/-- A router command is refused or reports in full. -/
theorem routerCommand_delivers (h : d.Sound) (hs : d.Seated) (hm : d.mode = .routerConfig)
    (c : RouterCommand) : Answers (Delivers d) (c.apply d) := by
  unfold RouterCommand.apply
  cases c with
  | ospfNetwork network wildcard area => exact addOspfNetwork_delivers h hs hm ⟨⟨_, rfl⟩, ⟨_, rfl⟩⟩
  | ripNetwork network =>
    exact (currentRip_answers hs hm _).bind fun c _ => setRip_delivers h hs _
  | noNetwork network tail => exact removeNetwork_delivers h hs hm network tail
  | routerId id =>
    exact (currentOspf_answers hs hm).bind fun c hc => setOspf_delivers h hs hc (h.statements c hc)
  | ripVersion version =>
    exact (currentRip_answers hs hm _).bind fun c _ => setRip_delivers h hs _
  | noAutoSummary =>
    exact (currentRip_answers hs hm _).bind fun c _ => setRip_delivers h hs _
  | passiveInterface name => exact addPassiveInterface_delivers h hs hm name

/-! ## Terminal lines -/

theorem currentLine_yields (hs : d.Seated) (hm : d.mode = .lineConfig) :
    Yields (fun _ => True) (currentLine d) := by
  have object := hs.object
  unfold Device.HasObject at object
  rw [hm] at object
  obtain ⟨key, c, hkey, hc⟩ := object
  unfold currentLine
  simp only [hkey, Option.bind_some, hc, Option.map_some]
  trivial

theorem setLine_delivers (h : d.Sound) (hs : d.Seated) (key : String) (c : LineConfig) :
    Delivers d (setLine d key c) where
  toReports := Reports.apart h ⟨rfl, rfl, rfl, rfl, rfl⟩ rfl rfl rfl rfl
  seated := hs.of_keeps ⟨rfl, rfl, rfl, rfl, fun _ hk => hk, fun hi => hi, fun hi => hi,
    fun k hk => by rw [setLine, ofDevice, Table.keys_modify]; exact hk, fun _ hk => hk, fun _ hk => hk,
    fun _ hk => hk⟩

/-- A line command is refused or reports in full. -/
theorem lineCommand_delivers (h : d.Sound) (hs : d.Seated) (hm : d.mode = .lineConfig) (c : LineCommand) :
    Answers (Delivers d) (c.apply d) := by
  unfold LineCommand.apply
  refine (currentLine_yields hs hm).anyway.bind ?_
  rintro ⟨key, l⟩ -
  cases c with
  | password secret => exact setLine_delivers h hs key _
  | login method =>
    dsimp only
    split
    · exact (setLine_delivers h hs key _).saying _
    · exact setLine_delivers h hs key _
  | noLogin => exact setLine_delivers h hs key _
  | transportInput transport =>
    exact (Answers.refuseIf _ _).bind fun _ _ => setLine_delivers h hs key _
  | execTimeout minutes seconds => exact setLine_delivers h hs key _
  | loggingSynchronous => exact setLine_delivers h hs key _

/-! ## VLANs, access lists and pools -/

theorem nameVlan_delivers (h : d.Sound) (hs : d.Seated) (hm : d.mode = .vlanConfig) (name : String) :
    Answers (Delivers d) (nameVlan d name) := by
  have object := hs.object
  unfold Device.HasObject at object
  rw [hm] at object
  obtain ⟨vlan, hvlan, hcontains⟩ := object
  unfold nameVlan
  simp only [hvlan, hcontains, Bool.not_true, Bool.false_eq_true, if_false]
  refine (Answers.refuseIf _ _).bind fun _ _ => ⟨?_, hs.of_keeps ?_⟩
  · exact Reports.apart h ⟨rfl, rfl, rfl, rfl, rfl⟩ rfl rfl rfl rfl
  · exact ⟨rfl, rfl, rfl, rfl, fun _ hk => hk, fun hi => hi, fun hi => hi, fun _ hk => hk,
      fun k hk => Table.mem_keys_insert.2 (Or.inl hk), fun _ hk => hk, fun _ hk => hk⟩

theorem addRule_delivers (h : d.Sound) (hs : d.Seated) (hm : d.mode = .aclConfig) (e : RuleEntry) :
    Answers (Delivers d) (addRule d e) := by
  have object := hs.object
  unfold Device.HasObject at object
  rw [hm] at object
  obtain ⟨key, l, hkey, hl⟩ := object
  unfold addRule
  simp only [hkey, Option.bind_some, hl, Option.map_some]
  refine (append_answers l e (h.lists key l hl)).bind fun l' hl' => ⟨?_, hs.of_keeps ?_⟩
  · refine Reports.aside h ⟨rfl, rfl, rfl, rfl, rfl⟩ ?_ h.statements h.pools rfl h.process fun _ => rfl
    intro k l'' hl''
    change (d.acls.modify key fun _ => l').get? k = some l'' at hl''
    rw [Table.get?_modify] at hl''
    split at hl''
    · obtain ⟨-, -, rfl⟩ := Option.map_eq_some_iff.1 hl''
      exact hl'
    · exact h.lists k l'' hl''
  · refine ⟨rfl, rfl, rfl, rfl, fun _ hk => hk, fun hi => hi, fun hi => hi, fun _ hk => hk,
      fun _ hk => hk, fun k hk => ?_, fun _ hk => hk⟩
    show k ∈ (Table.modify _ _ _).keys
    rw [Table.keys_modify]
    exact hk

theorem currentPool_yields (hs : d.Seated) (hm : d.mode = .dhcpConfig) :
    Yields (fun e => d.dhcpPools.get? e.1 = some e.2) (currentPool d) := by
  have object := hs.object
  unfold Device.HasObject at object
  rw [hm] at object
  obtain ⟨key, p, hkey, hp⟩ := object
  unfold currentPool
  simp only [hkey, Option.bind_some, hp, Option.map_some]
  exact hp

theorem poolChange_answers {p : DhcpPool} (hp : p.Readable) (c : PoolCommand) :
    Answers DhcpPool.Readable (c.change p) := by
  unfold PoolCommand.change
  cases c with
  | network base mask =>
    exact (requireNetwork_answers base mask).bind fun n hn => Or.inr ⟨n, hn.1, rfl, rfl⟩
  | defaultRouter address => exact hp
  | dnsServer address => exact hp
  | domainName domain => exact hp
  | lease days => exact hp

/-- A pool command is refused or reports in full. -/
theorem poolCommand_delivers (h : d.Sound) (hs : d.Seated) (hm : d.mode = .dhcpConfig) (c : PoolCommand) :
    Answers (Delivers d) (c.apply d) := by
  unfold PoolCommand.apply
  refine (currentPool_yields hs hm).anyway.bind ?_
  rintro ⟨key, p⟩ hp
  refine (poolChange_answers (h.pools key p hp) c).bind fun p' hp' => ⟨?_, hs.of_keeps ?_⟩
  · refine Reports.aside h ⟨rfl, rfl, rfl, rfl, rfl⟩ h.lists h.statements ?_ rfl h.process fun _ => rfl
    intro k p'' hp''
    change (d.dhcpPools.modify key fun _ => p').get? k = some p'' at hp''
    rw [Table.get?_modify] at hp''
    split at hp''
    · obtain ⟨-, -, rfl⟩ := Option.map_eq_some_iff.1 hp''
      exact hp'
    · exact h.pools k p'' hp''
  · refine ⟨rfl, rfl, rfl, rfl, fun _ hk => hk, fun hi => hi, fun hi => hi, fun _ hk => hk,
      fun _ hk => hk, fun _ hk => hk, fun k hk => ?_⟩
    show k ∈ (Table.modify _ _ _).keys
    rw [Table.keys_modify]
    exact hk

/-! ## End hosts -/

theorem withoutStaticDefault_eq {routes : List Route} (h : RouteTable routes) :
    withoutStaticDefault routes = .ok (routes.filter fun r => !(r.isFrom .static && r.net.length = 0)) := by
  have marked : (routes.mapM fun r => do return (← isStaticDefault r, r)) =
      .ok (routes.map fun r => (r.isFrom .static && r.net.length = 0, r)) := by
    refine mapM_ok fun r hr => ?_
    unfold isStaticDefault
    rw [(h.each r hr).destination]
    cases r.isFrom .static <;> rfl
  unfold withoutStaticDefault
  rw [marked, ok_bind, List.filter_map, List.map_map]
  exact congrArg Except.ok (List.map_id _)

/-- The default route of a host is a static route to the network of all addresses. -/
theorem defaultRoute_eq (gateway : Address) :
    defaultRoute gateway = staticRoute (.around .zero 0) (.hop gateway) 1 := by
  have zeros : (Network.around .zero 0).base.text = "0.0.0.0" ∧
      (Network.around .zero 0).mask.text = "0.0.0.0" := by decide +kernel
  unfold defaultRoute staticRoute
  rw [zeros.1, zeros.2]
  rfl

theorem defaultRoute_isRoute (gateway : Address) : IsRoute (defaultRoute gateway) := by
  rw [defaultRoute_eq]
  exact .static _ _ _ (by decide) (by decide)

theorem net_staticRoute {n : Network} (hn : n.length ≤ 32) (target : RouteTarget) (distance : Int) :
    (staticRoute n target distance).net = n := Route.net_eq hn rfl rfl

theorem length_of_key_eq {r s : Route} (h : r.key = s.key) : r.net.length = s.net.length :=
  congrArg RouteKey.length h

/-- Once static routes to everywhere are gone, no route has the key of another one. -/
theorem apart_without_default {routes : List Route} (h : RouteTable routes) (g : Address) :
    ∀ s ∈ routes.filter (fun r => !(r.isFrom .static && r.net.length = 0)),
      s.key = (defaultRoute g).key → s = defaultRoute g := by
  intro s hmem hkey
  obtain ⟨hroute, hkept⟩ := List.mem_filter.1 hmem
  have hway := (h.each s hroute).sameWay_of_key_eq (defaultRoute_isRoute g) hkey
  have hstatic : s.isFrom .static = true := by
    unfold Route.sameWay at hway
    simp only [Bool.and_eq_true, decide_eq_true_eq] at hway
    unfold Route.isFrom
    rw [hway.1.1.1.1]
    rfl
  have hlength := length_of_key_eq hkey
  rw [defaultRoute_eq, net_staticRoute (by decide)] at hlength
  simp [hstatic, hlength, Network.around] at hkept

/-- A device has an interface that comes first. -/
theorem Device.Sound.first_interface (h : d.Sound) :
    ∃ key i, d.ordered.head? = some (key, i) ∧ d.interfaces.get? key = some i := by
  obtain ⟨k, hk⟩ := List.exists_mem_of_ne_nil _ h.interfaces.inhabited
  obtain ⟨j, hj⟩ := Table.mem_keys.1 hk
  have hmem : (k, j) ∈ d.ordered := Device.mem_ordered.2 (Table.get?_eq_some.2 hj)
  obtain ⟨e, he⟩ := Option.isSome_iff_exists.1 (List.isSome_head?.2 (List.ne_nil_of_mem hmem))
  exact ⟨e.1, e.2, he, Device.mem_ordered.1 (List.mem_of_head? he)⟩

theorem setHostAddress_delivers (h : d.Sound) (hs : d.Seated) (host : d.isA .pc = true) (ip : Address)
    {mask : Address} (hmask : mask.isNetmask = true) (gateway : Option Address) :
    Answers (Delivers d) (setHostAddress d ip mask gateway) := by
  obtain ⟨n, hn, rfl⟩ := Address.isNetmask_iff.1 hmask
  obtain ⟨key, i, hhead, hi⟩ := h.first_interface
  unfold setHostAddress
  simp only [Device.sortedEntries_of_table h.interfaces, liftM_ok, ok_bind, hhead, networkAround_eq ip hn]
  refine (Answers.refuseIf _ _).bind fun _ _ => (Answers.refuseIf _ _).bind fun _ _ => ?_
  rw [withoutStaticDefault_eq h.routes, liftM_ok, ok_bind]
  have table := h.routes.filter fun r => !(r.isFrom .static && r.net.length = 0)
  have same : ∀ r : Route, r.isFrom .static = false →
      (r ∈ d.routes.filter (fun r => !(r.isFrom .static && r.net.length = 0)) ↔ r ∈ d.routes) := by
    intro r hr
    simp [hr]
  have changed : Interface.Sound key
      { i with ip := some ip.text, mask := some (Network.around ip n).mask.text, adminUp := true } := by
    have hsound := h.interfaces.each key i hi
    exact ⟨hsound.name, Or.inr ⟨ip, n, hn, rfl, rfl⟩, hsound.member⟩
  have touch := retagInterface_delivers h hs hi changed fun hpc => by rw [host] at hpc; cases hpc
  have done {routes : List Route} (ht : RouteTable routes)
      (hsame : ∀ r : Route, r.isFrom .static = false → (r ∈ routes ↔ r ∈ d.routes)) :
      Delivers d (touchInterface { d with defaultGateway := gateway.map (·.text), routes } key
        { i with ip := some ip.text, mask := some (Network.around ip n).mask.text, adminUp := true }) := by
    refine ⟨touch.toReports.of_routes ht hsame _, touch.seated.of_keeps ?_⟩
    exact ⟨rfl, rfl, rfl, rfl, fun _ hk => hk, fun hi => hi, fun hi => hi, fun _ hk => hk, fun _ hk => hk,
      fun _ hk => hk, fun _ hk => hk⟩
  cases gateway with
  | none => exact done table same
  | some g =>
    have insert := insertRoute_yields table (defaultRoute_isRoute g) (apart_without_default h.routes g)
    refine insert.lift.bind fun routes hroutes => done hroutes.1 fun r hr => ?_
    rw [hroutes.2 r, same r hr]
    constructor
    · rintro (hmem | rfl)
      · exact hmem
      · cases hr
    · exact Or.inl

/-! ## All commands -/

/-- What a console makes sure of before it gives a host command to a device. -/
def HostCommand.Admissible : HostCommand → Prop
  | .ip _ mask _ => mask.isNetmask = true
  | .ipconfig => True

/-- A host command is refused or reports in full. -/
theorem hostCommand_delivers (h : d.Sound) (hs : d.Seated) (host : d.isA .pc = true) {c : HostCommand}
    (ha : c.Admissible) : Answers (Delivers d) (c.apply d) := by
  unfold HostCommand.apply
  cases c with
  | ip address mask gateway => exact setHostAddress_delivers h hs host address ha gateway
  | ipconfig =>
    have shown : Yields (fun _ => True) (Show.hostAddresses d) := by
      unfold Show.hostAddresses
      rw [Device.sortedInterfaces_of_table h.interfaces]
      trivial
    exact shown.lift.bind fun _ _ => delivers_of_essence h hs rfl rfl

end NetRack
