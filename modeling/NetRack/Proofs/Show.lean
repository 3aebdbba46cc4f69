import NetRack.Command.Exec
import NetRack.Proofs.Ospf.Adjacency

/-!
# What can be shown

Everything can be shown of a sound device, with one exception: access lists are ordered by their
numbers, so nothing that shows them works on a device with a list whose number has too many digits.
-/

namespace NetRack

variable {d : Device}

/-! ## Access lists -/

/-- The device has an access list whose number has too many digits to be ordered by. -/
def Device.HasLongList (d : Device) : Prop :=
  ∃ name ∈ d.acls.keys, Show.isNumbered name = true ∧ Text.numeralLimit < name.length

theorem aclOrder_cases (name : String) :
    ((Show.isNumbered name = true ∧ Text.numeralLimit < name.length) ∧
        Show.aclOrder name = .error .badNumber) ∨
      (¬(Show.isNumbered name = true ∧ Text.numeralLimit < name.length) ∧
        ∃ o, Show.aclOrder name = .ok o) := by
  unfold Show.aclOrder Text.readDigits?
  rw [String.length_toList]
  cases hn : Show.isNumbered name with
  | false => exact Or.inr ⟨by simp, _, rfl⟩
  | true =>
    by_cases hlen : name.length ≤ Text.numeralLimit
    · rw [if_pos rfl, if_pos hlen]
      exact Or.inr ⟨by omega, _, rfl⟩
    · rw [if_pos rfl, if_neg hlen]
      exact Or.inl ⟨⟨rfl, by omega⟩, rfl⟩

theorem sortedAcls_yields (h : ¬d.HasLongList) : Yields (fun _ => True) (Show.sortedAcls d) := by
  unfold Show.sortedAcls
  refine (Meets.mapM_all (P := fun _ => True) fun e he => ?_).bind fun _ _ => trivial
  rcases aclOrder_cases e.1 with ⟨hlong, -⟩ | ⟨-, o, ho⟩
  · exact absurd ⟨e.1, Table.mem_keys_of_mem (v := e.2) he, hlong⟩ h
  · rw [ho]
    trivial

theorem sortedAcls_error (h : d.HasLongList) : Show.sortedAcls d = .error .badNumber := by
  obtain ⟨name, hmem, hlong⟩ := h
  obtain ⟨l, hl⟩ := Table.mem_keys.1 hmem
  have failed := mapM_error (f := fun e : String × AccessList => do return (← Show.aclOrder e.1, e))
    (e := .badNumber) (x := (name, l)) (fun e _ => ?_) hl ?_
  · unfold Show.sortedAcls
    rw [failed]
    rfl
  · rcases aclOrder_cases e.1 with ⟨-, ho⟩ | ⟨-, o, ho⟩ <;> rw [ho]
    · rfl
    · trivial
  · rcases aclOrder_cases name with ⟨-, ho⟩ | ⟨hshort, -⟩
    · rw [ho]
      rfl
    · exact absurd hlong hshort

/-! ## The running configuration -/

theorem interfaceCommands_yields (h : d.Sound) {i : Interface} (hi : d.interfaces.get? i.name = some i) :
    Yields (fun _ => True) (Show.interfaceCommands d i) := by
  unfold Show.interfaceCommands
  rw [h.interfaces.kind_eq hi]
  trivial

theorem interfaceLines_yields (h : d.Sound) :
    Yields (fun _ => True) ((d.ordered.map Prod.snd).mapM (Show.interfaceCommands d)) :=
  (Meets.mapM_all fun _ hi =>
    interfaceCommands_yields h ((Device.mem_ordered_values h.interfaces).1 hi)).imp fun _ _ => trivial

theorem runningConfig_yields (h : d.Sound) (hl : ¬d.HasLongList) :
    Yields (fun _ => True) (Show.runningConfig d) := by
  obtain ⟨lines, hlines, -⟩ := (interfaceLines_yields h).exists_ok
  obtain ⟨lists, hlists, -⟩ := (sortedAcls_yields hl).exists_ok
  unfold Show.runningConfig Show.configCommands Show.aclSection
  rw [Device.sortedInterfaces_of_table h.interfaces, ok_bind, hlines, ok_bind, hlists]
  trivial

theorem runningConfig_error (h : d.Sound) (hl : d.HasLongList) :
    Show.runningConfig d = .error .badNumber := by
  obtain ⟨lines, hlines, -⟩ := (interfaceLines_yields h).exists_ok
  unfold Show.runningConfig Show.configCommands Show.aclSection
  rw [Device.sortedInterfaces_of_table h.interfaces, ok_bind, hlines, ok_bind, sortedAcls_error hl]
  rfl

/-! ## Interfaces at a glance -/

theorem physicalPorts_yields (h : d.Sound) : Yields (fun _ => True) (Show.physicalPorts d) := by
  unfold Show.physicalPorts
  rw [Device.sortedInterfaces_of_table h.interfaces, ok_bind]
  have kinds := mapM_ok (l := d.ordered.map Prod.snd) (f := fun i : Interface => do
      return (← i.kind, i)) (g := fun i => (InterfaceName.kindOf i.name, i)) fun i hi => by
    rw [h.interfaces.kind_eq ((Device.mem_ordered_values h.interfaces).1 hi)]
    rfl
  rw [kinds]
  trivial

theorem version_yields (h : d.Sound) : Yields (fun _ => True) (Show.version d) := by
  obtain ⟨type, htype⟩ := h.typed
  unfold Show.version Show.portTypes
  rw [htype]
  have kinds := mapM_ok (l := d.interfaces.values) (f := fun i : Interface => do
      return (← i.kind, i)) (g := fun i => (InterfaceName.kindOf i.name, i)) fun i hi => by
    rw [h.interfaces.kind_eq (h.interfaces.get?_of_mem_values hi)]
    rfl
  simp only [kinds]
  trivial

theorem vlanBrief_yields (h : d.Sound) : Yields (fun _ => True) (Show.vlanBrief d) := by
  unfold Show.vlanBrief
  dsimp only
  split
  · trivial
  · exact (physicalPorts_yields h).bind fun _ _ => trivial

/-! ## Routing at a glance -/

theorem routes_yields (h : d.Sound) : Yields (fun _ => True) (Show.routes d) := by
  have keyed := mapM_ok (l := d.routes) (f := fun r : Route => do return (← r.destination, r))
    (g := fun r => (r.net, r)) fun r hr => by
      rw [(h.routes.each r hr).destination]
      rfl
  unfold Show.routes
  rw [keyed]
  trivial

theorem dhcpPools_yields (h : d.Sound) : Yields (fun _ => True) (Show.dhcpPools d) := by
  have rows : ∀ e ∈ Show.sortedByName d.dhcpPools, Yields (fun _ => True) (Show.dhcpPoolRows e.1 e.2) := by
    intro e he
    have hp : e.2.Readable := h.pools e.1 e.2 (Table.get?_eq_some.2 (mem_sortBy.1 he))
    have size : Yields (fun _ => True) (Show.poolSize e.2) := by
      unfold Show.poolSize
      rcases hp with hnone | ⟨n, hn, hnet, hmask⟩
      · rw [hnone]
        trivial
      · rw [hnet, hmask]
        simp only [Text.present?, Address.isEmpty_text, Show.orNone, Option.getD_some,
          Bool.false_eq_true, if_false, n.read_text hn]
        trivial
    unfold Show.dhcpPoolRows
    exact size.bind fun _ _ => trivial
  unfold Show.dhcpPools
  exact (Meets.mapM_all rows).bind fun _ _ => trivial

theorem cdpNeighbors_yields {t : Topology} (ht : t.Sound) (d : Device) :
    Yields (fun _ => True) (Show.cdpNeighbors t d) := by
  have each : ∀ l ∈ t.links.filter (·.up), Yields (fun _ => True) (l.ends.mapM (t.neighborAt d.id l)) := by
    intro l hl
    refine (Meets.mapM_all (P := fun _ => True) fun e he => ?_).imp fun _ _ => trivial
    unfold Topology.neighborAt
    split
    · trivial
    · cases hpeer : l.other? e with
      | none => trivial
      | some peer =>
        have hends : peer ∈ l.ends := by
          obtain ⟨p, hp, hmem⟩ := Link.other?_of_touches (Link.touches_iff.2 he)
          rw [hpeer] at hp
          cases hp
          exact hmem
        obtain ⟨i, hi⟩ := ht.end_port (List.mem_filter.1 hl).1 hends
        obtain ⟨d', hd', -⟩ := Topology.device_of_port? hi
        simp only [Topology.entry_eq hd', ok_bind]
        trivial
  unfold Show.cdpNeighbors Topology.neighbors
  refine Meets.bind (P := fun _ => True) ?_ fun _ _ => trivial
  exact (Meets.mapM_all each).bind fun _ _ => trivial

/-! ## All of it -/

/-- Whether an item shows access lists. -/
def ShowItem.ordersLists : ShowItem → Bool
  | .runningConfig => true
  | .accessLists => true
  | _ => false

/-- Every item is shown or refused, unless it shows access lists of which one has too long a number. -/
theorem render_answers {t : Topology} (ht : t.Sound) (h : d.Sound) {item : ShowItem}
    (hl : item.ordersLists = true → ¬d.HasLongList) : Answers (fun _ => True) (item.render t d) := by
  have switch {x : Except Failure String} (hx : Answers (fun _ => True) x) :
      Answers (fun _ => True) (Outcome.requireSwitch d >>= fun _ => x) :=
    (Answers.refuseIf _ _).bind fun _ _ => hx
  have sorted := Device.sortedInterfaces_of_table h.interfaces
  unfold ShowItem.render
  cases item with
  | runningConfig => exact (runningConfig_yields h (hl rfl)).lift
  | startupConfig => trivial
  | version => exact (version_yields h).lift
  | interfaceBrief =>
    unfold Show.interfaceBrief
    rw [sorted]
    trivial
  | routes => exact (routes_yields h).lift
  | protocols =>
    have shown : Yields (fun _ => True) (Show.protocols d) := by
      unfold Show.protocols
      exact (Topology.effectiveRouterId_yields h).bind fun _ _ => trivial
    exact shown.lift
  | ospfNeighbors => trivial
  | natTranslations => trivial
  | dhcpPools => exact (dhcpPools_yields h).lift
  | vlanBrief => exact switch (vlanBrief_yields h).lift
  | interfacesTrunk =>
    refine switch ?_
    unfold Show.interfacesTrunk
    rw [sorted]
    trivial
  | interfacesStatus =>
    have shown : Yields (fun _ => True) (Show.interfacesStatus d) := by
      unfold Show.interfacesStatus
      exact (physicalPorts_yields h).bind fun _ _ => trivial
    exact switch shown.lift
  | accessLists =>
    have shown : Yields (fun _ => True) (Show.accessLists d) := by
      unfold Show.accessLists
      exact (sortedAcls_yields (hl rfl)).bind fun _ _ => trivial
    exact shown.lift
  | etherchannelSummary =>
    unfold Show.etherchannelSummary
    rw [sorted]
    trivial
  | portSecurity name =>
    cases name with
    | none =>
      refine switch ?_
      unfold Show.securePorts
      rw [sorted]
      trivial
    | some name =>
      refine switch ?_
      cases d.interfaces.get? name with
      | none => trivial
      | some i => trivial
  | cdpNeighbors => exact (cdpNeighbors_yields ht d).lift

theorem render_error {t : Topology} (h : d.Sound) {item : ShowItem} (hi : item.ordersLists = true)
    (hl : d.HasLongList) : item.render t d = .error (.fault .badNumber) := by
  unfold ShowItem.render
  cases item with
  | runningConfig =>
    simp only [runningConfig_error h hl]
    rfl
  | accessLists =>
    simp only [Show.accessLists, sortedAcls_error hl]
    rfl
  | _ => cases hi

/-- Notices are given of the interfaces of every sound device. -/
theorem linkNotices_yields (before : Device) (h : d.Sound) :
    Yields (fun _ => True) (Show.linkNotices before d) := by
  unfold Show.linkNotices
  rw [Device.sortedInterfaces_of_table h.interfaces]
  trivial

end NetRack
