import NetRack.Proofs.Propagation.Settled

/-!
# Names that propagation cannot read

Propagation looks at every interface of a device that is not physical, and puts them in the order of
their names first.  If the name of one of them is not readable, carrying on any change of it fails,
and there is only one cause of which it can fail.
-/

namespace NetRack

open InterfaceName (kindOf)

namespace Topology

theorem findFirst_meets {α : Type} {E : Fault → Prop} {check : α → Except Fault Bool} {xs : List α}
    (h : ∀ x ∈ xs, Meets E (fun _ => True) (check x)) :
    Meets E (fun _ => True) (findFirst check xs) := by
  induction xs with
  | nil => trivial
  | cons x xs ih =>
    unfold findFirst
    refine (h x (by simp)).bind fun b _ => ?_
    cases b with
    | true => trivial
    | false => exact ih fun y hy => h y (by simp [hy])

theorem kind_fault (name : String) :
    Meets (· = .badNumber) (fun _ => True) (InterfaceName.kind name) :=
  (InterfaceName.kind_meets name).imp fun _ _ => trivial

/-- The state of an interface cannot be told only if a number cannot be read. -/
theorem logicalState_meets (d : Device) (i : Interface) (k : PortKind) :
    Meets (· = .badNumber) (fun _ => True) (logicalState d i k) := by
  cases k with
  | physical => trivial
  | loopback => trivial
  | subinterface => exact (InterfaceName.split_meets i.name).bind fun _ _ => trivial
  | svi =>
    refine (InterfaceName.numberAfter_meets _ _).bind fun vlan _ => ?_
    split
    · refine (findFirst_meets fun p _ => ?_).bind fun _ _ => trivial
      refine (kind_fault p.name).bind fun k _ => ?_
      split <;> trivial
    · trivial
  | portChannel => exact (InterfaceName.numberAfter_meets _ _).bind fun _ _ => trivial

section OneDevice

variable {u : Topology} {key name : String} {d : Device} {i : Interface}

theorem refreshLogicalOne_meets {r : Refresh} (hd : u.devices.get? key = some d)
    (hr : r.topology.outline = u.outline) (e : String × Interface) :
    Meets (· = .badNumber) (fun r' => r'.topology.outline = u.outline) (refreshLogicalOne key r e) := by
  obtain ⟨d', hd', -⟩ := get?_of_outline hr.symm hd
  unfold refreshLogicalOne
  dsimp only
  refine (kind_fault e.2.name).bind fun k _ => ?_
  split
  · exact hr
  · rw [entry_eq hd', ok_bind]
    refine (logicalState_meets d' e.2 k).bind fun up _ => ?_
    split
    · exact hr
    · show (Refresh.mark _ _).topology.outline = _
      rw [Refresh.topology_mark, outline_modifyInterface]
      exact hr

/-- The state of an interface with a name that sorts but is not readable cannot be told. -/
theorem refreshLogicalOne_unreadable {r : Refresh} (hd : u.devices.get? key = some d)
    (hr : r.topology.outline = u.outline) (hname : i.name = name)
    (hkind : InterfaceName.kind name = .ok (kindOf name)) (sortable : InterfaceName.isSortable name = true)
    (unreadable : InterfaceName.isReadable name = false) :
    refreshLogicalOne key r (name, i) = .error .badNumber := by
  obtain ⟨d', hd', -⟩ := get?_of_outline hr.symm hd
  have number (length : Nat) (x : Except Fault Int) (hx : x = InterfaceName.numberAfter length name)
      (hbad : x.isOk = false) : x = .error .badNumber := by
    have only := InterfaceName.numberAfter_meets length name
    rw [← hx] at only
    cases x with
    | ok n => cases hbad
    | error f => rw [only.cause rfl]
  unfold InterfaceName.isReadable at unreadable
  rw [sortable, hkind, Bool.true_and] at unreadable
  unfold refreshLogicalOne Interface.kind
  simp only [hname, hkind, ok_bind, entry_eq hd']
  cases hk : kindOf name with
  | physical => rw [hk] at unreadable; cases unreadable
  | loopback => rw [hk] at unreadable; cases unreadable
  | subinterface => rw [hk] at unreadable; cases unreadable
  | svi =>
    rw [hk] at unreadable
    have vlan : InterfaceName.vlanOf name = .error .badNumber := number _ _ rfl unreadable
    simp only [reduceCtorEq, if_false, logicalState, hname, vlan, error_bind]
  | portChannel =>
    rw [hk] at unreadable
    have group : InterfaceName.groupOf name = .error .badNumber := number _ _ rfl unreadable
    simp only [reduceCtorEq, if_false, logicalState, hname, group, error_bind]

theorem sortedEntries_error (hmem : name ∈ d.interfaces.keys)
    (unsortable : InterfaceName.isSortable name = false) : d.sortedEntries = .error .badNumber := by
  obtain ⟨i, hi⟩ := Table.mem_keys.1 hmem
  have failed := mapM_error (f := fun e : String × Interface => do
      return (← InterfaceName.readSortKey e.1, e)) (e := Fault.badNumber) (x := (name, i))
    (l := d.interfaces.entries) (fun e _ => ?_) hi ?_
  · unfold Device.sortedEntries
    rw [failed]
    rfl
  · unfold InterfaceName.readSortKey
    split <;> trivial
  · unfold InterfaceName.readSortKey
    dsimp only
    rw [unsortable]
    rfl

theorem refreshLogical_meets {r : Refresh} (k : String) (hr : r.topology.outline = u.outline) :
    Meets (· = .badNumber) (fun r' => r'.topology.outline = u.outline) (refreshLogical r k) := by
  unfold refreshLogical
  cases hd : r.topology.devices.get? k with
  | none => exact hr
  | some d =>
    obtain ⟨d₀, hd₀, -⟩ := get?_of_outline hr hd
    have entries : Meets (· = .badNumber) (fun _ => True) d.sortedEntries := by
      by_cases hs : ∀ n ∈ d.interfaces.keys, InterfaceName.isSortable n = true
      · rw [Device.sortedEntries_eq hs]
        trivial
      · push Not at hs
        obtain ⟨n, hmem, hn⟩ := hs
        rw [sortedEntries_error hmem (by simpa using hn)]
        rfl
    refine entries.bind fun es _ => ?_
    exact Meets.foldlM hr fun r e _ hr => refreshLogicalOne_meets hd₀ hr e

/-- A device that has an interface whose name is not readable cannot be looked at. -/
theorem refreshLogical_unreadable {r : Refresh} (hd : u.devices.get? key = some d)
    (hr : r.topology.outline = u.outline) (hi : d.interfaces.get? name = some i) (hname : i.name = name)
    (hkind : InterfaceName.kind name = .ok (kindOf name))
    (unreadable : InterfaceName.isReadable name = false) : refreshLogical r key = .error .badNumber := by
  obtain ⟨d', hd', -, his⟩ := get?_of_outline hr.symm hd
  obtain ⟨i', hi', heq⟩ := interface_of_outline his hi
  have hname' : i'.name = name := by rw [← hname, heq]
  unfold refreshLogical
  simp only [hd']
  by_cases hs : ∀ n ∈ d'.interfaces.keys, InterfaceName.isSortable n = true
  · rw [Device.sortedEntries_eq hs, ok_bind]
    have sortable := hs name (Table.mem_keys_of_get? hi')
    exact foldlM_error (I := fun r => r.topology.outline = u.outline) hr
      (fun r e _ hr => refreshLogicalOne_meets hd hr e) (Device.mem_ordered.2 hi')
      fun r hr => refreshLogicalOne_unreadable hd hr hname' hkind sortable unreadable
  · push Not at hs
    obtain ⟨n, hmem, hn⟩ := hs
    rw [sortedEntries_error hmem (by simpa using hn), error_bind]

/-- A change of an interface whose name is not readable cannot be carried on. -/
theorem propagate_unreadable (h : u.Cabled) (hd : u.devices.get? key = some d)
    (hi : d.interfaces.get? name = some i) (hname : i.name = name)
    (hkind : InterfaceName.kind name = .ok (kindOf name))
    (unreadable : InterfaceName.isReadable name = false) (routing : Bool) :
    u.propagate key [name] routing = .error .badNumber := by
  have looks : Yields (Looks [⟨key, name⟩] ⟨u, []⟩) ([⟨key, name⟩].foldlM refreshPort ⟨u, []⟩) := by
    refine (refreshPorts_looks (r := ⟨u, []⟩) h).mono ?_ fun _ hr => hr
    rintro f ⟨e, he, hf⟩
    obtain rfl := List.mem_singleton.1 he
    rw [InterfaceName.split_eq_of_kind hkind] at hf
    cases hf
  obtain ⟨r, hok, hr⟩ := looks.exists_ok
  have only : sortEnds (distinct [(⟨key, name⟩ : LinkEnd)]) = [⟨key, name⟩] := rfl
  have failed : (sortTexts (distinct (r.dirty.map (·.device) ++ [key]))).foldlM refreshLogical r =
      .error .badNumber := by
    refine foldlM_error (I := fun r => r.topology.outline = u.outline) (x := key) hr.refreshes.outline
      (fun r k _ hr => refreshLogical_meets k hr) ?_
      fun r hr => refreshLogical_unreadable hd hr hi hname hkind unreadable
    unfold sortTexts
    rw [mem_sortBy, mem_distinct]
    simp
  unfold propagate propagatePorts
  rw [List.map_singleton, only, hok, ok_bind]
  dsimp only
  rw [failed, error_bind]

end OneDevice

end Topology

end NetRack
