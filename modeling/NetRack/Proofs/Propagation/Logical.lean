import NetRack.Proofs.Propagation.Ports

/-!
# Interfaces that are not physical

What an interface that is not physical has to be like is dictated by its own switch, by the physical
ports of its device and by the VLAN table.  None of that changes when interfaces that are not
physical go up or down, so one look at each of them in any order leaves all of them as dictated.
-/

namespace NetRack

open InterfaceName (kindOf parentOf vlanNumber groupNumber)

namespace Device

variable {d : Device} {f : String → Bool} {k : String} {i : Interface}

/-- Whether an interface works, as the rest of its device dictates; a physical one as it is. -/
def dictated (d : Device) (i : Interface) : Bool :=
  match kindOf i.name with
  | .physical => i.operUp
  | .loopback => i.adminUp
  | .subinterface => i.adminUp && (d.interfaces.get? (parentOf i.name)).any (·.operUp)
  | .svi =>
    (i.adminUp && d.vlans.contains (vlanNumber i.name)) && d.interfaces.values.any fun p =>
      decide (kindOf p.name = .physical) && (p.operUp && p.carries (vlanNumber i.name))
  | .portChannel =>
    i.adminUp && d.interfaces.values.any fun p =>
      p.operUp && decide (p.channelGroup = some (groupNumber i.name))

/-- What is dictated is read off the interfaces and the VLANs. -/
theorem dictated_congr {d d' : Device} (interfaces : d'.interfaces = d.interfaces) (vlans : d'.vlans = d.vlans) :
    d'.dictated = d.dictated := by
  funext i
  unfold dictated
  rw [interfaces, vlans]

/-- Every interface works exactly if the rest of the device dictates it. -/
def Obeys (d : Device) : Prop := ∀ k i, d.interfaces.get? k = some i → i.operUp = d.dictated i

/-- The device with its interfaces working or not by their names. -/
def withOper (d : Device) (f : String → Bool) : Device :=
  { d with interfaces := d.interfaces.mapValues fun k i => { i with operUp := f k } }

theorem get?_withOper (d : Device) (f : String → Bool) (k : String) :
    (d.withOper f).interfaces.get? k = (d.interfaces.get? k).map fun i => { i with operUp := f k } :=
  Table.get?_mapValues d.interfaces _ k

theorem withOper_self (h : ∀ k i, d.interfaces.get? k = some i → f k = i.operUp) : d.withOper f = d := by
  unfold withOper
  rw [Table.mapValues_id]
  intro k i hmem
  rw [h k i (Table.get?_eq_some.2 hmem)]

theorem table_withOper (h : InterfaceTable d.interfaces) : InterfaceTable (d.withOper f).interfaces := by
  refine Topology.table_of_outline h ?_
  unfold withOper
  rw [Table.mapValues_mapValues]

theorem modifyInterface_withOper {up : Bool} :
    (d.withOper f).modifyInterface k (fun i => { i with operUp := up }) =
      d.withOper fun n => if n = k then up else f n := by
  unfold modifyInterface withOper Table.modify
  simp only [Table.mapValues_mapValues]
  congr
  funext n i
  split <;> rfl

/-- Whether the physical ports are left as they are. -/
def KeepsPhysical (d : Device) (f : String → Bool) : Prop :=
  ∀ k i, d.interfaces.get? k = some i → kindOf k = .physical → f k = i.operUp

theorem any_withOper {q : Interface → Bool}
    (h : ∀ k i, d.interfaces.get? k = some i → q { i with operUp := f k } = q i) :
    (d.withOper f).interfaces.values.any q = d.interfaces.values.any q := by
  unfold withOper Table.values
  rw [Table.entries_mapValues, List.map_map, List.any_map, List.any_map, Bool.eq_iff_iff,
    List.any_eq_true, List.any_eq_true]
  refine exists_congr fun e => and_congr_right fun he => ?_
  have := h e.1 e.2 (Table.get?_eq_some.2 he)
  simp only [Function.comp_apply, this]

/-- What is dictated does not depend on which interfaces that are not physical work. -/
theorem dictated_withOper (h : InterfaceTable d.interfaces) (hf : d.KeepsPhysical f) {b : Bool}
    (hi : d.interfaces.get? k = some i) (hk : kindOf k ≠ .physical) :
    (d.withOper f).dictated { i with operUp := b } = d.dictated i := by
  have hname : i.name = k := h.name_eq hi
  unfold dictated
  simp only [hname]
  cases hkind : kindOf k with
  | physical => exact absurd hkind hk
  | loopback => rfl
  | subinterface =>
    obtain ⟨hparent, hphys⟩ := h.parents k (Table.mem_keys_of_get? hi) hkind
    simp only [get?_withOper]
    congr 1
    cases hp : d.interfaces.get? (parentOf k) with
    | none => rfl
    | some p => simp [hf _ p hp hphys]
  | svi =>
    simp only
    congr 1
    refine any_withOper fun n p hp => ?_
    have hn : p.name = n := h.name_eq hp
    by_cases hphys : kindOf n = .physical
    · rw [hf n p hp hphys]
    · simp [hn, hphys]
  | portChannel =>
    simp only
    congr 1
    refine any_withOper fun n p hp => ?_
    by_cases hg : p.channelGroup = some (groupNumber k)
    · rw [hf n p hp ((h.each n p hp).member _ hg).1]
    · simp [hg]

end Device

namespace Topology

/-! ## What is computed is what is dictated -/

theorem bringsUpVlan_eq {d : Device} (h : InterfaceTable d.interfaces) (vlan : Int) {p : Interface}
    (hp : p ∈ d.interfaces.values) :
    bringsUpVlan vlan p = .ok (decide (kindOf p.name = .physical) && (p.operUp && p.carries vlan)) := by
  unfold bringsUpVlan
  rw [h.kind_eq (h.get?_of_mem_values hp), ok_bind]
  split
  · rename_i hk
    simp [hk]
  · rename_i hk
    simp [hk]

theorem logicalState_eq {d : Device} (h : InterfaceTable d.interfaces) {k : String} {i : Interface}
    (hi : d.interfaces.get? k = some i) : logicalState d i (kindOf k) = .ok (d.dictated i) := by
  have hname : i.name = k := h.name_eq hi
  have hread := h.readable_of_get? hi
  unfold Device.dictated
  rw [hname]
  cases hkind : kindOf k with
  | physical => rfl
  | loopback => rfl
  | subinterface =>
    simp only [logicalState, h.split_eq hi, ok_bind]
    rfl
  | svi =>
    simp only [logicalState, hname, InterfaceName.vlanOf_of_readable hread hkind, ok_bind]
    rw [anyOf_ok fun p hp => bringsUpVlan_eq h _ hp]
    split
    · rename_i hon
      rw [hon, Bool.true_and]
    · rename_i hon
      rw [Bool.not_eq_true] at hon
      rw [hon, Bool.false_and]
      rfl
  | portChannel =>
    simp only [logicalState, hname, InterfaceName.groupOf_of_readable hread hkind, ok_bind]
    rfl

/-! ## One device -/

/-- What looking anew at the interfaces of a device that are not physical does. -/
structure Dictates (device : String) (r r' : Refresh) : Prop where
  refreshes : Refreshes r r'
  links : r'.topology.links = r.topology.links
  others : ∀ k, k ≠ device → r'.topology.devices.get? k = r.topology.devices.get? k
  physical : ∀ e, kindOf e.port = .physical → r'.topology.works e = r.topology.works e
  obeys : ∀ d, r'.topology.devices.get? device = some d → d.Obeys

/-- How far looking at the interfaces of a device has come: those in `done` are as dictated. -/
structure Progress (device : String) (d : Device) (done : String → Prop) (r r' : Refresh) : Prop where
  refreshes : Refreshes r r'
  links : r'.topology.links = r.topology.links
  others : ∀ k, k ≠ device → r'.topology.devices.get? k = r.topology.devices.get? k
  state : ∃ f, r'.topology.devices.get? device = some (d.withOper f) ∧ d.KeepsPhysical f ∧
    ∀ k i, d.interfaces.get? k = some i → (done k → f k = d.dictated i) ∧ (¬done k → f k = i.operUp)

theorem refreshLogicalOne_progress {device : String} {d : Device} (h : InterfaceTable d.interfaces)
    {done : String → Prop} {r r' : Refresh} {k : String} {i : Interface}
    (hp : Progress device d done r r') (hi : d.interfaces.get? k = some i) (fresh : ¬done k) :
    Yields (Progress device d (fun n => n = k ∨ done n) r) (refreshLogicalOne device r' (k, i)) := by
  obtain ⟨f, hget, hphys, hstate⟩ := hp.state
  have hfk : f k = i.operUp := (hstate k i hi).2 fresh
  have hname : i.name = k := h.name_eq hi
  -- The state of `k` is right at last; nothing is known to have changed elsewhere.
  have settled {g : String → Bool} (hg : g k = d.dictated i) (same : ∀ n, n ≠ k → g n = f n) :
      ∀ n j, d.interfaces.get? n = some j →
        ((n = k ∨ done n) → g n = d.dictated j) ∧ (¬(n = k ∨ done n) → g n = j.operUp) := by
    intro n j hj
    by_cases hn : n = k
    · subst hn
      rw [hi] at hj
      cases hj
      exact ⟨fun _ => hg, fun hnot => absurd (Or.inl rfl) hnot⟩
    · rw [same n hn]
      refine ⟨?_, fun hnot => (hstate n j hj).2 fun hdone => hnot (Or.inr hdone)⟩
      rintro (heq | hdone)
      · exact absurd heq hn
      · exact (hstate n j hj).1 hdone
  unfold refreshLogicalOne
  simp only [h.kind_eq hi, ok_bind, pure_eq_ok]
  split
  · rename_i hk
    have hself : f k = d.dictated i := by
      unfold Device.dictated
      rw [hname, hk]
      exact hfk
    exact ⟨hp.refreshes, hp.links, hp.others, f, hget, hphys, settled hself fun _ _ => rfl⟩
  · rename_i hk
    have hi' : (d.withOper f).interfaces.get? k = some i := by
      rw [Device.get?_withOper, hi, Option.map_some, hfk]
    have hup : (d.withOper f).dictated i = d.dictated i := by
      have := Device.dictated_withOper (b := i.operUp) h hphys hi hk
      exact this
    rw [entry_eq hget, ok_bind, logicalState_eq (Device.table_withOper h) hi', ok_bind, hup]
    split
    · rename_i hsame
      exact ⟨hp.refreshes, hp.links, hp.others, f, hget, hphys,
        settled (hfk.trans hsame) fun _ _ => rfl⟩
    · have hdev : device ∈ r'.topology.devices.keys := Table.mem_keys_of_get? hget
      have hset := Refresh.setOper_refreshes (r := r') (e := ⟨device, k⟩) (b := d.dictated i) hdev
      rw [hname]
      refine ⟨hp.refreshes.trans hset, ?_, ?_, fun n => if n = k then d.dictated i else f n, ?_, ?_, ?_⟩
      · exact (congrArg Topology.links (Refresh.topology_setOper r' ⟨device, k⟩ _)).trans hp.links
      · intro n hn
        refine Eq.trans ?_ (hp.others n hn)
        rw [Refresh.topology_mark]
        unfold modifyInterface
        rw [get?_modifyDevice, if_neg hn]
      · rw [Refresh.topology_mark]
        unfold modifyInterface
        rw [get?_modifyDevice, if_pos rfl, hget, Option.map_some, Device.modifyInterface_withOper]
      · intro n j hj hkn
        have hne : n ≠ k := fun heq => hk (heq ▸ hkn)
        exact (if_neg hne).trans (hphys n j hj hkn)
      · exact settled (if_pos rfl) fun n hn => if_neg hn

theorem refreshLogical_fold {device : String} {d : Device} (h : InterfaceTable d.interfaces)
    {es : List (String × Interface)} (hes : ∀ e ∈ es, d.interfaces.get? e.1 = some e.2)
    (nodup : (es.map Prod.fst).Nodup) {done : String → Prop} (fresh : ∀ e ∈ es, ¬done e.1)
    {r r' : Refresh} (hp : Progress device d done r r') :
    Yields (Progress device d (fun n => n ∈ es.map Prod.fst ∨ done n) r)
      (es.foldlM (refreshLogicalOne device) r') := by
  induction es generalizing done r' with
  | nil => simpa using hp
  | cons e es ih =>
    obtain ⟨k, i⟩ := e
    rw [List.map_cons, List.nodup_cons] at nodup
    rw [List.foldlM_cons]
    have first := refreshLogicalOne_progress h hp (hes (k, i) (by simp)) (fresh (k, i) (by simp))
    refine first.bind fun r'' hr'' => ?_
    have rest := ih (fun e he => hes e (by simp [he])) nodup.2 ?_ hr''
    · refine rest.imp fun r3 hr3 => ?_
      have same : (fun n => n ∈ es.map Prod.fst ∨ (n = k ∨ done n)) =
          fun n => n ∈ ((k, i) :: es).map Prod.fst ∨ done n := by
        funext n
        simp only [List.map_cons, List.mem_cons]
        exact propext (by tauto)
      rw [← same]
      exact hr3
    · intro e he
      rintro (heq | hdone)
      · have hmem : e.1 ∈ es.map Prod.fst := List.mem_map.2 ⟨e, he, rfl⟩
        exact nodup.1 (heq ▸ hmem)
      · exact fresh e (by simp [he]) hdone

theorem ordered_nodup (d : Device) : (d.ordered.map Prod.fst).Nodup :=
  ((sortBy_perm _ _).map Prod.fst).nodup_iff.2 d.interfaces.nodup

/-- Looking at the interfaces of a device leaves them as dictated. -/
theorem refreshLogical_dictates {r : Refresh} {device : String}
    (h : ∀ d, r.topology.devices.get? device = some d → InterfaceTable d.interfaces) :
    Yields (Dictates device r) (refreshLogical r device) := by
  unfold refreshLogical
  cases hd : r.topology.devices.get? device with
  | none =>
    refine ⟨Refreshes.refl r, rfl, fun _ _ => rfl, fun _ _ => rfl, ?_⟩
    intro d hd'
    rw [hd] at hd'
    cases hd'
  | some d =>
    have table := h d hd
    simp only [Device.sortedEntries_of_table table, ok_bind]
    have start : Progress device d (fun _ => False) r r := by
      have now : ∀ k i, d.interfaces.get? k = some i →
          (d.interfaces.get? k).any (·.operUp) = i.operUp := by
        intro k i hi
        rw [hi]
        rfl
      refine ⟨Refreshes.refl r, rfl, fun _ _ => rfl,
        fun k => (d.interfaces.get? k).any (·.operUp), ?_, fun k i hi _ => now k i hi, fun k i hi => ?_⟩
      · rw [Device.withOper_self now, hd]
      · exact ⟨False.elim, fun _ => now k i hi⟩
    have all := refreshLogical_fold table (fun e he => Device.mem_ordered.1 he)
      (ordered_nodup d) (fun _ _ => id) start
    refine all.imp fun r' hr' => ?_
    obtain ⟨f, hget, hphys, hstate⟩ := hr'.state
    have done : ∀ k i, d.interfaces.get? k = some i → f k = d.dictated i := by
      intro k i hi
      exact (hstate k i hi).1 (Or.inl (List.mem_map_of_mem (f := Prod.fst) (Device.mem_ordered.2 hi)))
    refine ⟨hr'.refreshes, hr'.links, hr'.others, ?_, ?_⟩
    · intro e he
      unfold works port?
      by_cases hdev : e.device = device
      · rw [hdev, hget, hd, Option.bind_some, Option.bind_some, Device.get?_withOper]
        cases hi : d.interfaces.get? e.port with
        | none => rfl
        | some i => simp [hphys _ i hi he]
      · rw [hr'.others _ hdev]
    · intro d' hd'
      rw [hget] at hd'
      cases hd'
      intro k i' hi'
      rw [Device.get?_withOper] at hi'
      obtain ⟨i, hi, rfl⟩ := Option.map_eq_some_iff.1 hi'
      by_cases hk : kindOf k = .physical
      · unfold Device.dictated
        simp only [table.name_eq hi, hk]
      · rw [Device.dictated_withOper table hphys hi hk]
        exact done k i hi

/-- Looking at the interfaces of a device that are as dictated changes nothing. -/
theorem refreshLogical_obeyed {r : Refresh} {device : String} {d : Device}
    (hd : r.topology.devices.get? device = some d) (table : InterfaceTable d.interfaces) (obeys : d.Obeys) :
    refreshLogical r device = .ok r := by
  have one : ∀ e ∈ d.ordered, refreshLogicalOne device r e = .ok r := by
    rintro ⟨k, i⟩ he
    have hi : d.interfaces.get? k = some i := Device.mem_ordered.1 he
    unfold refreshLogicalOne
    simp only [table.kind_eq hi, ok_bind, pure_eq_ok]
    split
    · rfl
    · rw [entry_eq hd, ok_bind, logicalState_eq table hi, ok_bind, if_pos (obeys k i hi)]
  unfold refreshLogical
  simp only [hd, Device.sortedEntries_of_table table, ok_bind]
  generalize d.ordered = es at one
  induction es with
  | nil => rfl
  | cons e es ih => rw [List.foldlM_cons, one e (by simp), ok_bind, ih fun x hx => one x (by simp [hx])]

end Topology

end NetRack
