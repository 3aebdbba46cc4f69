import NetRack.Proofs.Topology
import NetRack.Topology.Ospf
import Mathlib.Algebra.BigOperators.Group.List.Basic
import Mathlib.Data.List.Nodup
import Mathlib.Data.List.Perm.Subperm

/-!
# Frames and broadcast domains

In a sound topology a frame never fails to be followed.  Every frame arrives at the end of a link and
carries one of finitely many tags, so the frames that can ever be seen are bounded in number, and the
bound on how many are followed is never what ends the search.
-/

namespace NetRack

open InterfaceName (kindOf parentOf)

namespace Topology

variable {t : Topology}

/-! ## The frames that can be seen -/

/-- All interfaces of all devices. -/
def allInterfaces (t : Topology) : List Interface := t.devices.values.flatMap fun d => d.interfaces.values

/-- The tags that a frame can have, given that of the first. -/
def tags (t : Topology) (first : Option Int) : List (Option Int) :=
  none :: first :: t.allInterfaces.flatMap fun i => [some i.accessVlan, some i.nativeVlan]

/-- The frames that can be seen, given the tag of the first. -/
def allFrames (t : Topology) (first : Option Int) : List Frame :=
  (t.links.flatMap Link.ends).flatMap fun e => (t.tags first).map fun tag => ⟨e, tag⟩

theorem mem_allFrames {first : Option Int} {f : Frame} :
    f ∈ t.allFrames first ↔ (∃ l ∈ t.links, f.place ∈ l.ends) ∧ f.tag ∈ t.tags first := by
  unfold allFrames
  constructor
  · intro h
    obtain ⟨e, he, hf⟩ := List.mem_flatMap.1 h
    obtain ⟨tag, htag, rfl⟩ := List.mem_map.1 hf
    exact ⟨List.mem_flatMap.1 he, htag⟩
  · rintro ⟨hplace, htag⟩
    exact List.mem_flatMap.2 ⟨f.place, List.mem_flatMap.2 hplace, List.mem_map.2 ⟨f.tag, htag, rfl⟩⟩

theorem length_allInterfaces (t : Topology) :
    t.allInterfaces.length = (t.devices.values.map fun d => d.interfaces.size).foldl (· + ·) 0 := by
  unfold allInterfaces
  rw [← List.sum_eq_foldl, List.length_flatMap]
  congr 1
  refine List.map_congr_left fun d _ => ?_
  simp [Table.values, Table.size]

/-- The frames that can be seen are no more than the bound. -/
theorem length_allFrames (t : Topology) (first : Option Int) :
    (t.allFrames first).length ≤ t.frameBound := by
  have ends : (t.links.flatMap Link.ends).length = 2 * t.links.length := by
    rw [List.length_flatMap]
    simp only [Link.ends, List.length_cons, List.length_nil]
    rw [List.map_const', List.sum_replicate]
    simp [Nat.mul_comm]
  have tags : (t.tags first).length = 2 * t.allInterfaces.length + 2 := by
    unfold Topology.tags
    rw [List.length_cons, List.length_cons, List.length_flatMap]
    simp only [List.length_cons, List.length_nil]
    rw [List.map_const', List.sum_replicate]
    simp [Nat.mul_comm]
  unfold allFrames frameBound
  rw [List.length_flatMap]
  simp only [List.length_map]
  rw [List.map_const', List.sum_replicate, ends, tags, length_allInterfaces, Nat.nsmul_eq_mul]
  exact Nat.mul_le_mul_left _ (by omega)

theorem accessVlan_mem_tags {first : Option Int} {e : LinkEnd} {i : Interface} (h : t.port? e = some i) :
    some i.accessVlan ∈ t.tags first ∧ some i.nativeVlan ∈ t.tags first := by
  obtain ⟨d, hd, hi⟩ := device_of_port? h
  have hmem : i ∈ t.allInterfaces :=
    List.mem_flatMap.2 ⟨d, Table.mem_values.2 ⟨_, hd⟩, Table.mem_values.2 ⟨_, hi⟩⟩
  unfold tags
  exact ⟨by simpa using Or.inr ⟨i, hmem, Or.inl rfl⟩, by simpa using Or.inr ⟨i, hmem, Or.inr rfl⟩⟩

/-! ## What becomes of a frame -/

/-- Whether an interface is a working subinterface of a port for a tag. -/
def takesTag (port : String) (tag : Int) (i : Interface) : Bool :=
  parentOf i.name = port && (InterfaceName.subOf i.name).isSome && i.dot1qVlan = some tag && i.isActive

/-- Interfaces that exist, and frames that can be seen. -/
structure Within (t : Topology) (first : Option Int) (s : Spread) : Prop where
  found : ∀ e ∈ s.found, (t.port? e).isSome
  frames : ∀ f ∈ s.frames, f ∈ t.allFrames first

theorem within_empty {first : Option Int} {blocked : Bool} : t.Within first { blocked := blocked } :=
  ⟨fun _ h => (List.not_mem_nil h).elim, fun _ h => (List.not_mem_nil h).elim⟩

theorem within_append {first : Option Int} {a b : Spread} (ha : t.Within first a)
    (hb : t.Within first b) : t.Within first (a ++ b) := by
  constructor
  · intro e he
    rcases List.mem_append.1 (show e ∈ a.found ++ b.found from he) with he | he
    · exact ha.found e he
    · exact hb.found e he
  · intro f hf
    rcases List.mem_append.1 (show f ∈ a.frames ++ b.frames from hf) with hf | hf
    · exact ha.frames f hf
    · exact hb.frames f hf

theorem foldl_within {first : Option Int} {s : Spread} {ss : List Spread} (hs : t.Within first s)
    (hss : ∀ x ∈ ss, t.Within first x) : t.Within first (ss.foldl (· ++ ·) s) := by
  induction ss generalizing s with
  | nil => exact hs
  | cons x xs ih =>
    exact ih (within_append hs (hss x (by simp))) fun y hy => hss y (by simp [hy])

theorem leave_within {first tag : Option Int} (htag : tag ∈ t.tags first) (e : LinkEnd) :
    t.Within first (t.leave e tag) := by
  unfold leave
  cases hl : t.linkAt e with
  | none => exact within_empty
  | some l =>
    have hmem : l ∈ t.links := List.mem_of_find?_eq_some hl
    have htouch : l.touches e = true := by simpa using List.find?_some hl
    obtain ⟨p, hp, hpe⟩ := Link.other?_of_touches htouch
    simp only [hp]
    split
    · refine ⟨fun _ h => (List.not_mem_nil h).elim, fun f hf => ?_⟩
      rw [List.mem_singleton.1 hf]
      exact mem_allFrames.2 ⟨⟨l, hmem, hpe⟩, htag⟩
    · exact within_empty

variable (h : t.Sound)

include h

theorem floodPort_within {first : Option Int} {switch : String} {vlan : Int} {ingress : Option String}
    {d : Device} (hd : t.devices.get? switch = some d) {i : Interface}
    (hi : d.interfaces.get? i.name = some i) (hvlan : some vlan ∈ t.tags first) :
    Yields (t.Within first) (t.floodPort switch vlan ingress i) := by
  unfold floodPort
  simp only [(h.table hd).kind_eq hi, ok_bind, pure_eq_ok]
  refine Meets.ite (fun _ => within_empty) fun _ => ?_
  refine Meets.ite (fun _ => within_empty) fun _ => ?_
  refine Meets.ite (fun _ => within_empty) fun _ => ?_
  refine Meets.ite (fun _ => within_empty) fun _ => ?_
  refine leave_within ?_ _
  split
  · exact List.mem_cons_self
  · exact hvlan

theorem flood_within {first : Option Int} {switch : String} {vlan : Int} {ingress : Option String}
    {d : Device} (hd : t.devices.get? switch = some d) (hvlan : some vlan ∈ t.tags first) :
    Yields (t.Within first) (t.flood switch vlan ingress) := by
  have table := h.table hd
  unfold flood
  simp only [entry_eq hd, ok_bind, Device.sortedInterfaces_of_table table]
  have out := Meets.mapM_all (E := never) (P := t.Within first) (l := d.ordered.map Prod.snd)
    (f := t.floodPort switch vlan ingress) fun i hi =>
      floodPort_within h hd ((Device.mem_ordered_values table).1 hi) hvlan
  refine out.bind fun ss hss => foldl_within ?_ hss
  cases hi : d.interfaces.get? (InterfaceName.ofVlan vlan) with
  | none => exact within_empty
  | some i =>
    simp only
    split
    · refine ⟨fun e he => ?_, fun _ h => (List.not_mem_nil h).elim⟩
      rw [List.mem_singleton.1 he, table.name_eq hi, port?_of_get? (e := ⟨switch, _⟩) hd, hi]
      rfl
    · exact within_empty

omit h in
/-- A tagged frame is for the first working subinterface of the port that has the tag. -/
theorem receiver_some {d : Device} (table : InterfaceTable d.interfaces) (port : String) (v : Int) :
    receiver d port (some v) =
      .ok (((d.ordered.map Prod.snd).find? (takesTag port v)).map (·.name)) := by
  have checked : ∀ j ∈ d.ordered.map Prod.snd, isReceiver port v j = .ok (takesTag port v j) := by
    intro j hj
    unfold isReceiver
    rw [table.split_eq ((Device.mem_ordered_values table).1 hj)]
    rfl
  unfold receiver
  simp only [Device.sortedInterfaces_of_table table, ok_bind, findFirst_ok checked, pure_eq_ok]

omit h in
theorem receiver_yields {d : Device} {port : String} {tag : Option Int} (table : InterfaceTable d.interfaces)
    (hport : (d.interfaces.get? port).isSome) :
    Yields (fun found => ∀ name, found = some name → (d.interfaces.get? name).isSome)
      (receiver d port tag) := by
  obtain ⟨i, hi⟩ := Option.isSome_iff_exists.1 hport
  cases tag with
  | none =>
    unfold receiver
    simp only [hi, need, ok_bind, pure_eq_ok]
    intro name hname
    split at hname
    · cases hname
      exact hport
    · cases hname
  | some v =>
    rw [receiver_some table]
    intro name hname
    obtain ⟨j, hj, rfl⟩ := Option.map_eq_some_iff.1 hname
    have hget := (Device.mem_ordered_values table).1 (List.mem_of_find?_eq_some hj)
    rw [hget]
    rfl

omit h in
theorem classify_tag {i : Interface} {tag : Option Int} {vlan : Int} (hc : classify i tag = some vlan) :
    some vlan = some i.accessVlan ∨ some vlan = some i.nativeVlan ∨ some vlan = tag := by
  unfold classify at hc
  split at hc
  · split at hc
    · exact Or.inl hc.symm
    · cases hc
  · dsimp only at hc
    split at hc
    · cases tag with
      | none => exact Or.inr (Or.inl hc.symm)
      | some v => exact Or.inr (Or.inr hc.symm)
    · cases hc

theorem arrive_within {first : Option Int} {f : Frame} (hf : f ∈ t.allFrames first) :
    Yields (t.Within first) (t.arrive f) := by
  obtain ⟨⟨l, hl, hplace⟩, htag⟩ := mem_allFrames.1 hf
  obtain ⟨i, hi⟩ := h.end_port hl hplace
  obtain ⟨d, hd, hget⟩ := device_of_port? hi
  unfold arrive
  simp only [entry_eq hd, hget, need, ok_bind, pure_eq_ok]
  refine Meets.ite (fun _ => ?_) fun _ => ?_
  · cases hc : classify i f.tag with
    | none => exact within_empty
    | some vlan =>
      refine Meets.ite (fun _ => flood_within h hd ?_) fun _ => within_empty
      rcases classify_tag hc with heq | heq | heq
      · rw [heq]
        exact (accessVlan_mem_tags hi).1
      · rw [heq]
        exact (accessVlan_mem_tags hi).2
      · rw [heq]
        exact htag
  · have hport : (d.interfaces.get? f.place.port).isSome := by rw [hget]; rfl
    refine (receiver_yields (h.table hd) hport).bind fun found hfound => ?_
    cases found with
    | none => exact within_empty
    | some name =>
      refine ⟨fun e he => ?_, fun _ hx => (List.not_mem_nil hx).elim⟩
      rw [List.mem_singleton.1 he, port?_of_get? (e := ⟨f.place.device, name⟩) hd]
      exact hfound name rfl

/-! ## Following frames -/

omit h in
theorem follow_rest {visited frames : List Frame} {f : Frame} {rest : List Frame}
    (hd : frames.dropWhile (· ∈ visited) = f :: rest) :
    f ∉ visited ∧ f ∈ frames ∧ ∀ g ∈ rest, g ∈ frames := by
  have suffix : (f :: rest) <:+ frames := hd ▸ List.dropWhile_suffix _
  refine ⟨?_, suffix.subset (by simp), fun g hg => suffix.subset (by simp [hg])⟩
  have := List.head?_dropWhile_not (· ∈ visited) frames
  rw [hd] at this
  simpa using this

theorem follow_within {first : Option Int} {fuel : Nat} {visited : List Frame} {s : Spread}
    (hs : t.Within first s) : Yields (t.Within first) (t.follow fuel visited s) := by
  induction fuel generalizing visited s with
  | zero => exact hs
  | succ fuel ih =>
    unfold follow
    cases hd : s.frames.dropWhile (· ∈ visited) with
    | nil => exact hs
    | cons f rest =>
      obtain ⟨-, hf, hrest⟩ := follow_rest hd
      refine (arrive_within h (hs.frames f hf)).bind fun next hnext => ?_
      refine ih ⟨fun e he => ?_, fun g hg => ?_⟩
      · rcases List.mem_append.1 he with he | he
        · exact hs.found e he
        · exact hnext.found e he
      · rcases List.mem_append.1 hg with hg | hg
        · exact hs.frames g (hrest g hg)
        · exact hnext.frames g hg

/-- Topologies in which frames fare alike give the same, however many frames either may follow, as
long as it may follow more than can be seen. -/
theorem follow_congr {u : Topology} {first : Option Int}
    (agree : ∀ f ∈ t.allFrames first, u.arrive f = t.arrive f) {m n : Nat} {visited : List Frame}
    (hvisited : ∀ f ∈ visited, f ∈ t.allFrames first) (nodup : visited.Nodup)
    (hm : (t.allFrames first).length < visited.length + m)
    (hn : (t.allFrames first).length < visited.length + n) {s : Spread} (hs : t.Within first s) :
    u.follow m visited s = t.follow n visited s := by
  have fits : visited.length ≤ (t.allFrames first).length :=
    (List.subperm_of_subset nodup hvisited).length_le
  induction m generalizing n visited s with
  | zero => omega
  | succ m ih =>
    cases n with
    | zero => omega
    | succ n =>
      unfold follow
      cases hd : s.frames.dropWhile (· ∈ visited) with
      | nil => rfl
      | cons f rest =>
        obtain ⟨hnew, hf, hrest⟩ := follow_rest hd
        have hmem := hs.frames f hf
        simp only [agree f hmem]
        obtain ⟨next, hok, hnext⟩ := (arrive_within h hmem).exists_ok
        simp only [hok, ok_bind]
        have hvisited' : ∀ g ∈ f :: visited, g ∈ t.allFrames first := by
          intro g hg
          rcases List.mem_cons.1 hg with rfl | hg
          · exact hmem
          · exact hvisited g hg
        have nodup' : (f :: visited).Nodup := List.nodup_cons.2 ⟨hnew, nodup⟩
        refine ih hvisited' nodup' ?_ ?_ ⟨?_, ?_⟩ (List.subperm_of_subset nodup' hvisited').length_le
        · rw [List.length_cons]
          omega
        · rw [List.length_cons]
          omega
        · intro e he
          rcases List.mem_append.1 he with he | he
          · exact hs.found e he
          · exact hnext.found e he
        · intro g hg
          rcases List.mem_append.1 hg with hg | hg
          · exact hs.frames g (hrest g hg)
          · exact hnext.frames g hg

/-! ## Domains -/

omit h in
theorem isSwitchSvi_eq {d : Device} (table : InterfaceTable d.interfaces) {port : String} {i : Interface}
    (hi : d.interfaces.get? port = some i) :
    isSwitchSvi d port = .ok (d.isA .switch && decide (kindOf port = .svi)) := by
  unfold isSwitchSvi
  have hk := table.kind_eq hi
  unfold Interface.kind at hk
  rw [table.name_eq hi] at hk
  rw [hk]
  cases d.isA .switch
  · rfl
  · exact congrArg Except.ok (by cases kindOf port <;> rfl)

/-- What leaves an interface can be followed. -/
theorem depart_within {start : LinkEnd} {i : Interface} (hi : t.port? start = some i) :
    ∃ first, Yields (t.Within first) (t.depart start) := by
  obtain ⟨d, hd, hget⟩ := device_of_port? hi
  have table := h.table hd
  have hread := table.readable_of_get? hget
  have hsplit := table.split_eq hget
  rw [table.name_eq hget] at hsplit
  unfold depart
  simp only [entry_eq hd, isSwitchSvi_eq table hget, ok_bind, hget, need, hsplit, pure_eq_ok]
  by_cases hsvi : (d.isA .switch && decide (kindOf start.port = .svi)) = true
  · have hk : kindOf start.port = .svi := by simpa using (Bool.and_eq_true_iff.1 hsvi).2
    rw [if_pos hsvi, InterfaceName.vlanOf_of_readable hread hk, ok_bind]
    exact ⟨some (InterfaceName.vlanNumber start.port), flood_within h hd (by simp [tags])⟩
  · rw [if_neg hsvi]
    exact ⟨if (InterfaceName.subOf start.port).isSome then i.dot1qVlan else none,
      leave_within (by simp [tags]) _⟩

/-- The broadcast domain of an interface can be found, and its interfaces exist. -/
theorem domain_yields {start : LinkEnd} {i : Interface} (hi : t.port? start = some i) :
    Yields (fun r => ∀ e ∈ r.1, (t.port? e).isSome) (t.domain start) := by
  obtain ⟨first, hdepart⟩ := depart_within h hi
  unfold domain
  refine hdepart.bind fun s hs => ?_
  refine (follow_within h hs).bind fun s' hs' => ?_
  intro e he
  have hmem := mem_distinct.1 he
  exact hs'.found e (List.mem_filter.1 hmem).1

/-! ## A device without links -/

omit h in
theorem frameBound_insert {key : String} (fresh : key ∉ t.devices.keys) (d : Device) :
    t.frameBound ≤ ({ t with devices := t.devices.insert key d } : Topology).frameBound := by
  unfold frameBound
  rw [Table.values_insert_of_not_mem fresh, List.map_append, ← List.sum_eq_foldl, ← List.sum_eq_foldl,
    List.sum_append]
  refine Nat.mul_le_mul_left _ ?_
  omega

/-- A new device does not change the broadcast domains of the others. -/
theorem domain_insert {key : String} (fresh : key ∉ t.devices.keys) (d : Device) {start : LinkEnd}
    {i : Interface} (hi : t.port? start = some i) :
    ({ t with devices := t.devices.insert key d } : Topology).domain start = t.domain start := by
  generalize hu : ({ t with devices := t.devices.insert key d } : Topology) = u
  have entry (k : String) (hk : k ∈ t.devices.keys) : u.entry k = t.entry k := by
    have hne : k ≠ key := fun heq => fresh (heq ▸ hk)
    rw [← hu]
    unfold Topology.entry
    rw [Table.get?_insert, if_neg hne]
  have leaves (e : LinkEnd) (tag : Option Int) : u.leave e tag = t.leave e tag := by
    rw [← hu]
    rfl
  have floods (k : String) (hk : k ∈ t.devices.keys) (vlan : Int) (ingress : Option String) :
      u.flood k vlan ingress = t.flood k vlan ingress := by
    unfold flood
    rw [entry k hk, ← hu]
    rfl
  have arrives : ∀ first, ∀ f ∈ t.allFrames first, u.arrive f = t.arrive f := by
    intro first f hf
    obtain ⟨⟨l, hl, hplace⟩, -⟩ := mem_allFrames.1 hf
    have hk := (h.ends l hl _ hplace).device_mem
    unfold arrive
    simp only [entry _ hk, floods _ hk]
  have bound : t.frameBound ≤ u.frameBound := hu ▸ frameBound_insert fresh d
  obtain ⟨first, hdepart⟩ := depart_within h hi
  have departs : u.depart start = t.depart start := by
    unfold depart
    simp only [entry _ (device_mem_of_port? hi), floods _ (device_mem_of_port? hi), leaves]
  obtain ⟨s, hs, hwithin⟩ := hdepart.exists_ok
  have few := length_allFrames t first
  have unseen : ∀ f ∈ ([] : List Frame), f ∈ t.allFrames first := fun _ hx => (List.not_mem_nil hx).elim
  have follows := follow_congr h (u := u) (arrives first) (m := u.frameBound + 1) (n := t.frameBound + 1)
    unseen List.nodup_nil (by simp; omega) (by simp; omega) hwithin
  unfold domain
  rw [departs, hs, ok_bind, ok_bind, follows]

end Topology

end NetRack
