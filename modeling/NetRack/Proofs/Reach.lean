import NetRack.Proofs.Domain
import Mathlib

/-!
# What a frame reaches

In a sound topology the ports along the way of a frame tell all that becomes of it: where two ports are
joined, under which tag a switch port sends the frames of a VLAN, and which VLAN it puts a frame into.  The
broadcast domain of an interface is exactly what takes a frame that leaves it, at the first port or at a later
one, since no search ends before all frames have been followed.
-/

namespace NetRack

open InterfaceName (kindOf parentOf subOf vlanNumber)

/-- The tag under which a switch port sends the frames of a VLAN. -/
def Interface.tagFor (i : Interface) (vlan : Int) : Option Int :=
  if i.mode.holds .access || vlan = i.nativeVlan then none else some vlan

/-- The tag under which a routed interface sends: a subinterface may have one. -/
def Interface.outTag (i : Interface) : Option Int :=
  if kindOf i.name = .subinterface then i.dot1qVlan else none

namespace Topology

variable {t : Topology}

/-! ## Joined ports -/

/-- Whether a link that is up joins two ports. -/
def Joined (t : Topology) (a b : LinkEnd) : Prop :=
  ∃ l ∈ t.links, l.up = true ∧ (l.a = a ∧ l.b = b ∨ l.a = b ∧ l.b = a)

theorem Joined.symm {a b : LinkEnd} (h : t.Joined a b) : t.Joined b a := by
  obtain ⟨l, hl, up, ends⟩ := h
  exact ⟨l, hl, up, ends.symm⟩

theorem Joined.link {a b : LinkEnd} (h : t.Joined a b) :
    ∃ l ∈ t.links, l.up = true ∧ a ∈ l.ends ∧ b ∈ l.ends := by
  obtain ⟨l, hl, up, ⟨rfl, rfl⟩ | ⟨rfl, rfl⟩⟩ := h
  · exact ⟨l, hl, up, by simp [Link.ends], by simp [Link.ends]⟩
  · exact ⟨l, hl, up, by simp [Link.ends], by simp [Link.ends]⟩

theorem Joined.hasPort (hc : t.Cabled) {a b : LinkEnd} (h : t.Joined a b) : t.HasPort b := by
  obtain ⟨l, hl, -, -, hb⟩ := h.link
  exact hc.ends l hl b hb

/-- The port across a link that is up. -/
theorem Joined.peerOf_eq (hc : t.Cabled) {a b : LinkEnd} (h : t.Joined a b) : t.peerOf a = some b := by
  obtain ⟨l, hl, -, ends⟩ := h
  have apart := hc.ends_ne hl
  have at_a : t.linkAt a = some l := by
    rw [hc.linkAt_iff]
    rcases ends with ⟨rfl, -⟩ | ⟨-, rfl⟩ <;> exact ⟨hl, by simp [Link.ends]⟩
  unfold peerOf
  rw [at_a, Option.bind_some]
  unfold Link.other?
  rcases ends with ⟨rfl, rfl⟩ | ⟨rfl, rfl⟩
  · rw [if_pos rfl]
  · rw [if_neg apart, if_pos rfl]

/-- What is sent out of a port arrives where the port is joined to. -/
theorem mem_leave (hc : t.Cabled) {e : LinkEnd} {tag : Option Int} {g : Frame} :
    g ∈ (t.leave e tag).frames ↔ t.Joined e g.place ∧ g.tag = tag := by
  unfold leave
  constructor
  · intro hg
    cases hl : t.linkAt e with
    | none => simp [hl] at hg
    | some l =>
      have hmem := (hc.linkAt_iff.1 hl).1
      simp only [hl] at hg
      split at hg
      · rename_i up
        cases ho : l.other? e with
        | none => simp [ho] at hg
        | some p =>
          rw [ho] at hg
          obtain rfl : g = ⟨p, tag⟩ := by simpa using hg
          refine ⟨⟨l, hmem, up, ?_⟩, rfl⟩
          unfold Link.other? at ho
          split at ho
          · exact Or.inl ⟨‹_›, by simpa using ho⟩
          · split at ho
            · exact Or.inr ⟨by simpa using ho, ‹_›⟩
            · cases ho
      · simp at hg
  · rintro ⟨joined, htag⟩
    have hpeer := joined.peerOf_eq hc
    obtain ⟨l, hl, up, he, -⟩ := joined.link
    have hat : t.linkAt e = some l := hc.linkAt_iff.2 ⟨hl, he⟩
    unfold peerOf at hpeer
    rw [hat, Option.bind_some] at hpeer
    simp only [hat, up, hpeer, if_true, List.mem_singleton]
    cases g
    simp only at htag
    rw [htag]

theorem leave_found (e : LinkEnd) (tag : Option Int) : (t.leave e tag).found = [] := by
  unfold leave
  repeat' split
  all_goals rfl

/-- What is sent out of a port is blocked if its link is down. -/
theorem leave_blocked {e : LinkEnd} {tag : Option Int} :
    (t.leave e tag).blocked = true ↔ ∃ l, t.linkAt e = some l ∧ l.up = false := by
  unfold leave
  cases hl : t.linkAt e with
  | none => simp
  | some l =>
    cases up : l.up with
    | true => cases ho : l.other? e <;> simp [up, ho]
    | false => simp [up]

/-! ## Switch ports -/

/-- The interface at an end if it takes part in switching. -/
def switchPort? (t : Topology) (e : LinkEnd) : Option Interface :=
  (t.devices.get? e.device).bind fun d => (d.interfaces.get? e.port).filter fun i =>
    d.isA .switch && i.isSwitchport

/-- Whether a switch knows a VLAN. -/
def knows (t : Topology) (switch : String) (vlan : Int) : Bool :=
  (t.devices.get? switch).any (·.vlans.contains vlan)

/-- Whether a switch port sends the frames of a VLAN, and under which tag. -/
def Sends (t : Topology) (e : LinkEnd) (vlan : Int) (tag : Option Int) : Prop :=
  kindOf e.port = .physical ∧
    ∃ i, t.port? e = some i ∧ i.carries vlan = true ∧ i.operUp = true ∧ tag = i.tagFor vlan

/-- Whether a switch floods the frames of a VLAN out of a port, and under which tag: the port is cabled and carries
the VLAN, whether it works or not. -/
def Floods (t : Topology) (e : LinkEnd) (vlan : Int) (tag : Option Int) : Prop :=
  kindOf e.port = .physical ∧ (t.linkAt e).isSome = true ∧
    ∃ i, t.port? e = some i ∧ i.carries vlan = true ∧ tag = i.tagFor vlan

/-- Whether nothing gets out of a port, since it is down or its link is. -/
def Shut (t : Topology) (e : LinkEnd) : Prop :=
  t.works e = false ∨ ∃ l, t.linkAt e = some l ∧ l.up = false

/-- Whether a switch port takes a frame with a tag, and which VLAN it puts the frame into. -/
def Admits (t : Topology) (e : LinkEnd) (tag : Option Int) (vlan : Int) : Prop :=
  ∃ i, t.switchPort? e = some i ∧ classify i tag = some vlan ∧ t.knows e.device vlan = true

/-- Whether an interface works and has an address. -/
def Active (t : Topology) (e : LinkEnd) : Prop := ∃ i, t.port? e = some i ∧ i.isActive = true

theorem switchPort?_eq_some {e : LinkEnd} {i : Interface} :
    t.switchPort? e = some i ↔
      ∃ d, t.devices.get? e.device = some d ∧ d.interfaces.get? e.port = some i ∧
        (d.isA .switch && i.isSwitchport) = true := by
  unfold switchPort?
  rw [Option.bind_eq_some_iff]
  refine exists_congr fun d => and_congr_right fun _ => ?_
  rw [Option.filter_eq_some_iff]

theorem switchPort?_of_get? {e : LinkEnd} {d : Device} {i : Interface}
    (hd : t.devices.get? e.device = some d) (hi : d.interfaces.get? e.port = some i) :
    t.switchPort? e = if (d.isA .switch && i.isSwitchport) = true then some i else none := by
  unfold switchPort?
  rw [hd, Option.bind_some, hi]
  rfl

/-- Frames are flooded over a link that is up if the port works. -/
theorem sends_iff_floods (hc : t.Cabled) {e p : LinkEnd} (joined : t.Joined e p) {vlan : Int}
    {tag : Option Int} : t.Sends e vlan tag ↔ t.Floods e vlan tag ∧ t.works e = true := by
  obtain ⟨l, hl, -, he, -⟩ := joined.link
  have cabled : (t.linkAt e).isSome = true := by
    rw [hc.linkAt_iff.2 ⟨hl, he⟩]
    rfl
  unfold works
  constructor
  · rintro ⟨hk, i, hi, carries, up, htag⟩
    exact ⟨⟨hk, cabled, i, hi, carries, htag⟩, by rw [hi]; exact up⟩
  · rintro ⟨⟨hk, -, i, hi, carries, htag⟩, up⟩
    rw [hi] at up
    exact ⟨hk, i, hi, carries, up, htag⟩

/-- A switch port that carries a VLAN is in a mode to do so. -/
theorem isSwitchport_of_carries {i : Interface} {vlan : Int} (h : i.carries vlan = true) :
    i.isSwitchport = true := by
  unfold Interface.carries at h
  unfold Interface.isSwitchport
  cases hm : i.mode with
  | known m => cases m <;> simp_all [Stored.holds]
  | foreign text other => simp [hm] at h

theorem mem_foldl_append {s : Spread} {ss : List Spread} {g : Frame} :
    g ∈ (ss.foldl (· ++ ·) s).frames ↔ g ∈ s.frames ∨ ∃ x ∈ ss, g ∈ x.frames := by
  induction ss generalizing s with
  | nil => simp
  | cons x xs ih =>
    rw [List.foldl_cons, ih]
    show g ∈ s.frames ++ x.frames ∨ _ ↔ _
    simp [or_assoc]

theorem foldl_append_found {s : Spread} {ss : List Spread} (h : ∀ x ∈ ss, x.found = []) :
    (ss.foldl (· ++ ·) s).found = s.found := by
  induction ss generalizing s with
  | nil => rfl
  | cons x xs ih =>
    rw [List.foldl_cons, ih fun y hy => h y (by simp [hy])]
    show s.found ++ x.found = s.found
    rw [h x (by simp), List.append_nil]

theorem foldl_append_blocked {s : Spread} {ss : List Spread} :
    (ss.foldl (· ++ ·) s).blocked = true ↔ s.blocked = true ∨ ∃ x ∈ ss, x.blocked = true := by
  induction ss generalizing s with
  | nil => simp
  | cons x xs ih =>
    rw [List.foldl_cons, ih]
    show (s.blocked || x.blocked) = true ∨ _ ↔ _
    simp [or_assoc]

/-! ## What becomes of a frame -/

/-- What a switch makes of a frame of a VLAN at one of its ports, unless it is the one where it came in. -/
structure FloodedPort (t : Topology) (e : LinkEnd) (vlan : Int) (ingress : Option String) (s : Spread) :
    Prop where
  found : s.found = []
  frames : ∀ g, g ∈ s.frames ↔ some e.port ≠ ingress ∧ t.Sends e vlan g.tag ∧ t.Joined e g.place
  blocked : s.blocked = true ↔ some e.port ≠ ingress ∧ (∃ tag, t.Floods e vlan tag) ∧ t.Shut e

/-- What a switch makes of a frame of a VLAN: its own interface in the VLAN takes it, and every port but the
one where it came in sends it on. -/
structure Flooded (t : Topology) (switch : String) (vlan : Int) (ingress : Option String) (s : Spread) :
    Prop where
  found : ∀ e, e ∈ s.found ↔ e = ⟨switch, InterfaceName.ofVlan vlan⟩ ∧ t.Active e
  frames : ∀ g, g ∈ s.frames ↔
    ∃ n, some n ≠ ingress ∧ t.Sends ⟨switch, n⟩ vlan g.tag ∧ t.Joined ⟨switch, n⟩ g.place
  blocked : s.blocked = true ↔
    ∃ n, some n ≠ ingress ∧ (∃ tag, t.Floods ⟨switch, n⟩ vlan tag) ∧ t.Shut ⟨switch, n⟩

/-- Whether an interface takes a frame with a tag that arrives at a routed port. -/
def Receives (t : Topology) (p : LinkEnd) (tag : Option Int) (e : LinkEnd) : Prop :=
  e.device = p.device ∧
    ∃ d, t.devices.get? p.device = some d ∧ receiver d p.port tag = .ok (some e.port)

/-- What becomes of a frame at the port where it arrives. -/
structure Arrived (t : Topology) (f : Frame) (s : Spread) : Prop where
  found : ∀ e, e ∈ s.found ↔
    (∃ v, t.Admits f.place f.tag v ∧ e = ⟨f.place.device, InterfaceName.ofVlan v⟩ ∧ t.Active e) ∨
      (t.switchPort? f.place = none ∧ t.Receives f.place f.tag e)
  frames : ∀ g, g ∈ s.frames ↔
    ∃ v, t.Admits f.place f.tag v ∧ ∃ n, n ≠ f.place.port ∧
      t.Sends ⟨f.place.device, n⟩ v g.tag ∧ t.Joined ⟨f.place.device, n⟩ g.place
  blocked : s.blocked = true ↔
    ∃ v, t.Admits f.place f.tag v ∧ ∃ n, n ≠ f.place.port ∧
      (∃ tag, t.Floods ⟨f.place.device, n⟩ v tag) ∧ t.Shut ⟨f.place.device, n⟩

theorem Admits.unique {e : LinkEnd} {tag : Option Int} {v w : Int} (hv : t.Admits e tag v)
    (hw : t.Admits e tag w) : v = w := by
  obtain ⟨i, hi, hc, -⟩ := hv
  obtain ⟨j, hj, hc', -⟩ := hw
  obtain rfl : i = j := Option.some.inj (hi.symm.trans hj)
  exact Option.some.inj (hc.symm.trans hc')

/-- A frame that a switch takes into a VLAN becomes what the switch makes of it in the VLAN. -/
theorem Flooded.arrived {f : Frame} {v : Int} {s : Spread} (here : t.Admits f.place f.tag v)
    (hs : t.Flooded f.place.device v (some f.place.port) s) : t.Arrived f s := by
  have switched : t.switchPort? f.place ≠ none := by
    obtain ⟨i, hi, -⟩ := here
    simp [hi]
  have elsewhere (P : Int → String → Prop) : (∃ n, some n ≠ some f.place.port ∧ P v n) ↔
      ∃ w, t.Admits f.place f.tag w ∧ ∃ n, n ≠ f.place.port ∧ P w n := by
    constructor
    · rintro ⟨n, hne, hn⟩
      exact ⟨v, here, n, fun heq => hne (congrArg some heq), hn⟩
    · rintro ⟨w, hw, n, hne, hn⟩
      exact ⟨n, fun heq => hne (Option.some.inj heq), hw.unique here ▸ hn⟩
  refine ⟨fun e => ?_, fun g => ?_, ?_⟩
  · rw [hs.found, or_iff_left fun hr => switched hr.1]
    constructor
    · exact fun he => ⟨v, here, he⟩
    · rintro ⟨w, hw, he⟩
      exact hw.unique here ▸ he
  · exact (hs.frames g).trans
      (elsewhere fun v n => t.Sends ⟨f.place.device, n⟩ v g.tag ∧ t.Joined ⟨f.place.device, n⟩ g.place)
  · exact hs.blocked.trans
      (elsewhere fun v n => (∃ tag, t.Floods ⟨f.place.device, n⟩ v tag) ∧ t.Shut ⟨f.place.device, n⟩)

theorem arrived_nothing {f : Frame} (admits : ∀ v, ¬t.Admits f.place f.tag v)
    (receives : t.switchPort? f.place = none → ∀ e, ¬t.Receives f.place f.tag e) : t.Arrived f {} := by
  refine ⟨fun e => iff_of_false (by simp) ?_, fun g => iff_of_false (by simp) ?_, iff_of_false (by simp) ?_⟩
  · rintro (⟨v, hv, -⟩ | ⟨hnone, hr⟩)
    · exact admits v hv
    · exact receives hnone e hr
  · rintro ⟨v, hv, -⟩
    exact admits v hv
  · rintro ⟨v, hv, -⟩
    exact admits v hv

variable (h : t.Sound)

include h

theorem floodPort_spec {switch : String} {d : Device} (hd : t.devices.get? switch = some d) (vlan : Int)
    (ingress : Option String) {i : Interface} (hi : d.interfaces.get? i.name = some i) :
    Yields (t.FloodedPort ⟨switch, i.name⟩ vlan ingress) (t.floodPort switch vlan ingress i) := by
  have hport : t.port? ⟨switch, i.name⟩ = some i := (port?_of_get? (e := ⟨switch, i.name⟩) hd).trans hi
  have floods {tag : Option Int} : t.Floods ⟨switch, i.name⟩ vlan tag ↔ kindOf i.name = .physical ∧
      (t.linkAt ⟨switch, i.name⟩).isSome = true ∧ i.carries vlan = true ∧ tag = i.tagFor vlan := by
    unfold Floods
    simp [hport]
  have works : t.works ⟨switch, i.name⟩ = i.operUp := by
    unfold Topology.works
    rw [hport]
    rfl
  -- A port that has no part in the flood sends nothing, and nothing is blocked there.
  have silent (no : ¬(some i.name ≠ ingress ∧ ∃ tag, t.Floods ⟨switch, i.name⟩ vlan tag)) :
      t.FloodedPort ⟨switch, i.name⟩ vlan ingress {} := by
    refine ⟨rfl, fun g => iff_of_false (by simp) fun hg => ?_, iff_of_false (by simp) fun hb => ?_⟩
    · exact no ⟨hg.1, g.tag, ((sends_iff_floods h.toCabled hg.2.2).1 hg.2.1).1⟩
    · exact no ⟨hb.1, hb.2.1⟩
  unfold floodPort
  simp only [(h.table hd).kind_eq hi, ok_bind, pure_eq_ok]
  refine Meets.ite (fun heq => silent fun no => no.1 heq) fun hne => ?_
  refine Meets.ite (fun hk => silent ?_) fun hk => ?_
  · rintro ⟨-, tag, no⟩
    exact hk (floods.1 no).1
  refine Meets.ite (fun hc => silent ?_) fun hc => ?_
  · rintro ⟨-, tag, no⟩
    obtain ⟨-, cabled, carries, -⟩ := floods.1 no
    simp [carries, Option.isNone_iff_eq_none, Option.isSome_iff_ne_none.1 cabled] at hc
  have taking_part : t.Floods ⟨switch, i.name⟩ vlan (i.tagFor vlan) := by
    simp only [Bool.or_eq_true, Bool.not_eq_true', not_or, Bool.not_eq_false] at hc
    have cabled := hc.2
    rw [Option.isNone_iff_eq_none, ← ne_eq, ← Option.isSome_iff_ne_none] at cabled
    exact floods.2 ⟨not_not.1 hk, cabled, hc.1, rfl⟩
  refine Meets.ite (fun down => ?_) fun up => ?_
  · simp only [Bool.not_eq_true'] at down
    refine ⟨rfl, fun g => iff_of_false (by simp) fun hg => ?_, iff_of_true rfl ?_⟩
    · have up := ((sends_iff_floods h.toCabled hg.2.2).1 hg.2.1).2
      rw [works, down] at up
      cases up
    · exact ⟨hne, ⟨_, taking_part⟩, Or.inl (works.trans down)⟩
  simp only [Bool.not_eq_true', Bool.not_eq_false] at up
  refine ⟨leave_found _ _, fun g => ?_, ?_⟩
  · rw [mem_leave h.toCabled]
    constructor
    · rintro ⟨joined, htag⟩
      refine ⟨hne, (sends_iff_floods h.toCabled joined).2 ⟨floods.2 ?_, works.trans up⟩, joined⟩
      obtain ⟨physical, cabled, carries, -⟩ := floods.1 taking_part
      exact ⟨physical, cabled, carries, htag⟩
    · rintro ⟨-, sends, joined⟩
      exact ⟨joined, (floods.1 ((sends_iff_floods h.toCabled joined).1 sends).1).2.2.2⟩
  · rw [leave_blocked]
    refine ⟨fun down => ⟨hne, ⟨_, taking_part⟩, Or.inr down⟩, ?_⟩
    rintro ⟨-, -, shut⟩
    refine shut.resolve_left ?_
    rw [works, up]
    exact Bool.noConfusion

theorem flood_spec {switch : String} {d : Device} (hd : t.devices.get? switch = some d) (vlan : Int)
    (ingress : Option String) : Yields (t.Flooded switch vlan ingress) (t.flood switch vlan ingress) := by
  have table := h.table hd
  have hport : t.port? ⟨switch, InterfaceName.ofVlan vlan⟩ =
      d.interfaces.get? (InterfaceName.ofVlan vlan) := port?_of_get? hd
  unfold flood
  simp only [entry_eq hd, ok_bind, Device.sortedInterfaces_of_table table]
  have each : ∀ i ∈ d.ordered.map Prod.snd, _ := fun i hi =>
    floodPort_spec h hd vlan ingress ((Device.mem_ordered_values table).1 hi)
  have out := (Meets.mapM each).and (Meets.mapM_all fun i hi => (each i hi).imp fun s hs => hs.found)
  refine out.bind fun ss hss => ⟨fun e => ?_, fun g => ?_, ?_⟩
  · rw [foldl_append_found hss.2]
    constructor
    · intro he
      cases hi : d.interfaces.get? (InterfaceName.ofVlan vlan) with
      | none => simp [hi] at he
      | some i =>
        simp only [hi] at he
        split at he
        · rename_i active
          obtain rfl : e = ⟨switch, i.name⟩ := by simpa using he
          rw [table.name_eq hi]
          exact ⟨rfl, i, hport.trans hi, active⟩
        · cases he
    · rintro ⟨rfl, i, hi, active⟩
      rw [hport] at hi
      simp only [hi, active, if_true, List.mem_singleton, table.name_eq hi]
  · rw [mem_foldl_append, ← exists_mem_iff_of_forall₂ hss.1 fun i s hs => (hs.frames g).symm]
    refine (or_iff_right ?_).trans ?_
    · repeat' split
      all_goals exact List.not_mem_nil
    constructor
    · rintro ⟨i, -, hi⟩
      exact ⟨i.name, hi⟩
    · rintro ⟨n, hne, ⟨hk, i, hi, hrest⟩, joined⟩
      rw [port?_of_get? (e := ⟨switch, n⟩) hd] at hi
      obtain rfl := table.name_eq hi
      exact ⟨i, (Device.mem_ordered_values table).2 hi, hne,
        ⟨hk, i, (port?_of_get? (e := ⟨switch, i.name⟩) hd).trans hi, hrest⟩, joined⟩
  · rw [foldl_append_blocked, ← exists_mem_iff_of_forall₂ hss.1 fun i s hs => hs.blocked.symm]
    refine (or_iff_right ?_).trans ?_
    · repeat' split
      all_goals exact Bool.noConfusion
    constructor
    · rintro ⟨i, -, hi⟩
      exact ⟨i.name, hi⟩
    · rintro ⟨n, hne, ⟨tag, hk, cabled, i, hi, hrest⟩, shut⟩
      rw [port?_of_get? (e := ⟨switch, n⟩) hd] at hi
      obtain rfl := table.name_eq hi
      exact ⟨i, (Device.mem_ordered_values table).2 hi, hne,
        ⟨tag, hk, cabled, i, (port?_of_get? (e := ⟨switch, i.name⟩) hd).trans hi, hrest⟩, shut⟩

/-- What becomes of a frame that arrives at a port. -/
theorem arrive_spec {f : Frame} (hport : t.HasPort f.place) : Yields (t.Arrived f) (t.arrive f) := by
  obtain ⟨i, hi⟩ := Option.isSome_iff_exists.1 hport.1
  obtain ⟨d, hd, hget⟩ := device_of_port? hi
  have hswitch := switchPort?_of_get? hd hget
  have known (v : Int) : t.knows f.place.device v = d.vlans.contains v := by
    unfold Topology.knows
    rw [hd]
    rfl
  unfold arrive
  simp only [entry_eq hd, hget, need, ok_bind, pure_eq_ok]
  refine Meets.ite (fun hs => ?_) fun hs => ?_
  · rw [if_pos hs] at hswitch
    have admits (v : Int) :
        t.Admits f.place f.tag v ↔ classify i f.tag = some v ∧ d.vlans.contains v = true := by
      unfold Admits
      simp [hswitch, known]
    have switched : t.switchPort? f.place ≠ none := by simp [hswitch]
    cases hc : classify i f.tag with
    | none =>
      refine arrived_nothing (fun v hv => ?_) fun hnone => absurd hnone switched
      rw [admits, hc] at hv
      cases hv.1
    | some v =>
      dsimp only
      refine Meets.ite (fun hv => ?_) fun hv => ?_
      · exact (flood_spec h hd v (some f.place.port)).imp fun s hs => hs.arrived ((admits v).2 ⟨hc, hv⟩)
      · refine arrived_nothing (fun w hw => ?_) fun hnone => absurd hnone switched
        obtain ⟨hc', hw⟩ := (admits w).1 hw
        rw [hc] at hc'
        obtain rfl := Option.some.inj hc'
        exact hv hw
  · rw [if_neg hs] at hswitch
    have noAdmit (v : Int) : ¬t.Admits f.place f.tag v := by
      rintro ⟨j, hj, -⟩
      rw [hswitch] at hj
      cases hj
    have noVlan {P : Int → Prop} : ¬∃ v, t.Admits f.place f.tag v ∧ P v := by
      rintro ⟨v, hv, -⟩
      exact noAdmit v hv
    have answers : Yields _ (receiver d f.place.port f.tag) := receiver_yields (h.table hd) (by rw [hget]; rfl)
    obtain ⟨found, hreceiver, -⟩ := answers.exists_ok
    have receives (e : LinkEnd) :
        t.Receives f.place f.tag e ↔ e.device = f.place.device ∧ found = some e.port := by
      unfold Receives
      simp [hd, hreceiver]
    rw [hreceiver, ok_bind]
    cases found with
    | none =>
      refine arrived_nothing noAdmit fun _ e he => ?_
      cases ((receives e).1 he).2
    | some name =>
      refine ⟨fun e => ?_, fun g => iff_of_false List.not_mem_nil noVlan, iff_of_false Bool.noConfusion noVlan⟩
      rw [or_iff_right noVlan, and_iff_right hswitch, receives, List.mem_singleton]
      cases e
      simp [eq_comm]

/-! ## The way of a frame -/

omit h

/-- Whether a frame goes on as another from the port where it arrives. -/
def Passes (t : Topology) (f g : Frame) : Prop := ∃ s, t.arrive f = .ok s ∧ g ∈ s.frames

/-- Whether a frame becomes another on its way. -/
def Becomes (t : Topology) : Frame → Frame → Prop := Relation.ReflTransGen t.Passes

/-- Whether an interface takes some of what is under way: at once, or from a frame at a later port. -/
def Takes (t : Topology) (s : Spread) (e : LinkEnd) : Prop :=
  e ∈ s.found ∨ ∃ f ∈ s.frames, ∃ g, t.Becomes f g ∧ ∃ next, t.arrive g = .ok next ∧ e ∈ next.found

/-- Whether an interface takes what leaves another. -/
def Hears (t : Topology) (start e : LinkEnd) : Prop := ∃ s, t.depart start = .ok s ∧ t.Takes s e

/-- A search of the frames under way, each of which is followed once, up to its end. -/
inductive Walks (t : Topology) : List Frame → Spread → Spread → Prop where
  | done {visited : List Frame} {s : Spread} (left : s.frames.dropWhile (· ∈ visited) = []) :
      Walks t visited s s
  | visit {visited : List Frame} {s next r : Spread} {f : Frame} {rest : List Frame}
      (left : s.frames.dropWhile (· ∈ visited) = f :: rest) (arrives : t.arrive f = .ok next)
      (walk : Walks t (f :: visited)
        ⟨s.found ++ next.found, rest ++ next.frames, s.blocked || next.blocked⟩ r) : Walks t visited s r

theorem follow_left {visited frames : List Frame} {f : Frame} {rest : List Frame}
    (hd : frames.dropWhile (· ∈ visited) = f :: rest) {g : Frame} (hg : g ∈ frames) :
    g ∈ f :: visited ∨ g ∈ rest := by
  rw [← List.takeWhile_append_dropWhile (p := (· ∈ visited)) (l := frames), hd] at hg
  rcases List.mem_append.1 hg with hg | hg
  · exact Or.inl (List.mem_cons_of_mem _ (by simpa using List.mem_takeWhile_imp hg))
  · rcases List.mem_cons.1 hg with rfl | hg
    · exact Or.inl List.mem_cons_self
    · exact Or.inr hg

/-- Whether all that a spread tells is told by one of the two that it is made of. -/
def Additive (P : Spread → Prop) : Prop :=
  ∀ a b : Spread, ∀ frames, P ⟨a.found ++ b.found, frames, a.blocked || b.blocked⟩ ↔ P a ∨ P b

theorem additive_found (e : LinkEnd) : Additive (e ∈ ·.found) := fun _ _ _ => List.mem_append

theorem additive_blocked : Additive (·.blocked = true) := fun _ _ _ => Bool.or_eq_true_iff

namespace Walks

variable {P : Spread → Prop} {visited : List Frame} {s r : Spread}

/-- What the end of a search tells comes from the start or from a frame of those that were under way. -/
theorem sound (additive : Additive P) {Q : Frame → Prop}
    (goes : ∀ f, Q f → ∀ next, t.arrive f = .ok next → ∀ g ∈ next.frames, Q g) (walk : t.Walks visited s r)
    (hframes : ∀ f ∈ s.frames, Q f) (hr : P r) : P s ∨ ∃ f, Q f ∧ ∃ next, t.arrive f = .ok next ∧ P next := by
  induction walk with
  | done => exact Or.inl hr
  | visit left arrives _ ih =>
    obtain ⟨-, hf, hrest⟩ := follow_rest left
    have hf := hframes _ hf
    have pending : ∀ g ∈ _, _ := fun g hg =>
      (List.mem_append.1 hg).elim (fun hg => hframes g (hrest g hg)) (goes _ hf _ arrives g)
    rcases ih pending hr with told | later
    · rcases (additive _ _ _).1 told with told | told
      · exact Or.inl told
      · exact Or.inr ⟨_, hf, _, arrives, told⟩
    · exact Or.inr later

/-- The end of a search tells what its start tells and what any frame does that was under way. -/
theorem complete (additive : Additive P) (walk : t.Walks visited s r)
    (followed : ∀ f ∈ visited, ∀ next, t.arrive f = .ok next →
      (P next → P s) ∧ ∀ g ∈ next.frames, g ∈ visited ∨ g ∈ s.frames) :
    (P s → P r) ∧ ∃ done : List Frame, (∀ f, f ∈ visited ∨ f ∈ s.frames → f ∈ done) ∧
      ∀ f ∈ done, ∀ next, t.arrive f = .ok next → (P next → P r) ∧ ∀ g ∈ next.frames, g ∈ done := by
  induction walk with
  | @done visited s left =>
    have seen : ∀ g ∈ s.frames, g ∈ visited := by simpa using List.dropWhile_eq_nil_iff.1 left
    refine ⟨id, visited, fun f hf => hf.elim id (seen f), fun f hf next hnext => ?_⟩
    obtain ⟨tells, goes⟩ := followed f hf next hnext
    exact ⟨tells, fun g hg => (goes g hg).elim id (seen g)⟩
  | @visit visited s next r f rest left arrives _ ih =>
    obtain ⟨tells, done, pending, closed⟩ := ih <| by
      rintro g (_ | ⟨_, hg⟩) sg hsg
      · obtain rfl : next = sg := Except.ok.inj (arrives.symm.trans hsg)
        exact ⟨fun told => (additive _ _ _).2 (Or.inr told), fun x hx => Or.inr (List.mem_append_right _ hx)⟩
      · obtain ⟨tells, goes⟩ := followed g hg sg hsg
        refine ⟨fun told => (additive _ _ _).2 (Or.inl (tells told)), fun x hx => ?_⟩
        rcases goes x hx with hx | hx
        · exact Or.inl (List.mem_cons_of_mem _ hx)
        · exact (follow_left left hx).imp id (List.mem_append_left _)
    refine ⟨fun told => tells ((additive _ _ _).2 (Or.inl told)), done, fun g hg => pending g ?_, closed⟩
    rcases hg with hg | hg
    · exact Or.inl (List.mem_cons_of_mem _ hg)
    · exact (follow_left left hg).imp id (List.mem_append_left _)

/-- The end of a search tells exactly what its start tells and what is told by a frame on its way. -/
theorem tells (additive : Additive P) (walk : t.Walks [] s r) :
    P r ↔ P s ∨ ∃ f ∈ s.frames, ∃ g, t.Becomes f g ∧ ∃ next, t.arrive g = .ok next ∧ P next := by
  constructor
  · intro hr
    have found := walk.sound additive (Q := fun g => ∃ f ∈ s.frames, t.Becomes f g)
      (fun g ⟨f, hf, way⟩ next hnext g' hg' => ⟨f, hf, way.tail ⟨next, hnext, hg'⟩⟩)
      (fun f hf => ⟨f, hf, Relation.ReflTransGen.refl⟩) hr
    exact found.imp id fun ⟨g, ⟨f, hf, way⟩, told⟩ => ⟨f, hf, g, way, told⟩
  · obtain ⟨tells, done, pending, closed⟩ := walk.complete additive fun _ hx => (List.not_mem_nil hx).elim
    rintro (told | ⟨f, hf, g, way, next, hnext, told⟩)
    · exact tells told
    · have reached : g ∈ done := by
        clear hnext
        induction way with
        | refl => exact pending f (Or.inr hf)
        | tail _ step ih =>
          obtain ⟨s', hs', hg⟩ := step
          exact (closed _ ih s' hs').2 _ hg
      exact (closed g reached next hnext).1 told

end Walks

include h

/-- A search that may follow more frames than can be seen gets to its end. -/
theorem follow_walks {first : Option Int} {fuel : Nat} {visited : List Frame}
    (hvisited : ∀ f ∈ visited, f ∈ t.allFrames first) (nodup : visited.Nodup)
    (enough : (t.allFrames first).length < visited.length + fuel) {s : Spread} (hs : t.Within first s) :
    Yields (t.Walks visited s) (t.follow fuel visited s) := by
  have fits : visited.length ≤ (t.allFrames first).length :=
    (List.subperm_of_subset nodup hvisited).length_le
  induction fuel generalizing visited s with
  | zero => omega
  | succ fuel ih =>
    unfold follow
    cases hd : s.frames.dropWhile (· ∈ visited) with
    | nil => exact .done hd
    | cons f rest =>
      obtain ⟨hnew, hmem, hrest⟩ := follow_rest hd
      obtain ⟨next, hok, hnext⟩ := (arrive_within h (hs.frames f hmem)).exists_ok
      simp only [hok, ok_bind]
      have hvisited' : ∀ g ∈ f :: visited, g ∈ t.allFrames first := by
        rintro g (_ | ⟨_, hg⟩)
        · exact hs.frames f hmem
        · exact hvisited g hg
      have nodup' : (f :: visited).Nodup := List.nodup_cons.2 ⟨hnew, nodup⟩
      have within : t.Within first
          ⟨s.found ++ next.found, rest ++ next.frames, s.blocked || next.blocked⟩ := by
        refine ⟨fun e he => ?_, fun g hg => ?_⟩
        · exact (List.mem_append.1 he).elim (hs.found e) (hnext.found e)
        · exact (List.mem_append.1 hg).elim (fun hg => hs.frames g (hrest g hg)) (hnext.frames g)
      refine (ih hvisited' nodup' (by rw [List.length_cons]; omega) within
        (List.subperm_of_subset nodup' hvisited').length_le).imp fun r walk => ?_
      exact .visit hd hok walk

/-- The broadcast domain of an interface is what the search of all that leaves it has found at its end, each
interface once and but for itself. -/
theorem domain_walks {start : LinkEnd} {i : Interface} (hi : t.port? start = some i) :
    Yields (fun r => ∃ s w, t.depart start = .ok s ∧ t.Walks [] s w ∧
      r = (distinct (w.found.filter (· ≠ start)), w.blocked)) (t.domain start) := by
  obtain ⟨first, hdepart⟩ := depart_within h hi
  obtain ⟨s, hs, within⟩ := hdepart.exists_ok
  have few := length_allFrames t first
  have search : Yields (t.Walks [] s) (t.follow (t.frameBound + 1) [] s) :=
    follow_walks h (fun _ hx => (List.not_mem_nil hx).elim) List.nodup_nil (by simp; omega) within
  unfold domain
  rw [hs, ok_bind]
  exact search.bind fun w walk => ⟨s, w, rfl, walk, rfl⟩

/-- The broadcast domain of an interface is what takes what leaves it, but for itself. -/
theorem domain_spec {start : LinkEnd} {i : Interface} (hi : t.port? start = some i) :
    Yields (fun r => ∀ e, e ∈ r.1 ↔ e ≠ start ∧ t.Hears start e) (t.domain start) := by
  refine (domain_walks h hi).imp ?_
  rintro r ⟨s, w, hs, walk, rfl⟩ e
  rw [mem_distinct, List.mem_filter]
  simp only [decide_not, Bool.not_eq_true', decide_eq_false_iff_not]
  rw [and_comm, walk.tells (additive_found e)]
  refine and_congr_right fun _ => ⟨fun takes => ⟨s, hs, takes⟩, ?_⟩
  rintro ⟨s', hs', takes⟩
  obtain rfl : s = s' := Except.ok.inj (hs.symm.trans hs')
  exact takes

/-! ## What leaves an interface -/

/-- What leaves the interface of a VLAN is flooded by its switch. -/
theorem depart_virtual {start : LinkEnd} {d : Device} {i : Interface}
    (hd : t.devices.get? start.device = some d) (hi : d.interfaces.get? start.port = some i)
    (switch : d.isA .switch = true) (virtual : kindOf start.port = .svi) :
    Yields (t.Flooded start.device (vlanNumber start.port) none) (t.depart start) := by
  have hread := (h.table hd).readable_of_get? hi
  unfold depart
  rw [entry_eq hd, ok_bind, isSwitchSvi_eq (h.table hd) hi, ok_bind,
    InterfaceName.vlanOf_of_readable hread virtual, ok_bind, if_pos (by simp [switch, virtual])]
  exact flood_spec h hd _ none

/-- What leaves another interface is sent out of its port. -/
theorem depart_leave {start : LinkEnd} {d : Device} {i : Interface}
    (hd : t.devices.get? start.device = some d) (hi : d.interfaces.get? start.port = some i)
    (plain : (d.isA .switch && decide (kindOf start.port = .svi)) = false) :
    t.depart start = .ok (t.leave ⟨start.device, parentOf start.port⟩ i.outTag) := by
  have table := h.table hd
  have hsplit := table.split_eq hi
  have hout : (if (subOf start.port).isSome then i.dot1qVlan else none) = i.outTag := by
    simp [Interface.outTag, InterfaceName.subOf_isSome, table.name_eq hi]
  rw [table.name_eq hi] at hsplit
  unfold depart
  simp [entry_eq hd, isSwitchSvi_eq table hi, plain, hsplit, hi, need, hout]

/-- What leaves another interface goes out of its port. -/
theorem depart_port {start : LinkEnd} {d : Device} {i : Interface}
    (hd : t.devices.get? start.device = some d) (hi : d.interfaces.get? start.port = some i)
    (plain : (d.isA .switch && decide (kindOf start.port = .svi)) = false) :
    Yields (fun s => s.found = [] ∧ ∀ g, g ∈ s.frames ↔
      t.Joined ⟨start.device, parentOf start.port⟩ g.place ∧ g.tag = i.outTag) (t.depart start) := by
  rw [depart_leave h hd hi plain]
  exact ⟨leave_found _ _, fun g => mem_leave h.toCabled⟩

omit h in
/-- What holds of all that leaves an interface, and goes on with the frames, holds of all that hears it. -/
theorem Hears.of_invariant {start e : LinkEnd} {P : LinkEnd → Prop} {Q : Frame → Prop}
    (departs : ∀ s, t.depart start = .ok s → (∀ e ∈ s.found, P e) ∧ ∀ f ∈ s.frames, Q f)
    (arrives : ∀ f, Q f → ∀ s, t.arrive f = .ok s → (∀ e ∈ s.found, P e) ∧ ∀ g ∈ s.frames, Q g)
    (hears : t.Hears start e) : P e := by
  obtain ⟨s, hs, he | ⟨f, hf, g, way, next, hnext, he⟩⟩ := hears
  · exact (departs s hs).1 e he
  · have under_way : Q g := by
      clear hnext he
      induction way with
      | refl => exact (departs s hs).2 f hf
      | tail _ step ih =>
        obtain ⟨s', hs', hg⟩ := step
        exact (arrives _ ih s' hs').2 _ hg
    exact (arrives g under_way next hnext).1 e he

end Topology

end NetRack
