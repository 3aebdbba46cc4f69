import NetRack.Proofs.Ports.Line
import NetRack.Proofs.WayBack

/-!
# Broadcast domains are exact

The way of a frame is told by rules alone, without a search: an interface sets a frame out, a working port over
a link that is up brings it to the port across, a switch port puts it into a VLAN or drops it, and the switch
floods it out of its other ports.  In every lab the search for the broadcast domain of an interface gets to its
end, and what it has found are exactly the working interfaces with addresses that some frame is delivered to
by the rules.  It says that something on the way was down exactly if a frame was to leave by a port that was,
or whose link was.
-/

namespace NetRack

open InterfaceName (kindOf parentOf)

/-! ## Switch ports -/

/-- Whether a switch port puts frames with a tag into a VLAN: an access port those without a tag and those with
the tag of its VLAN, another port those of a VLAN that it carries, by their tag or else into its native VLAN. -/
inductive Interface.PutsInto (i : Interface) : Option Int → Int → Prop where
  | access (mode : i.mode.holds .access = true) : PutsInto i none i.accessVlan
  | own (mode : i.mode.holds .access = true) : PutsInto i (some i.accessVlan) i.accessVlan
  | native (mode : i.mode.holds .access = false) (carries : i.carries i.nativeVlan = true) :
      PutsInto i none i.nativeVlan
  | tagged {v : Int} (mode : i.mode.holds .access = false) (carries : i.carries v = true) :
      PutsInto i (some v) v

namespace Topology

theorem classify_eq_some {i : Interface} {tag : Option Int} {v : Int} :
    classify i tag = some v ↔ i.PutsInto tag v := by
  constructor
  · intro hc
    unfold classify at hc
    cases mode : i.mode.holds .access with
    | true =>
      rw [if_pos mode] at hc
      split at hc
      · rename_i takes
        obtain rfl := Option.some.inj hc
        rcases Bool.or_eq_true_iff.1 takes with untagged | own
        · rw [of_decide_eq_true untagged]
          exact .access mode
        · rw [of_decide_eq_true own]
          exact .own mode
      · cases hc
    | false =>
      rw [if_neg (by simp [mode])] at hc
      dsimp only at hc
      split at hc
      · rename_i carries
        obtain rfl := Option.some.inj hc
        cases tag with
        | none => exact .native mode carries
        | some v => exact .tagged mode carries
      · cases hc
  · intro puts
    unfold classify
    cases puts with
    | access mode => simp [mode]
    | own mode => simp [mode]
    | native mode carries => simp [mode, carries]
    | tagged mode carries => simp [mode, carries]

variable {t : Topology}

/-- Whether frames with a tag that come in at a port get into a VLAN of a switch, which has to know it. -/
def EntersVlan (t : Topology) (q : LinkEnd) (tag : Option Int) (v : Int) : Prop :=
  ∃ i, t.switchPort? q = some i ∧ i.PutsInto tag v ∧ t.knows q.device v = true

theorem admits_iff {q : LinkEnd} {tag : Option Int} {v : Int} : t.Admits q tag v ↔ t.EntersVlan q tag v := by
  unfold Admits EntersVlan
  simp only [classify_eq_some]

/-! ## The rules -/

/-- Whether an interface is a switch's own interface in a VLAN. -/
def IsVirtual (t : Topology) (e : LinkEnd) (v : Int) : Prop :=
  ∃ d, t.devices.get? e.device = some d ∧ d.isA .switch = true ∧ kindOf e.port = .svi ∧
    InterfaceName.vlanOf e.port = .ok v

/-- Whether a frame that leaves an interface has to go out of a port first, and under which tag: a switch's own
interface in a VLAN floods it, any other sends it out of its port. -/
inductive SetsOut (t : Topology) (start p : LinkEnd) : Option Int → Prop where
  | port {i : Interface} (plain : ∀ v, ¬t.IsVirtual start v) (hi : t.port? start = some i)
      (parent : parentEnd start = p) (cabled : (t.linkAt p).isSome = true) : SetsOut t start p i.outTag
  | flooded {v : Int} {tag : Option Int} (virtual : t.IsVirtual start v) (device : p.device = start.device)
      (floods : t.Floods p v tag) : SetsOut t start p tag

/-- Whether a port works and a link that is up joins it to another. -/
def Crosses (t : Topology) (p q : LinkEnd) : Prop := t.works p = true ∧ t.Joined p q

/-- Whether a switch that takes a frame with a tag at a port has to flood it out of another, and under which
tag. -/
def FloodsOn (t : Topology) (q : LinkEnd) (tag : Option Int) (p : LinkEnd) (tag' : Option Int) : Prop :=
  ∃ v, t.EntersVlan q tag v ∧ p.device = q.device ∧ p.port ≠ q.port ∧ t.Floods p v tag'

/-- Whether a frame with a tag that comes in at a port is for an interface: the switch's own one in the VLAN of
the frame or, at a routed port, the port itself or the subinterface with the tag. -/
inductive TakenAt (t : Topology) (q : LinkEnd) : Option Int → LinkEnd → Prop where
  | vlan {tag : Option Int} {v : Int} (enters : t.EntersVlan q tag v) :
      TakenAt t q tag ⟨q.device, InterfaceName.ofVlan v⟩
  | untagged (routed : t.switchPort? q = none) : TakenAt t q none q
  | tagged {e : LinkEnd} {v : Int} {i : Interface} (routed : t.switchPort? q = none)
      (device : e.device = q.device) (parent : parentOf e.port = q.port) (kind : kindOf e.port = .subinterface)
      (hi : t.port? e = some i) (tag : i.dot1qVlan = some v) : TakenAt t q (some v) e

/-- Whether a frame that leaves an interface has to go out of a port, first or later, and under which tag. -/
inductive GoesOut (t : Topology) (start : LinkEnd) : LinkEnd → Option Int → Prop where
  | first {p : LinkEnd} {tag : Option Int} (out : t.SetsOut start p tag) : GoesOut t start p tag
  | onward {p q p' : LinkEnd} {tag tag' : Option Int} (out : GoesOut t start p tag)
      (crosses : t.Crosses p q) (on : t.FloodsOn q tag p' tag') : GoesOut t start p' tag'

/-- Whether a frame that leaves an interface is delivered to another. -/
inductive Delivered (t : Topology) (start : LinkEnd) : LinkEnd → Prop where
  | own {v : Int} (virtual : t.IsVirtual start v) : Delivered t start ⟨start.device, InterfaceName.ofVlan v⟩
  | later {p q e : LinkEnd} {tag : Option Int} (out : t.GoesOut start p tag) (crosses : t.Crosses p q)
      (taken : t.TakenAt q tag e) : Delivered t start e

/-- What the search for the broadcast domain of an interface comes to. -/
structure Explored (t : Topology) (start : LinkEnd) (r : List LinkEnd × Bool) : Prop where
  ends : ∃ s w, t.depart start = .ok s ∧ t.Walks [] s w ∧
    r = (distinct (w.found.filter (· ≠ start)), w.blocked)
  nodup : r.1.Nodup
  found : ∀ e, e ∈ r.1 ↔ e ≠ start ∧ t.Active e ∧ t.Delivered start e
  blocked : r.2 = true ↔ ∃ p tag, t.GoesOut start p tag ∧ t.Shut p

/-! ## What leaves an interface, and what arrives -/

/-- What becomes of a frame by the rules: the interfaces that it is for take it if they work and have addresses,
and the ports that it has to go out of bring it across or are shut. -/
structure Obeyed (t : Topology) (takes : LinkEnd → Prop) (out : LinkEnd → Option Int → Prop) (s : Spread) :
    Prop where
  found : ∀ e, e ∈ s.found ↔ t.Active e ∧ takes e
  frames : ∀ g, g ∈ s.frames ↔ ∃ p, out p g.tag ∧ t.Crosses p g.place
  blocked : s.blocked = true ↔ ∃ p tag, out p tag ∧ t.Shut p

/-- Whether end hosts have physical ports only. -/
def PlainHosts (t : Topology) : Prop :=
  ∀ k d, t.devices.get? k = some d → d.isA .pc = true → ∀ n ∈ d.interfaces.keys, kindOf n = .physical

theorem IsVirtual.unique {e : LinkEnd} {v w : Int} (hv : t.IsVirtual e v) (hw : t.IsVirtual e w) : v = w := by
  obtain ⟨-, -, -, -, hv⟩ := hv
  obtain ⟨-, -, -, -, hw⟩ := hw
  exact Except.ok.inj (hv.symm.trans hw)

theorem setsOut_virtual {start p : LinkEnd} {v : Int} {tag : Option Int} (virtual : t.IsVirtual start v) :
    t.SetsOut start p tag ↔ p.device = start.device ∧ t.Floods p v tag := by
  constructor
  · intro out
    cases out with
    | port plain => exact absurd virtual (plain v)
    | flooded virtual' device floods =>
      rw [virtual.unique virtual']
      exact ⟨device, floods⟩
  · rintro ⟨device, floods⟩
    exact .flooded virtual device floods

theorem setsOut_port {start p : LinkEnd} {i : Interface} {tag : Option Int}
    (plain : ∀ v, ¬t.IsVirtual start v) (hi : t.port? start = some i) :
    t.SetsOut start p tag ↔ parentEnd start = p ∧ (t.linkAt p).isSome = true ∧ tag = i.outTag := by
  constructor
  · intro out
    cases out with
    | port _ hj parent cabled =>
      obtain rfl := Option.some.inj (hi.symm.trans hj)
      exact ⟨parent, cabled, rfl⟩
    | flooded virtual => exact absurd virtual (plain _)
  · rintro ⟨parent, cabled, rfl⟩
    exact .port plain hi parent cabled

section Sound

variable (h : t.Sound) (hs : t.Settled)

include h hs

theorem crosses_iff {p q : LinkEnd} : t.Crosses p q ↔ t.Joined p q :=
  ⟨And.right, fun joined => ⟨joined.symm.works hs h.toCabled, joined⟩⟩

theorem sends_iff_crosses {p q : LinkEnd} {v : Int} {tag : Option Int} :
    t.Sends p v tag ∧ t.Joined p q ↔ t.Floods p v tag ∧ t.Crosses p q := by
  constructor
  · rintro ⟨sends, joined⟩
    exact ⟨((sends_iff_floods h.toCabled joined).1 sends).1, (crosses_iff h hs).2 joined⟩
  · rintro ⟨floods, works, joined⟩
    exact ⟨(sends_iff_floods h.toCabled joined).2 ⟨floods, works⟩, joined⟩

/-- A cabled port is shut exactly if its link is down, since it works exactly if the link is up. -/
theorem shut_iff {p : LinkEnd} (cabled : (t.linkAt p).isSome = true) :
    t.Shut p ↔ ∃ l, t.linkAt p = some l ∧ l.up = false := by
  obtain ⟨l, hl⟩ := Option.isSome_iff_exists.1 cabled
  have ⟨hmem, hp⟩ := h.linkAt_iff.1 hl
  have works := (hs.ports p (h.ends l hmem p hp)).port
  rw [hl, Option.any_some] at works
  unfold Shut
  simp [hl, works]

theorem depart_obeys {start : LinkEnd} {i : Interface} (hi : t.port? start = some i) :
    Yields (t.Obeyed (fun e => ∃ v, t.IsVirtual start v ∧ e = ⟨start.device, InterfaceName.ofVlan v⟩)
      (t.SetsOut start)) (t.depart start) := by
  obtain ⟨d, hd, hget⟩ := device_of_port? hi
  by_cases virtual : (d.isA .switch && decide (kindOf start.port = .svi)) = true
  · obtain ⟨switch, kind⟩ := Bool.and_eq_true_iff.1 virtual
    have kind := of_decide_eq_true kind
    have number := InterfaceName.vlanOf_of_readable ((h.table hd).readable_of_get? hget) kind
    have own : t.IsVirtual start (InterfaceName.vlanNumber start.port) := ⟨d, hd, switch, kind, number⟩
    refine (depart_virtual h hd hget switch kind).imp fun s flooded => ⟨fun e => ?_, fun g => ?_, ?_⟩
    · rw [flooded.found, and_comm]
      refine and_congr_right fun _ => ⟨fun he => ⟨_, own, he⟩, ?_⟩
      rintro ⟨v, hv, rfl⟩
      rw [own.unique hv]
    · simp only [flooded.frames, setsOut_virtual own, sends_iff_crosses h hs]
      constructor
      · rintro ⟨n, -, floods, crosses⟩
        exact ⟨⟨start.device, n⟩, ⟨rfl, floods⟩, crosses⟩
      · rintro ⟨⟨_, n⟩, ⟨rfl, floods⟩, crosses⟩
        exact ⟨n, by simp, floods, crosses⟩
    · simp only [flooded.blocked, setsOut_virtual own]
      constructor
      · rintro ⟨n, -, ⟨tag, floods⟩, shut⟩
        exact ⟨⟨start.device, n⟩, tag, ⟨rfl, floods⟩, shut⟩
      · rintro ⟨⟨_, n⟩, tag, ⟨rfl, floods⟩, shut⟩
        exact ⟨n, by simp, ⟨tag, floods⟩, shut⟩
  · have plain (v : Int) : ¬t.IsVirtual start v := by
      rintro ⟨d', hd', switch, kind, -⟩
      obtain rfl := Option.some.inj (hd.symm.trans hd')
      exact virtual (by simp [switch, kind])
    rw [depart_leave h hd hget (Bool.not_eq_true _ ▸ virtual)]
    refine ⟨fun e => ?_, fun g => ?_, ?_⟩
    · rw [leave_found]
      refine iff_of_false List.not_mem_nil ?_
      rintro ⟨-, v, hv, -⟩
      exact plain v hv
    · simp only [mem_leave h.toCabled, setsOut_port plain hi, crosses_iff h hs]
      constructor
      · rintro ⟨joined, htag⟩
        obtain ⟨l, hl, -, he, -⟩ := joined.link
        exact ⟨_, ⟨rfl, by rw [parentEnd, h.linkAt_iff.2 ⟨hl, he⟩]; rfl, htag⟩, joined⟩
      · rintro ⟨_, ⟨rfl, -, htag⟩, joined⟩
        exact ⟨joined, htag⟩
    · simp only [leave_blocked, setsOut_port plain hi]
      constructor
      · rintro ⟨l, hl, down⟩
        have cabled : (t.linkAt (parentEnd start)).isSome = true := by
          rw [parentEnd, hl]
          rfl
        exact ⟨_, _, ⟨rfl, cabled, rfl⟩, (shut_iff h hs cabled).2 ⟨l, hl, down⟩⟩
      · rintro ⟨_, _, ⟨rfl, cabled, -⟩, shut⟩
        exact (shut_iff h hs cabled).1 shut

omit hs in
/-- What takes a frame at a routed port is what the frame is for, if it works and has an address. -/
theorem receives_iff (hosts : t.PlainHosts) {q e : LinkEnd} {tag : Option Int} {d : Device}
    (hd : t.devices.get? q.device = some d) (routed : t.switchPort? q = none) :
    t.Receives q tag e ↔ t.Active e ∧ t.TakenAt q tag e := by
  constructor
  · intro receives
    cases tag with
    | none =>
      obtain ⟨rfl, active⟩ := receives.untagged
      exact ⟨active, .untagged routed⟩
    | some v =>
      obtain ⟨i, hi, parent, kind, tag, active⟩ := receives.tagged h
      exact ⟨⟨i, hi, active⟩, .tagged routed receives.1 parent kind hi tag⟩
  · rintro ⟨active, taken⟩
    cases taken with
    | vlan enters =>
      obtain ⟨i, hi, -⟩ := enters
      rw [routed] at hi
      cases hi
    | untagged => exact .of_untagged active
    | tagged _ device parent kind hi tag =>
      obtain ⟨j, hj, active⟩ := active
      obtain rfl := Option.some.inj (hi.symm.trans hj)
      have host : d.isA .pc = false := by
        by_contra pc
        have hget := (port?_of_get? (device ▸ hd)).symm.trans hi
        have physical := hosts _ d hd (Bool.not_eq_false _ ▸ pc) _ (Table.mem_keys_of_get? hget)
        rw [kind] at physical
        cases physical
      exact .of_tagged h hd host device parent kind hi tag active

theorem arrive_obeys (hosts : t.PlainHosts) {f : Frame} (hport : t.HasPort f.place) :
    Yields (t.Obeyed (t.TakenAt f.place f.tag) (t.FloodsOn f.place f.tag)) (t.arrive f) := by
  obtain ⟨i, hi⟩ := Option.isSome_iff_exists.1 hport.1
  obtain ⟨d, hd, -⟩ := device_of_port? hi
  refine (arrive_spec h hport).imp fun s arrived => ⟨fun e => ?_, fun g => ?_, ?_⟩
  · simp only [arrived.found, admits_iff]
    constructor
    · rintro (⟨v, enters, rfl, active⟩ | ⟨routed, receives⟩)
      · exact ⟨active, .vlan enters⟩
      · exact (receives_iff h hosts hd routed).1 receives
    · rintro ⟨active, taken⟩
      by_cases routed : t.switchPort? f.place = none
      · exact Or.inr ⟨routed, (receives_iff h hosts hd routed).2 ⟨active, taken⟩⟩
      · generalize htag : f.tag = tag at taken
        cases taken with
        | vlan enters => exact Or.inl ⟨_, enters, rfl, active⟩
        | untagged routed' => exact absurd routed' routed
        | tagged routed' => exact absurd routed' routed
  · simp only [arrived.frames, admits_iff, sends_iff_crosses h hs]
    constructor
    · rintro ⟨v, enters, n, hne, floods, crosses⟩
      exact ⟨⟨f.place.device, n⟩, ⟨v, enters, rfl, hne, floods⟩, crosses⟩
    · rintro ⟨⟨_, n⟩, ⟨v, enters, rfl, hne, floods⟩, crosses⟩
      exact ⟨v, enters, n, hne, floods, crosses⟩
  · simp only [arrived.blocked, admits_iff]
    constructor
    · rintro ⟨v, enters, n, hne, ⟨tag, floods⟩, shut⟩
      exact ⟨⟨f.place.device, n⟩, tag, ⟨v, enters, rfl, hne, floods⟩, shut⟩
    · rintro ⟨⟨_, n⟩, tag, ⟨v, enters, rfl, hne, floods⟩, shut⟩
      exact ⟨v, enters, n, hne, ⟨tag, floods⟩, shut⟩

/-! ## The whole way -/

omit hs in
theorem Crosses.hasPort {p q : LinkEnd} (crosses : t.Crosses p q) : t.HasPort q :=
  crosses.2.hasPort h.toCabled

/-- The frames under way from an interface are those that some port brings across that a frame has to go out
of. -/
theorem becomes_iff (hosts : t.PlainHosts) {start : LinkEnd} {i : Interface} (hi : t.port? start = some i)
    {s : Spread} (departs : t.depart start = .ok s) {g : Frame} :
    (∃ f ∈ s.frames, t.Becomes f g) ↔ ∃ p, t.GoesOut start p g.tag ∧ t.Crosses p g.place := by
  have departed := (depart_obeys h hs hi).value departs
  constructor
  · rintro ⟨f, hf, way⟩
    induction way with
    | refl =>
      obtain ⟨p, out, crosses⟩ := (departed.frames f).1 hf
      exact ⟨p, .first out, crosses⟩
    | tail _ step ih =>
      obtain ⟨p, out, crosses⟩ := ih
      obtain ⟨next, arrives, hg⟩ := step
      obtain ⟨p', on, crosses'⟩ := (((arrive_obeys h hs hosts (crosses.hasPort h)).value arrives).frames _).1 hg
      exact ⟨p', .onward out crosses on, crosses'⟩
  · rintro ⟨p, out, crosses⟩
    have sent {p : LinkEnd} {tag : Option Int} (out : t.GoesOut start p tag) :
        ∀ q, t.Crosses p q → ∃ f ∈ s.frames, t.Becomes f ⟨q, tag⟩ := by
      induction out with
      | first out => exact fun q crosses => ⟨_, (departed.frames ⟨q, _⟩).2 ⟨_, out, crosses⟩, .refl⟩
      | @onward p q p' tag tag' _ crosses on ih =>
        intro q' crosses'
        obtain ⟨f, hf, way⟩ := ih q crosses
        have hport : t.HasPort (⟨q, tag⟩ : Frame).place := crosses.hasPort h
        obtain ⟨next, arrives, arrived⟩ := (arrive_obeys h hs hosts hport).exists_ok
        exact ⟨f, hf, way.tail ⟨next, arrives, (arrived.frames ⟨q', tag'⟩).2 ⟨p', on, crosses'⟩⟩⟩
    exact sent out g.place crosses

/-- What the end of a search tells is told where it starts or where a frame comes in. -/
theorem Walks.tells_iff (hosts : t.PlainHosts) {start : LinkEnd} {i : Interface} (hi : t.port? start = some i)
    {P : Spread → Prop} (additive : Additive P) {Q : LinkEnd → Option Int → Prop}
    (tells : ∀ f : Frame, ∀ next, t.Obeyed (t.TakenAt f.place f.tag) (t.FloodsOn f.place f.tag) next →
      (P next ↔ Q f.place f.tag)) {s w : Spread} (departs : t.depart start = .ok s)
    (walk : t.Walks [] s w) :
    P w ↔ P s ∨ ∃ p q tag, t.GoesOut start p tag ∧ t.Crosses p q ∧ Q q tag := by
  rw [walk.tells additive]
  refine or_congr_right ?_
  constructor
  · rintro ⟨f, hf, g, way, next, arrives, told⟩
    obtain ⟨p, out, crosses⟩ := (becomes_iff h hs hosts hi departs).1 ⟨f, hf, way⟩
    have arrived := (arrive_obeys h hs hosts (crosses.hasPort h)).value arrives
    exact ⟨p, g.place, g.tag, out, crosses, (tells g next arrived).1 told⟩
  · rintro ⟨p, q, tag, out, crosses, told⟩
    obtain ⟨f, hf, way⟩ := (becomes_iff h hs hosts hi departs (g := ⟨q, tag⟩)).2 ⟨p, out, crosses⟩
    have hport : t.HasPort (⟨q, tag⟩ : Frame).place := crosses.hasPort h
    obtain ⟨next, arrives, arrived⟩ := (arrive_obeys h hs hosts hport).exists_ok
    exact ⟨f, hf, _, way, next, arrives, (tells _ next arrived).2 told⟩

theorem domain_explored (hosts : t.PlainHosts) {start : LinkEnd} {i : Interface} (hi : t.port? start = some i) :
    Yields (t.Explored start) (t.domain start) := by
  refine (domain_walks h hi).imp ?_
  rintro r ⟨s, w, departs, walk, rfl⟩
  have departed := (depart_obeys h hs hi).value departs
  refine ⟨⟨s, w, departs, walk, rfl⟩, nodup_distinct _, fun e => ?_, ?_⟩
  · have found := walk.tells_iff h hs hosts hi (additive_found e)
      (Q := fun q tag => t.Active e ∧ t.TakenAt q tag e) (fun f next arrived => arrived.found e) departs
    rw [mem_distinct, List.mem_filter, found, departed.found]
    simp only [decide_not, Bool.not_eq_true', decide_eq_false_iff_not]
    rw [and_comm]
    refine and_congr_right fun _ => ?_
    constructor
    · rintro (⟨active, v, virtual, rfl⟩ | ⟨p, q, tag, out, crosses, active, taken⟩)
      · exact ⟨active, .own virtual⟩
      · exact ⟨active, .later out crosses taken⟩
    · rintro ⟨active, delivered⟩
      cases delivered with
      | own virtual => exact Or.inl ⟨active, _, virtual, rfl⟩
      | later out crosses taken => exact Or.inr ⟨_, _, _, out, crosses, active, taken⟩
  · have blocked := walk.tells_iff h hs hosts hi additive_blocked
      (Q := fun q tag => ∃ p tag', t.FloodsOn q tag p tag' ∧ t.Shut p)
      (fun f next arrived => arrived.blocked) departs
    rw [blocked, departed.blocked]
    constructor
    · rintro (⟨p, tag, out, shut⟩ | ⟨p, q, tag, out, crosses, p', tag', on, shut⟩)
      · exact ⟨p, tag, .first out, shut⟩
      · exact ⟨p', tag', .onward out crosses on, shut⟩
    · rintro ⟨p, tag, out, shut⟩
      cases out with
      | first out => exact Or.inl ⟨p, tag, out, shut⟩
      | onward out crosses on => exact Or.inr ⟨_, _, _, out, crosses, p, tag, on, shut⟩

end Sound

/-! ## Histories -/

/-- End hosts have physical ports only, since no port of another kind can be added to them. -/
theorem reached_plainHosts (cs : List Change) : (reached cs).PlainHosts := by
  intro k d hd pc
  have plain : d.ports.isA .pc = true → ∀ n ∈ d.ports.interfaces.keys, kindOf n = .physical := by
    refine reached_ports (P := fun p => p.isA .pc = true → ∀ n ∈ p.interfaces.keys, kindOf n = .physical)
      (fun type hostname id _ n hn => ?_) (fun p focus c q hp step hq n hn => ?_) cs hd
    · rw [Device.keys_ports] at hn
      obtain ⟨i, hi⟩ := Table.mem_keys.1 hn
      exact (factory_interface (Table.get?_eq_some.2 hi)).2.2
    · obtain ⟨type, gains⟩ := step.names
      rw [Ports.isA, type] at hq
      rcases gains n hn with old | gained
      · exact hp hq n old
      · exact absurd hq (by simpa [Ports.isA] using gained.host)
  rw [← Device.keys_ports]
  exact plain pc

/-- Whatever was done to a lab, the search for the broadcast domain of an interface gets to its end and finds
exactly what frames are delivered to by the rules, and whether one had to leave by a port that was shut. -/
theorem reached_explored (cs : List Change) {start : LinkEnd} {i : Interface}
    (hi : (reached cs).port? start = some i) :
    Yields ((reached cs).Explored start) ((reached cs).domain start) :=
  domain_explored (reached_orderly cs).sound (reached_orderly cs).settled (reached_plainHosts cs) hi

/-- Two end hosts with a cable between them. -/
def cabledHosts : List Change := [
  .addDevice "PC1" "pc" none, .addDevice "PC2" "pc" none, .connect "PC1" "Fa0" "PC2" "Fa0",
  .command none "PC1" "ip 10.0.0.1 255.255.255.0", .command none "PC2" "ip 10.0.0.2 255.255.255.0"]

/-- One end host finds the other, and nothing on the way was down. -/
theorem cabledHosts_explored :
    ((reached cabledHosts).port? ⟨"PC1", "FastEthernet0"⟩).isSome = true ∧
      (reached cabledHosts).Explored ⟨"PC1", "FastEthernet0"⟩ ([⟨"PC2", "FastEthernet0"⟩], false) := by
  have lab : ((reached cabledHosts).port? ⟨"PC1", "FastEthernet0"⟩).isSome = true ∧
      (reached cabledHosts).domain ⟨"PC1", "FastEthernet0"⟩ = .ok ([⟨"PC2", "FastEthernet0"⟩], false) := by
    decide +kernel
  generalize cabledHosts = cs at lab ⊢
  obtain ⟨there, found⟩ := lab
  obtain ⟨i, hi⟩ := Option.isSome_iff_exists.1 there
  exact ⟨there, (reached_explored cs hi).value found⟩

end Topology

end NetRack
