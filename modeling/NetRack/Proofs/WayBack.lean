import NetRack.Proofs.Isolation

/-!
# The way back

Frames can go back the way they came, from router to router, if every link takes them in either direction.
A port that sends frames under a tag takes frames under that tag, and the other way round it is the same but
for one case: a switch port may take tagged frames into the very VLAN whose frames it sends without a tag.
Where no tagged frame meets such a port, whatever hears an interface is heard by it.
-/

namespace NetRack

open InterfaceName (kindOf parentOf)

namespace Topology

/-! ## Tags at a switch port -/

section Tags

variable {i : Interface} {tag : Option Int} {v : Int}

theorem carries_of_access (access : i.mode.holds .access = true) : i.carries v = decide (i.accessVlan = v) := by
  have mode : i.mode = .known .access := of_decide_eq_true access
  unfold Interface.carries
  rw [mode]

/-- A switch port carries the VLAN that it puts a frame into. -/
theorem carries_of_classify (h : classify i tag = some v) : i.carries v = true := by
  unfold classify at h
  split at h
  · rename_i access
    split at h
    · rw [carries_of_access access, Option.some.inj h, decide_eq_true rfl]
    · cases h
  · dsimp only at h
    split at h
    · rename_i carries
      rwa [← Option.some.inj h]
    · cases h

/-- A switch port takes frames under the tag under which it sends those of a VLAN. -/
theorem classify_tagFor (carries : i.carries v = true) : classify i (i.tagFor v) = some v := by
  unfold classify Interface.tagFor
  by_cases access : i.mode.holds .access = true
  · rw [carries_of_access access, decide_eq_true_eq] at carries
    simp [access, carries]
  · by_cases native : v = i.nativeVlan
    · simp [access, ← native, carries]
    · simp [access, native, carries]

/-- A switch port sends frames under the tag under which it takes them, unless it takes tagged frames into its
VLAN for untagged ones. -/
theorem tagFor_of_classify (h : classify i tag = some v) (kept : tag.isSome = true → i.untaggedVlan ≠ v) :
    i.tagFor v = tag := by
  unfold Interface.tagFor
  cases tag with
  | none =>
    have own := classify_none h
    unfold Interface.untaggedVlan at own
    split at own
    · simp [*]
    · simp [own]
  | some w =>
    obtain rfl := classify_some h
    have other := kept rfl
    unfold Interface.untaggedVlan at other
    split at other
    · rename_i access
      have carries := carries_of_classify h
      rw [carries_of_access access, decide_eq_true_eq] at carries
      exact absurd carries other
    · rename_i access
      simp [access, Ne.symm other]

end Tags

variable {t : Topology}

/-! ## Either direction of a link -/

/-- Where frames come from or get to at a port: a VLAN of its switch, or a routed interface. -/
inductive Channel where
  | vlan (v : Int)
  | interface (e : LinkEnd)

/-- Whether there is a router under a key. -/
def IsRouter (t : Topology) (key : String) : Prop :=
  ∃ d, t.devices.get? key = some d ∧ d.isA .router = true

/-- Whether frames of a channel are sent out of a port under a tag. -/
inductive Leaves (t : Topology) (p : LinkEnd) : Channel → Option Int → Prop where
  | switched {i : Interface} {v : Int} {tag : Option Int} (port : t.switchPort? p = some i)
      (known : t.knows p.device v = true) (sends : t.Sends p v tag) : Leaves t p (.vlan v) tag
  | routed {e : LinkEnd} {i : Interface} (router : t.IsRouter p.device) (device : e.device = p.device)
      (parent : parentOf e.port = p.port) (port : t.port? e = some i) (active : i.isActive = true) :
      Leaves t p (.interface e) i.outTag

/-- Whether frames that arrive at a port under a tag get to a channel. -/
inductive Enters (t : Topology) (q : LinkEnd) : Channel → Option Int → Prop where
  | switched {v : Int} {tag : Option Int} (admits : t.Admits q tag v) : Enters t q (.vlan v) tag
  | routed {e : LinkEnd} {tag : Option Int} (router : t.IsRouter q.device) (receives : t.Receives q tag e) :
      Enters t q (.interface e) tag

/-- Whether no frame is sent under a tag to a switch port that has the VLAN of the tag for untagged frames. -/
def TagsKept (t : Topology) : Prop :=
  ∀ p q, t.Joined p q → ∀ c v, t.Leaves p c (some v) → t.untagged? q ≠ some v

theorem IsRouter.not_switchPort {p : LinkEnd} (router : t.IsRouter p.device) : t.switchPort? p = none := by
  obtain ⟨d, hd, type⟩ := router
  cases hi : d.interfaces.get? p.port with
  | none =>
    unfold switchPort?
    rw [hd, Option.bind_some, hi]
    rfl
  | some i =>
    rw [switchPort?_of_get? hd hi, Device.isA_of_ne type (by decide : DeviceType.router ≠ .switch)]
    rfl

/-- Where there is no switch, tags are kept. -/
theorem TagsKept.of_no_switch (none : ∀ d ∈ t.devices.values, d.isA .switch = false) : t.TagsKept := by
  intro p q _ c v _ hv
  obtain ⟨i, hi, -⟩ := Option.map_eq_some_iff.1 hv
  obtain ⟨d, hd, -, switched⟩ := switchPort?_eq_some.1 hi
  rw [none d (Table.mem_values.2 ⟨q.device, hd⟩)] at switched
  cases switched

variable (h : t.Sound)

include h

/-- A routed interface takes frames under the tag under which it sends them. -/
theorem receives_outTag {p e : LinkEnd} {i : Interface} (router : t.IsRouter p.device)
    (device : e.device = p.device) (parent : parentOf e.port = p.port) (hi : t.port? e = some i)
    (active : i.isActive = true) : t.Receives p i.outTag e := by
  obtain ⟨d, hd, type⟩ := router
  have host := Device.isA_of_ne type (by decide : DeviceType.router ≠ .pc)
  have hget : d.interfaces.get? e.port = some i := (port?_of_get? (device ▸ hd)).symm.trans hi
  unfold Interface.outTag
  rw [(h.table hd).name_eq hget]
  by_cases kind : kindOf e.port = .subinterface
  · rw [if_pos kind]
    obtain ⟨v, hv⟩ := Option.isSome_iff_exists.1 <|
      ((h.devices _ d hd).tags host _ i hget).tagged kind (Bool.and_eq_true_iff.1 active).2
    rw [hv]
    exact .of_tagged h hd host device parent kind hi hv active
  · rw [if_neg kind]
    have same : e = p := by
      cases e
      cases p
      simp only at device parent kind
      rw [device, ← parent, InterfaceName.parentOf_eq_self kind]
    rw [same] at hi ⊢
    exact .of_untagged ⟨i, hi, active⟩

/-- A port takes frames under the tag under which it sends them. -/
theorem Leaves.enters {p : LinkEnd} {c : Channel} {tag : Option Int}
    (leaves : t.Leaves p c tag) : t.Enters p c tag := by
  cases leaves with
  | switched port known sends =>
    obtain ⟨-, i, hi, carries, -, rfl⟩ := sends
    obtain ⟨d, hd, hget, -⟩ := switchPort?_eq_some.1 port
    rw [port?_of_get? hd] at hi
    obtain rfl := Option.some.inj (hget.symm.trans hi)
    exact .switched ⟨_, port, classify_tagFor carries, known⟩
  | routed router device parent port active =>
    exact .routed router (receives_outTag h router device parent port active)

/-- A port that works sends frames under the tag under which it takes them, unless it takes tagged frames into
its VLAN for untagged ones. -/
theorem Enters.leaves {q : LinkEnd} (hq : t.HasPort q) (up : t.works q = true) {c : Channel} {tag : Option Int}
    (enters : t.Enters q c tag) (kept : ∀ v, tag = some v → t.untagged? q ≠ some v) : t.Leaves q c tag := by
  cases enters with
  | switched admits =>
    obtain ⟨i, port, hc, known⟩ := admits
    obtain ⟨d, hd, hget, -⟩ := switchPort?_eq_some.1 port
    have hi : t.port? q = some i := (port?_of_get? hd).trans hget
    have up : i.operUp = true := by
      unfold works at up
      rwa [hi] at up
    refine .switched port known ⟨hq.2, i, hi, carries_of_classify hc, up, (tagFor_of_classify hc ?_).symm⟩
    intro hsome
    obtain ⟨w, rfl⟩ := Option.isSome_iff_exists.1 hsome
    obtain rfl := classify_some hc
    have other := kept _ rfl
    unfold untagged? at other
    rw [port] at other
    exact fun heq => other (congrArg some heq)
  | routed router receives =>
    cases tag with
    | none =>
      obtain ⟨heq, i, hi, active⟩ := receives.untagged
      have plain : kindOf q.port ≠ .subinterface := by
        rw [hq.2]
        decide
      have hname := (h.port_sound hi).name
      have untagged : i.outTag = none := by
        unfold Interface.outTag
        rw [hname, if_neg plain]
      rw [heq, ← untagged]
      exact .routed router rfl (InterfaceName.parentOf_eq_self plain) hi active
    | some v =>
      obtain ⟨i, hi, parent, kind, htag, active⟩ := receives.tagged h
      have hname := (h.port_sound hi).name
      have tagged : i.outTag = some v := by
        unfold Interface.outTag
        rw [hname, if_pos kind, htag]
      rw [← tagged]
      exact .routed router receives.1 parent hi active

omit h in
theorem Joined.works (hs : t.Settled) (hc : t.Cabled) {p q : LinkEnd} (joined : t.Joined p q) :
    t.works q = true := by
  obtain ⟨l, hl, up, -, hq⟩ := joined.link
  rw [(hs.ports q (joined.hasPort hc)).port, hc.linkAt_iff.2 ⟨hl, hq⟩]
  exact up

/-- Whether frames of a channel at a port get over its link to a channel at the port across. -/
def Linked (t : Topology) (p : LinkEnd) (c : Channel) (q : LinkEnd) (c' : Channel) : Prop :=
  t.Joined p q ∧ ∃ tag, t.Leaves p c tag ∧ t.Enters q c' tag

theorem Linked.symm (hs : t.Settled) (kept : t.TagsKept) {p q : LinkEnd} {c c' : Channel}
    (linked : t.Linked p c q c') : t.Linked q c' p c := by
  obtain ⟨joined, tag, leaves, enters⟩ := linked
  refine ⟨joined.symm, tag, ?_, leaves.enters h⟩
  refine enters.leaves h (joined.hasPort h.toCabled) (joined.works hs h.toCabled) fun v htag => ?_
  exact kept p q joined c v (htag ▸ leaves)

/-! ## Ways -/

/-- A way from a channel at a port to one at another, through VLANs of the switches between. -/
inductive Way (t : Topology) (p : LinkEnd) (c : Channel) : LinkEnd → Channel → Prop where
  | link {q : LinkEnd} {c' : Channel} (last : t.Linked p c q c') : Way t p c q c'
  | through {q q' r : LinkEnd} {v : Int} {c' : Channel} (way : Way t p c q (.vlan v))
      (device : q'.device = q.device) (port : q'.port ≠ q.port) (last : t.Linked q' (.vlan v) r c') :
      Way t p c r c'

omit h in
theorem Way.cons {p q q' r : LinkEnd} {c c' : Channel} {v : Int} (first : t.Linked p c q (.vlan v))
    (device : q'.device = q.device) (port : q'.port ≠ q.port) (way : t.Way q' (.vlan v) r c') :
    t.Way p c r c' := by
  induction way with
  | link last => exact .through (.link first) device port last
  | through _ device' port' last ih => exact .through ih device' port' last

theorem Way.symm (hs : t.Settled) (kept : t.TagsKept) {p q : LinkEnd} {c c' : Channel}
    (way : t.Way p c q c') : t.Way q c' p c := by
  induction way with
  | link last => exact .link (last.symm h hs kept)
  | through _ device port last ih => exact .cons (last.symm h hs kept) device.symm port.symm ih

/-! ## Frames on their way -/

/-- Whether a frame is on a link along a way from a channel at a port. -/
inductive UnderWay (t : Topology) (p : LinkEnd) (c : Channel) (f : Frame) : Prop where
  | first (joined : t.Joined p f.place) (leaves : t.Leaves p c f.tag)
  | later {q q' : LinkEnd} {v : Int} (way : t.Way p c q (.vlan v)) (device : q'.device = q.device)
      (port : q'.port ≠ q.port) (joined : t.Joined q' f.place) (leaves : t.Leaves q' (.vlan v) f.tag)

section UnderWay

variable {p : LinkEnd} {c : Channel} {f : Frame}

omit h in
theorem UnderWay.way (hf : t.UnderWay p c f) {c' : Channel} (enters : t.Enters f.place c' f.tag) :
    t.Way p c f.place c' := by
  cases hf with
  | first joined leaves => exact .link ⟨joined, f.tag, leaves, enters⟩
  | later way device port joined leaves => exact .through way device port ⟨joined, f.tag, leaves, enters⟩

theorem UnderWay.hasPort (hf : t.UnderWay p c f) : t.HasPort f.place := by
  cases hf with
  | first joined _ => exact joined.hasPort h.toCabled
  | later _ _ _ joined _ => exact joined.hasPort h.toCabled

/-- What a frame goes on as is under way as well. -/
theorem UnderWay.goes (hf : t.UnderWay p c f) {s : Spread} (hs : t.arrive f = .ok s) {g : Frame}
    (hg : g ∈ s.frames) : t.UnderWay p c g := by
  have arrived := (arrive_spec h (hf.hasPort h)).value hs
  obtain ⟨v, admits, n, hne, sends, joined⟩ := (arrived.frames g).1 hg
  have device : (⟨f.place.device, n⟩ : LinkEnd).device = f.place.device := rfl
  refine .later (hf.way (.switched admits)) device hne joined ?_
  obtain ⟨i, hi, -, known⟩ := admits
  obtain ⟨d, hd, -, switched⟩ := switchPort?_eq_some.1 hi
  obtain ⟨-, j, hj, carries, -⟩ := id sends
  rw [port?_of_get? (e := ⟨f.place.device, n⟩) hd] at hj
  have port := switchPort?_of_get? (e := ⟨f.place.device, n⟩) hd hj
  rw [(Bool.and_eq_true_iff.1 switched).1, isSwitchport_of_carries carries] at port
  exact .switched port known sends

end UnderWay

/-- What takes a frame at a routed port sends out of that port. -/
theorem Receives.parentEnd {p e : LinkEnd} (hp : t.HasPort p) {tag : Option Int} (receives : t.Receives p tag e) :
    parentEnd e = p := by
  cases tag with
  | none =>
    rw [receives.untagged.1]
    have plain : kindOf p.port ≠ .subinterface := by
      rw [hp.2]
      decide
    unfold Topology.parentEnd
    rw [InterfaceName.parentOf_eq_self plain]
  | some v =>
    obtain ⟨-, -, parent, -⟩ := receives.tagged h
    unfold Topology.parentEnd
    rw [receives.1, parent]

section Routers

variable {a b : LinkEnd} (from_router : t.IsRouter a.device) (to_router : t.IsRouter b.device)

include from_router

theorem depart_router {i : Interface} (hi : t.port? a = some i) :
    Yields (fun s => s.found = [] ∧ ∀ g, g ∈ s.frames ↔ t.Joined (parentEnd a) g.place ∧ g.tag = i.outTag)
      (t.depart a) := by
  obtain ⟨d, hd, type⟩ := from_router
  refine depart_port h hd ((port?_of_get? hd).symm.trans hi) ?_
  rw [Device.isA_of_ne type (by decide : DeviceType.router ≠ .switch), Bool.false_and]

/-- A way that starts at a router's interface is one that frames go. -/
theorem Way.arrives {q : LinkEnd} {c : Channel} (way : t.Way (parentEnd a) (.interface a) q c) :
    ∃ s, t.depart a = .ok s ∧ ∃ f ∈ s.frames, ∃ g, t.Becomes f g ∧ g.place = q ∧ t.HasPort q ∧
      t.Enters q c g.tag := by
  induction way with
  | @link q c' last =>
    obtain ⟨joined, tag, leaves, enters⟩ := last
    cases leaves with
    | routed router device parent port active =>
      obtain ⟨s, hs, -, goes⟩ := (depart_router h from_router port).exists_ok
      exact ⟨s, hs, ⟨q, _⟩, (goes _).2 ⟨joined, rfl⟩, _, .refl, rfl, joined.hasPort h.toCabled, enters⟩
  | @through q q' r v c' _ device port last ih =>
    obtain ⟨s, hs, f, hf, g, becomes, rfl, hport, enters⟩ := ih
    obtain ⟨joined, tag, leaves, enters'⟩ := last
    cases enters with
    | switched admits =>
      cases leaves with
      | switched port' known sends =>
        obtain ⟨next, hnext, arrived⟩ := (arrive_spec h hport).exists_ok
        have on : (⟨r, tag⟩ : Frame) ∈ next.frames := by
          refine (arrived.frames _).2 ⟨v, admits, q'.port, port, ?_⟩
          rw [← device]
          exact ⟨sends, joined⟩
        exact ⟨s, hs, f, hf, ⟨r, tag⟩, becomes.tail ⟨next, hnext, on⟩, rfl, joined.hasPort h.toCabled, enters'⟩

include to_router

/-- What hears a router's interface on another router is at the end of a way from there. -/
theorem hears_iff_way {i : Interface} (hi : t.port? a = some i) (active : i.isActive = true) :
    t.Hears a b ↔ t.Way (parentEnd a) (.interface a) (parentEnd b) (.interface b) := by
  constructor
  · intro hears
    refine hears.of_invariant (P := fun e => t.IsRouter e.device →
      t.Way (parentEnd a) (.interface a) (parentEnd e) (.interface e))
      (Q := t.UnderWay (parentEnd a) (.interface a)) (fun s hs => ?_) (fun f hf s hs => ?_) to_router
    · obtain ⟨nothing, goes⟩ := (depart_router h from_router hi).value hs
      refine ⟨fun e he => by simp [nothing] at he, fun f hf => ?_⟩
      obtain ⟨joined, htag⟩ := (goes f).1 hf
      exact .first joined (htag ▸ .routed from_router rfl rfl hi active)
    · refine ⟨fun e he router => ?_, fun g hg => hf.goes h hs hg⟩
      have hport := hf.hasPort h
      have arrived := (arrive_spec h hport).value hs
      rcases (arrived.found e).1 he with ⟨v, ⟨i', hi', -⟩, rfl, -⟩ | ⟨-, receives⟩
      · rw [IsRouter.not_switchPort (p := f.place) router] at hi'
        cases hi'
      · have way := hf.way (.routed (receives.1 ▸ router) receives)
        rwa [← receives.parentEnd h hport] at way
  · intro way
    obtain ⟨s, hs, f, hf, g, becomes, hplace, hport, enters⟩ := way.arrives h from_router
    rw [← hplace] at hport enters
    obtain ⟨next, hnext, arrived⟩ := (arrive_spec h hport).exists_ok
    cases enters with
    | routed router receives =>
      have routed := IsRouter.not_switchPort router
      exact ⟨s, hs, Or.inr ⟨f, hf, g, becomes, next, hnext, (arrived.found b).2 (Or.inr ⟨routed, receives⟩)⟩⟩

/-- If tags are kept, whatever hears a router's interface on another router is heard by it. -/
theorem Hears.symm (hs : t.Settled) (kept : t.TagsKept) (ha : t.Active a) (hb : t.Active b)
    (hears : t.Hears a b) : t.Hears b a := by
  obtain ⟨i, hi, active⟩ := ha
  obtain ⟨j, hj, active'⟩ := hb
  have way := (hears_iff_way h from_router to_router hi active).1 hears
  exact (hears_iff_way h to_router from_router hj active').2 (way.symm h hs kept)

end Routers

end Topology

end NetRack
