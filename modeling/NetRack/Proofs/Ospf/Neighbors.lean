import NetRack.Proofs.Ospf.Adjacency
import NetRack.Proofs.Reach

/-!
# Who is a neighbor of whom

Two routers are compatible at two of their interfaces if both run OSPF there, in one area and one network,
and are told apart by their identifiers.  This is symmetric.  An interface of a router has an entry for each
compatible interface that hears it, and for no other.
-/

namespace NetRack

namespace Topology

/-- Whether a router runs OSPF at one of its interfaces, in an area, and sends there. -/
structure OspfRouter.SpeaksAt (r : OspfRouter) (e : LinkEnd) (i : Interface) (area : Int) : Prop where
  here : e = ⟨r.key, i.name⟩
  port : r.device.interfaces.get? i.name = some i
  area : ospfArea? r.device i = .ok (some area)
  active : i.name ∉ r.config.passiveInterfaces

/-- Whether two routers are compatible at two of their interfaces. -/
structure Compatible (r : OspfRouter) (a : LinkEnd) (i : Interface) (p : OspfRouter) (b : LinkEnd)
    (j : Interface) : Prop where
  speak : ∃ area, r.SpeaksAt a i area ∧ p.SpeaksAt b j area
  apart : p.key ≠ r.key
  ids : ∃ id peerId, r.id = some id ∧ p.id = some peerId ∧ peerId ≠ id
  network : j.net = i.net

theorem Compatible.symm {r p : OspfRouter} {a b : LinkEnd} {i j : Interface} (h : Compatible r a i p b j) :
    Compatible p b j r a i where
  speak := by
    obtain ⟨area, mine, theirs⟩ := h.speak
    exact ⟨area, theirs, mine⟩
  apart := h.apart.symm
  ids := by
    obtain ⟨id, peerId, mine, theirs, ne⟩ := h.ids
    exact ⟨peerId, id, theirs, mine, ne.symm⟩
  network := h.network.symm

/-- The entry for an interface of a router, as seen from one's own interface. -/
def entryFor (i : Interface) (p : OspfRouter) (j : Interface) : OspfNeighbor :=
  ⟨p.id.getD "", j.ip.getD "", i.name, "FULL"⟩

/-- The edge to an interface of a router. -/
def edgeTo (i : Interface) (p : OspfRouter) (j : Interface) : Edge :=
  ⟨p.key, ⟨i.name, j.ip.getD ""⟩, ospfCost i.name⟩

/-- What a router learns at the interface at an end. -/
def Learns (t : Topology) (routers : List OspfRouter) (r : OspfRouter) (a : LinkEnd) (i : Interface)
    (x : OspfNeighbor × Edge) : Prop :=
  ∃ p ∈ routers, ∃ b j, Compatible r a i p b j ∧ t.Hears a b ∧ x = (entryFor i p j, edgeTo i p j)

variable {t : Topology} {routers : List OspfRouter} {r : OspfRouter}

theorem eq_of_key_eq (apart : (routers.map OspfRouter.key).Nodup) {p q : OspfRouter} (hp : p ∈ routers)
    (hq : q ∈ routers) (h : p.key = q.key) : p = q :=
  List.inj_on_of_nodup_map apart hp hq h

theorem find?_key (apart : (routers.map OspfRouter.key).Nodup) {p : OspfRouter} (hp : p ∈ routers) :
    routers.find? (·.key = p.key) = some p := by
  cases hf : routers.find? (·.key = p.key) with
  | none => exact absurd (decide_eq_true rfl) (List.find?_eq_none.1 hf p hp)
  | some q =>
    have hkey : q.key = p.key := by simpa using List.find?_some hf
    rw [eq_of_key_eq apart (List.mem_of_find?_eq_some hf) hp hkey]

section Sound

variable (h : t.Sound)

include h

/-- An interface where OSPF runs works and has an address. -/
theorem OspfRouter.SpeaksAt.works {q : OspfRouter} (hq : q.Within t) {b : LinkEnd} {j : Interface} {area : Int}
    (speaks : q.SpeaksAt b j area) : t.port? b = some j ∧ j.isActive = true := by
  have haddr := ((h.table hq.1).each _ _ speaks.port).addressed
  rw [speaks.here, port?_of_get? hq.1]
  exact ⟨speaks.port, (ospfArea?_yields (h.devices _ _ hq.1) haddr).value speaks.area rfl⟩

theorem Compatible.address {p : OspfRouter} (hp : p.Within t) {a b : LinkEnd} {i j : Interface}
    (hc : Compatible r a i p b j) : ∃ x : Address, j.ip = some x.text := by
  obtain ⟨area, -, theirs⟩ := hc.speak
  obtain ⟨hj, active⟩ := theirs.works h hp
  exact active_ip (h.port_sound hj).addressed active

variable (apart : (routers.map OspfRouter.key).Nodup) (within : ∀ r ∈ routers, r.Within t)

include within

/-- What a router learns has an interface and an address to go by. -/
theorem Learns.real (hr : r ∈ routers) {a : LinkEnd} {i : Interface} {x : OspfNeighbor × Edge}
    (learns : t.Learns routers r a i x) : x.2.hop.Real := by
  obtain ⟨p, hp, b, j, hc, -, rfl⟩ := learns
  obtain ⟨area, mine, -⟩ := hc.speak
  obtain ⟨y, hy⟩ := hc.address h (within p hp)
  refine ⟨(h.table (within r hr).1).named _ (Table.mem_keys_of_get? mine.port), y, ?_⟩
  show j.ip.getD "" = y.text
  rw [hy]
  rfl

omit h within in
/-- Where one of two compatible interfaces speaks in an area, so does the other. -/
theorem Compatible.speaks {p : OspfRouter} {a b : LinkEnd} {i j : Interface} {area : Int}
    (hc : Compatible r a i p b j) (mine : r.SpeaksAt a i area) : p.SpeaksAt b j area := by
  obtain ⟨area', mine', theirs⟩ := hc.speak
  have same := mine.area.symm.trans mine'.area
  cases same
  exact theirs

/-- What a router learns from an interface of another router. -/
theorem adjacency?_meeting {i : Interface} {area : Int} (speaks : r.SpeaksAt ⟨r.key, i.name⟩ i area)
    (hi : i.Addressed) {id : String} (hid : r.id = some id) {p : OspfRouter} {e : LinkEnd} {j : Interface}
    (hf : routers.find? (·.key = e.device) = some p) (hj : t.port? e = some j) :
    Yields (fun o => ∀ x, o = some x ↔ Compatible r ⟨r.key, i.name⟩ i p e j ∧ x = (entryFor i p j, edgeTo i p j))
      (adjacency? routers r id i area e) := by
  have nothing (no : ¬Compatible r ⟨r.key, i.name⟩ i p e j) (x : OspfNeighbor × Edge) :
      none = some x ↔ Compatible r ⟨r.key, i.name⟩ i p e j ∧ x = (entryFor i p j, edgeTo i p j) :=
    iff_of_false (fun hx => by cases hx) fun hx => no hx.1
  have hkey : p.key = e.device := by simpa using List.find?_some hf
  obtain ⟨hd, -⟩ := within p (List.mem_of_find?_eq_some hf)
  rw [hkey] at hd
  have hget : p.device.interfaces.get? e.port = some j := (port?_of_get? hd).symm.trans hj
  have hname : j.name = e.port := (h.port_sound hj).name
  have haddr := (h.port_sound hj).addressed
  unfold adjacency?
  rw [hf]
  dsimp only
  cases hpeer : p.id with
  | none =>
    refine nothing fun hc => ?_
    obtain ⟨_, _, -, theirs, -⟩ := hc.ids
    rw [hpeer] at theirs
    cases theirs
  | some peerId =>
    dsimp only
    refine Meets.ite (fun same => nothing fun hc => ?_) fun differ => ?_
    · obtain ⟨id', peerId', mine, theirs, ne⟩ := hc.ids
      obtain rfl := Option.some.inj (hid.symm.trans mine)
      obtain rfl := Option.some.inj (hpeer.symm.trans theirs)
      simp [hc.apart, ne] at same
    rw [hget, need, ok_bind]
    obtain ⟨peerArea, harea, -⟩ := (ospfArea?_yields (h.devices _ _ hd) haddr).exists_ok
    rw [harea, ok_bind]
    refine Meets.ite (fun silent => nothing fun hc => ?_) fun speaking => ?_
    · have theirs := hc.speaks speaks
      have active := theirs.active
      obtain rfl := Except.ok.inj (harea.symm.trans theirs.area)
      rw [hname] at active
      simp [active] at silent
    rw [haddr.network?_eq, ok_bind, hi.network?_eq, ok_bind]
    refine Meets.ite (fun elsewhere => nothing fun hc => elsewhere hc.network) fun together => ?_
    simp only [Bool.or_eq_true, Option.isNone_iff_eq_none, decide_eq_true_eq, not_or, ne_eq, not_not] at speaking
    have hc : Compatible r ⟨r.key, i.name⟩ i p e j := {
      speak := by
        refine ⟨area, speaks, ?_, by rw [hname]; exact hget, by rw [harea, speaking.2], ?_⟩
        · rw [hkey, hname]
        · rw [hname]
          exact speaking.1.2
      apart := fun heq => differ (by simp [heq])
      ids := ⟨id, peerId, hid, hpeer, fun heq => differ (by simp [heq])⟩
      network := not_not.1 together }
    intro x
    rw [and_iff_right hc, entryFor, edgeTo, hpeer, Option.some.injEq]
    exact eq_comm

include apart

/-- What a router learns from an interface that hears it. -/
theorem adjacency?_spec {i : Interface} {area : Int} (speaks : r.SpeaksAt ⟨r.key, i.name⟩ i area)
    (hi : i.Addressed) {id : String} (hid : r.id = some id) {e : LinkEnd} (he : (t.port? e).isSome) :
    Yields (fun o => ∀ x, o = some x ↔ ∃ p ∈ routers, ∃ j, Compatible r ⟨r.key, i.name⟩ i p e j ∧
      x = (entryFor i p j, edgeTo i p j)) (adjacency? routers r id i area e) := by
  have keyed {q : OspfRouter} {k : Interface} (hc : Compatible r ⟨r.key, i.name⟩ i q e k) :
      q.key = e.device ∧ q.device.interfaces.get? e.port = some k := by
    have theirs := hc.speaks speaks
    rw [theirs.here]
    exact ⟨rfl, theirs.port⟩
  obtain ⟨j, hj⟩ := Option.isSome_iff_exists.1 he
  cases hf : routers.find? (·.key = e.device) with
  | none =>
    unfold adjacency?
    rw [hf]
    refine fun x => iff_of_false (fun hx => by cases hx) ?_
    rintro ⟨p, hp, k, hc, -⟩
    exact absurd (decide_eq_true (keyed hc).1) (List.find?_eq_none.1 hf p hp)
  | some p =>
    have hp := List.mem_of_find?_eq_some hf
    have hkey : p.key = e.device := by simpa using List.find?_some hf
    have hd := (within p hp).1
    rw [hkey] at hd
    refine (adjacency?_meeting h within speaks hi hid hf hj).imp fun o ho x => (ho x).trans ?_
    constructor
    · rintro ⟨hc, hx⟩
      exact ⟨p, hp, j, hc, hx⟩
    · -- Only this router and its interface can be meant.
      rintro ⟨q, hq, k, hc, hx⟩
      obtain rfl : q = p := eq_of_key_eq apart hq hp ((keyed hc).1.trans hkey.symm)
      obtain rfl : k = j := Option.some.inj ((keyed hc).2.symm.trans ((port?_of_get? hd).symm.trans hj))
      exact ⟨hc, hx⟩

/-- What a router learns at one of its interfaces. -/
theorem adjacenciesAt_spec (hr : r ∈ routers) {id : String} (hid : r.id = some id) {i : Interface}
    (hi : r.device.interfaces.get? i.name = some i) :
    Yields (fun found => ∀ x, x ∈ found ↔ t.Learns routers r ⟨r.key, i.name⟩ i x)
      (t.adjacenciesAt routers r id i) := by
  have hd := (within r hr).1
  have hport : t.port? ⟨r.key, i.name⟩ = some i := (port?_of_get? hd).trans hi
  have haddr := (h.port_sound hport).addressed
  have nothing (no : ∀ area, ¬r.SpeaksAt ⟨r.key, i.name⟩ i area) (x : OspfNeighbor × Edge) :
      x ∈ [] ↔ t.Learns routers r ⟨r.key, i.name⟩ i x := by
    refine iff_of_false List.not_mem_nil ?_
    rintro ⟨p, hp, b, j, hc, -⟩
    obtain ⟨area, mine, -⟩ := hc.speak
    exact no area mine
  obtain ⟨area, harea, -⟩ := (ospfArea?_yields (h.devices _ _ hd) haddr).exists_ok
  unfold adjacenciesAt
  rw [harea, ok_bind]
  cases area with
  | none =>
    refine nothing fun area mine => ?_
    have hmine := mine.area
    rw [harea] at hmine
    cases hmine
  | some area =>
    refine Meets.ite (fun passive => nothing fun _ mine => mine.active passive) fun active => ?_
    have speaks : r.SpeaksAt ⟨r.key, i.name⟩ i area := ⟨rfl, hi, harea, active⟩
    refine ((domain_spec h hport).and (domain_yields h hport)).bind fun found hfound => ?_
    refine (Meets.mapM fun e he => adjacency?_spec h apart within speaks haddr hid (hfound.2 e he)).bind ?_
    intro learned hlearned x
    rw [List.mem_filterMap, ← exists_mem_iff_of_forall₂ hlearned fun e o heo => (heo x).symm]
    constructor
    · rintro ⟨e, he, p, hp, j, hc, hx⟩
      exact ⟨p, hp, e, j, hc, ((hfound.1 e).1 he).2, hx⟩
    · rintro ⟨p, hp, b, j, hc, hears, hx⟩
      have elsewhere : b ≠ ⟨r.key, i.name⟩ := by
        obtain ⟨_, -, theirs⟩ := hc.speak
        rw [theirs.here]
        exact fun heq => hc.apart (congrArg LinkEnd.device heq)
      exact ⟨b, (hfound.1 b).2 ⟨elsewhere, hears⟩, p, hp, j, hc, hx⟩

/-- What a router learns, it learns at one of its interfaces. -/
theorem adjacencies_spec (hr : r ∈ routers) :
    Yields (fun found => ∀ x, x ∈ found ↔ ∃ a i, t.Learns routers r a i x) (t.adjacencies routers r) := by
  have table := h.table (within r hr).1
  unfold adjacencies
  cases hid : r.id with
  | none =>
    refine fun x => iff_of_false List.not_mem_nil ?_
    rintro ⟨a, i, p, -, b, j, hc, -⟩
    obtain ⟨id, -, hsome, -⟩ := hc.ids
    rw [hid] at hsome
    cases hsome
  | some id =>
    dsimp only
    rw [Device.sortedInterfaces_of_table table, ok_bind]
    have each : ∀ i ∈ r.device.ordered.map Prod.snd, _ := fun i hi =>
      adjacenciesAt_spec h apart within hr hid ((Device.mem_ordered_values table).1 hi)
    refine (Meets.mapM each).bind fun found hfound x => ?_
    rw [List.mem_flatten, ← exists_mem_iff_of_forall₂ hfound fun i xs hxs => (hxs x).symm]
    constructor
    · rintro ⟨i, -, hx⟩
      exact ⟨⟨r.key, i.name⟩, i, hx⟩
    · rintro ⟨a, i, p, hp, b, j, hc, hrest⟩
      have speak := hc.speak
      obtain ⟨area, mine, -⟩ := speak
      refine ⟨i, (Device.mem_ordered_values table).2 mine.port, p, hp, b, j, ?_, ?_⟩
      · rw [← mine.here]
        exact hc
      · rw [← mine.here]
        exact hrest

end Sound

end Topology

end NetRack
