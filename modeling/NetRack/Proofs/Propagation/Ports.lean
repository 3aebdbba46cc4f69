import NetRack.Proofs.Topology

/-!
# Ports and links under propagation

A port is settled if it works exactly when a link at it is up, and that link is up exactly when both
of its ends are switched on.  Looking at a port anew settles it and the port across its link, and
unsettles no other; whatever it changes is marked dirty.
-/

namespace NetRack

open InterfaceName (kindOf parentOf)

/-- What refreshing keeps: the outline, the dirty ports so far, and every port that is not dirty. -/
structure Refreshes (r r' : Refresh) : Prop where
  outline : r'.topology.outline = r.topology.outline
  dirty : ∀ e ∈ r.dirty, e ∈ r'.dirty
  clean : ∀ e, e ∉ r'.dirty → r'.topology.port? e = r.topology.port? e
  known : ∀ e ∈ r'.dirty, e ∈ r.dirty ∨ e.device ∈ r.topology.devices.keys

namespace Refreshes

variable {r r' r'' : Refresh}

theorem refl (r : Refresh) : Refreshes r r := ⟨rfl, fun _ h => h, fun _ _ => rfl, fun _ h => Or.inl h⟩

theorem trans (h : Refreshes r r') (h' : Refreshes r' r'') : Refreshes r r'' where
  outline := h'.outline.trans h.outline
  dirty := fun e he => h'.dirty e (h.dirty e he)
  clean := fun e he => (h'.clean e he).trans (h.clean e fun hd => he (h'.dirty e hd))
  known := by
    intro e he
    rcases h'.known e he with hd | hk
    · exact h.known e hd
    · rw [Topology.keys_of_outline h.outline] at hk
      exact Or.inr hk

end Refreshes

namespace Refresh

theorem mem_mark {r : Refresh} {e x : LinkEnd} : x ∈ (r.mark e).dirty ↔ x ∈ r.dirty ∨ x = e := by
  unfold mark
  split
  · rename_i h
    constructor
    · exact Or.inl
    · rintro (hx | rfl)
      · exact hx
      · exact h
  · simp

@[simp] theorem topology_mark (r : Refresh) (e : LinkEnd) : (r.mark e).topology = r.topology := by
  unfold mark
  split <;> rfl

@[simp] theorem topology_setOper (r : Refresh) (e : LinkEnd) (up : Bool) :
    (r.setOper e up).topology = r.topology.modifyInterface e fun i => { i with operUp := up } :=
  topology_mark _ e

theorem mem_setOper {r : Refresh} {e x : LinkEnd} {up : Bool} :
    x ∈ (r.setOper e up).dirty ↔ x ∈ r.dirty ∨ x = e := mem_mark

theorem mark_refreshes {r : Refresh} {e : LinkEnd} (h : e.device ∈ r.topology.devices.keys) :
    Refreshes r (r.mark e) where
  outline := by rw [topology_mark]
  dirty := fun x hx => mem_mark.2 (Or.inl hx)
  clean := by
    intro x _
    rw [topology_mark]
  known := by
    intro x hx
    rcases mem_mark.1 hx with hx | rfl
    · exact Or.inl hx
    · exact Or.inr h

theorem setOper_refreshes {r : Refresh} {e : LinkEnd} {b : Bool}
    (h : e.device ∈ r.topology.devices.keys) : Refreshes r (r.setOper e b) where
  outline := by rw [topology_setOper, Topology.outline_modifyInterface]
  dirty := fun x hx => mem_setOper.2 (Or.inl hx)
  clean := by
    intro x hx
    rw [topology_setOper, Topology.port?_modifyInterface, if_neg]
    rintro rfl
    exact hx (mem_setOper.2 (Or.inr rfl))
  known := by
    intro x hx
    rcases mem_setOper.1 hx with hx | rfl
    · exact Or.inl hx
    · exact Or.inr h

end Refresh

namespace Topology

variable {t : Topology}

theorem works_modifyInterface {e e' : LinkEnd} {up : Bool} :
    (t.modifyInterface e fun i => { i with operUp := up }).works e' =
      if e' = e then (t.port? e').isSome && up else t.works e' := by
  unfold works
  rw [port?_modifyInterface]
  split
  · cases t.port? e' <;> simp
  · rfl

/-! ## Links going up and down -/

theorem setFirst_map (e : LinkEnd) (up : Bool) (ls : List Link) :
    (setLinkAt.setFirst e up ls).map (fun l => { l with up := false }) =
      ls.map fun l => { l with up := false } := by
  induction ls with
  | nil => rfl
  | cons l rest ih =>
    unfold setLinkAt.setFirst
    split
    · rfl
    · rw [List.map_cons, ih]
      rfl

theorem outline_setLinkAt (t : Topology) (e : LinkEnd) (up : Bool) :
    (t.setLinkAt e up).outline = t.outline := by
  unfold outline setLinkAt
  rw [setFirst_map]

/-- Which link is at a port after the link at some port has gone up or down. -/
theorem linkAt_setLinkAt (h : t.Cabled) (e x : LinkEnd) (up : Bool) :
    (t.setLinkAt e up).linkAt x =
      (t.linkAt x).map fun l => if l.touches e then { l with up } else l := by
  have step : ∀ ls : List Link, (ls.flatMap Link.ends).Nodup →
      (setLinkAt.setFirst e up ls).find? (·.touches x) =
        (ls.find? (·.touches x)).map fun l => if l.touches e then { l with up } else l := by
    intro ls
    induction ls with
    | nil => intro _; rfl
    | cons l rest ih =>
      intro nodup
      rw [List.flatMap_cons, List.nodup_append] at nodup
      obtain ⟨-, hrest, hdisj⟩ := nodup
      unfold setLinkAt.setFirst
      by_cases he : l.touches e = true
      · -- No later link ends at `e`, so all of them stay as they are.
        have same : ∀ m ∈ rest, (if m.touches e then { m with up } else m) = m := by
          intro m hm
          rw [if_neg]
          intro hme
          have hmem : e ∈ rest.flatMap Link.ends := List.mem_flatMap.2 ⟨m, hm, Link.touches_iff.1 hme⟩
          exact hdisj e (Link.touches_iff.1 he) e hmem rfl
        rw [if_pos he]
        have hup : ({ l with up } : Link).touches x = l.touches x := rfl
        rw [List.find?_cons, List.find?_cons, hup]
        cases hx : l.touches x with
        | true => simp [he]
        | false =>
          cases hf : rest.find? (·.touches x) with
          | none => rfl
          | some m =>
            show some m = some (if m.touches e then { m with up } else m)
            rw [same m (List.mem_of_find?_eq_some hf)]
      · rw [if_neg he]
        rw [List.find?_cons, List.find?_cons]
        cases hx : l.touches x with
        | true => simp [he]
        | false => exact ih hrest
  exact step t.links h.apart

/-! ## Settled ports -/

/-- A port works as its link dictates, and the link is up as its ends dictate. -/
structure PortSettled (t : Topology) (e : LinkEnd) : Prop where
  port : t.works e = (t.linkAt e).any (·.up)
  link : ∀ l, t.linkAt e = some l → l.up = (t.isOn l.a && t.isOn l.b)

theorem PortSettled.congr {u : Topology} {e : LinkEnd} (h : t.PortSettled e)
    (ho : u.outline = t.outline) (hworks : u.works e = t.works e) (hlink : u.linkAt e = t.linkAt e) :
    u.PortSettled e where
  port := by rw [hworks, hlink, h.port]
  link := by
    intro l hl
    rw [hlink] at hl
    rw [isOn_of_outline ho, isOn_of_outline ho, h.link l hl]

/-- The ports that looking at a port anew is about: itself and the other end of its link. -/
def Reaches (t : Topology) (e x : LinkEnd) : Prop := x = e ∨ ∃ l, t.linkAt e = some l ∧ x ∈ l.ends

/-- What looking at a port anew does. -/
structure Settles (e : LinkEnd) (r r' : Refresh) : Prop where
  refreshes : Refreshes r r'
  keeps : ∀ x, r.topology.PortSettled x → r'.topology.PortSettled x
  settles : ∀ x, r.topology.Reaches e x → r'.topology.PortSettled x

/-- The link at a port goes up or down, and both of its ends with it. -/
def switchLink (r : Refresh) (e : LinkEnd) (l : Link) (up : Bool) : Refresh :=
  l.ends.foldl (fun r e => r.setOper e up) { r with topology := r.topology.setLinkAt e up }

section SwitchLink

variable {r : Refresh} {e : LinkEnd} {l : Link} {up : Bool}

theorem topology_switchLink : (switchLink r e l up).topology =
    ((r.topology.setLinkAt e up).modifyInterface l.a fun i => { i with operUp := up }).modifyInterface l.b
      fun i => { i with operUp := up } := by
  simp only [switchLink, Link.ends, List.foldl_cons, List.foldl_nil, Refresh.topology_setOper]

theorem switchLink_refreshes (da : l.a.device ∈ r.topology.devices.keys)
    (db : l.b.device ∈ r.topology.devices.keys) : Refreshes r (switchLink r e l up) := by
  have hlink : Refreshes r { r with topology := r.topology.setLinkAt e up } :=
    ⟨outline_setLinkAt _ _ _, fun _ hx => hx, fun _ _ => rfl, fun _ hx => Or.inl hx⟩
  have ha := hlink.trans (Refresh.setOper_refreshes (e := l.a) (b := up) da)
  refine ha.trans (Refresh.setOper_refreshes (e := l.b) (b := up) ?_)
  rw [keys_of_outline ha.outline]
  exact db

theorem linkAt_switchLink (h : r.topology.Cabled) (x : LinkEnd) :
    (switchLink r e l up).topology.linkAt x =
      (r.topology.linkAt x).map fun m => if m.touches e then { m with up } else m := by
  rw [topology_switchLink]
  exact linkAt_setLinkAt h e x up

theorem works_switchLink (x : LinkEnd) :
    (switchLink r e l up).topology.works x =
      if x ∈ l.ends then (r.topology.port? x).isSome && up else r.topology.works x := by
  rw [topology_switchLink, works_modifyInterface, port?_modifyInterface, works_modifyInterface]
  by_cases hb : x = l.b
  · rw [if_pos hb, if_pos (by simp [Link.ends, hb] : x ∈ l.ends)]
    split
    · rw [Option.isSome_map]
      rfl
    · rfl
  · rw [if_neg hb]
    by_cases ha : x = l.a
    · rw [if_pos ha, if_pos (by simp [Link.ends, ha] : x ∈ l.ends)]
      rfl
    · rw [if_neg ha, if_neg (by simp [Link.ends, ha, hb] : ¬x ∈ l.ends)]
      rfl

theorem switchLink_settles (h : r.topology.Cabled) (hl : l ∈ r.topology.links) (he : e ∈ l.ends) :
    Settles e r (switchLink r e l (r.topology.isOn l.a && r.topology.isOn l.b)) := by
  generalize hup : (r.topology.isOn l.a && r.topology.isOn l.b) = up
  have hre : Refreshes r (switchLink r e l up) := switchLink_refreshes
    (h.ends l hl l.a (by simp [Link.ends])).device_mem (h.ends l hl l.b (by simp [Link.ends])).device_mem
  have here : ∀ x ∈ l.ends, (switchLink r e l up).topology.PortSettled x := by
    intro x hx
    have hlink : (switchLink r e l up).topology.linkAt x = _ := linkAt_switchLink h x
    rw [h.linkAt_iff.2 ⟨hl, hx⟩, Option.map_some, if_pos (Link.touches_iff.2 he)] at hlink
    refine ⟨?_, ?_⟩
    · rw [works_switchLink, if_pos hx, hlink, (h.ends l hl x hx).1]
      rfl
    · intro m hm
      rw [hlink] at hm
      cases hm
      rw [isOn_of_outline hre.outline, isOn_of_outline hre.outline]
      exact hup.symm
  refine ⟨hre, fun x hx => ?_, fun x hx => ?_⟩
  · by_cases hxl : x ∈ l.ends
    · exact here x hxl
    · refine hx.congr hre.outline ?_ ?_
      · rw [works_switchLink, if_neg hxl]
      · rw [linkAt_switchLink h]
        cases hm : r.topology.linkAt x with
        | none => rfl
        | some m =>
          -- The link at `x` is another one than `l`, so it does not end at `e`.
          rw [Option.map_some, if_neg]
          intro hme
          obtain ⟨hmm, hxm⟩ := h.linkAt_iff.1 hm
          have := h.link_unique hmm hl (Link.touches_iff.1 hme) he
          exact hxl (this ▸ hxm)
  · rcases hx with rfl | ⟨m, hm, hx⟩
    · exact here x he
    · rw [h.linkAt_iff.2 ⟨hl, he⟩] at hm
      cases hm
      exact here x hx

end SwitchLink

theorem unplugged_settles {r : Refresh} {e : LinkEnd} (he : r.topology.HasPort e)
    (hl : r.topology.linkAt e = none) : Settles e r (r.setOper e false) := by
  have link (x : LinkEnd) : (r.setOper e false).topology.linkAt x = r.topology.linkAt x := by
    rw [Refresh.topology_setOper]
    rfl
  have works (x : LinkEnd) :
      (r.setOper e false).topology.works x = if x = e then false else r.topology.works x := by
    rw [Refresh.topology_setOper, works_modifyInterface, Bool.and_false]
  have hre := Refresh.setOper_refreshes (b := false) he.device_mem
  have here : (r.setOper e false).topology.PortSettled e := by
    refine ⟨?_, ?_⟩
    · rw [works, if_pos rfl, link, hl]
      rfl
    · intro l hl'
      rw [link, hl] at hl'
      cases hl'
  refine ⟨hre, fun x hx => ?_, fun x hx => ?_⟩
  · by_cases hxe : x = e
    · rw [hxe]
      exact here
    · exact hx.congr hre.outline ((works x).trans (if_neg hxe)) (link x)
  · rcases hx with rfl | ⟨l, hl', -⟩
    · exact here
    · rw [hl] at hl'
      cases hl'

/-- Looking at a physical port anew settles it. -/
theorem refreshPhysical_settles {r : Refresh} {e : LinkEnd} (h : r.topology.Cabled)
    (he : r.topology.HasPort e) : Yields (Settles e r) (refreshPhysical r e) := by
  unfold refreshPhysical
  cases hl : r.topology.linkAt e with
  | none => exact unplugged_settles he hl
  | some l =>
    obtain ⟨hmem, hel⟩ := h.linkAt_iff.1 hl
    obtain ⟨j, hj⟩ := h.end_port hmem (e := l.b) (by simp [Link.ends])
    simp only [h.bothEndsOn_eq hmem, interface_eq hj, ok_bind, pure_eq_ok]
    exact switchLink_settles h hmem hel

/-! ## Ports that were touched -/

/-- The port whose state that of a port depends on: the parent if the port is a subinterface. -/
def parentEnd (e : LinkEnd) : LinkEnd := ⟨e.device, parentOf e.port⟩

theorem reaches_of_outline {u : Topology} (ht : t.Cabled) (hu : u.Cabled) (ho : u.outline = t.outline)
    {e x : LinkEnd} : u.Reaches e x → t.Reaches e x := by
  rintro (rfl | ⟨l', hl', hx⟩)
  · exact Or.inl rfl
  · obtain ⟨hmem, he⟩ := hu.linkAt_iff.1 hl'
    obtain ⟨l, hl, heq⟩ := mem_links_of_outline ho hmem
    rw [heq] at he hx
    exact Or.inr ⟨l, ht.linkAt_iff.2 ⟨hl, he⟩, hx⟩

/-- What looking anew at ports that were touched does. -/
structure Looks (es : List LinkEnd) (r r' : Refresh) : Prop where
  refreshes : Refreshes r r'
  keeps : ∀ x, r.topology.PortSettled x → r'.topology.PortSettled x
  marks : ∀ e ∈ es, e.device ∈ r.topology.devices.keys → e ∈ r'.dirty
  settles : ∀ e ∈ es, r.topology.HasPort (parentEnd e) →
    ∀ x, r.topology.Reaches (parentEnd e) x → r'.topology.PortSettled x

/-- Looking anew at one port. -/
theorem Looks.single {r r' : Refresh} {e : LinkEnd} (refreshes : Refreshes r r')
    (keeps : ∀ x, r.topology.PortSettled x → r'.topology.PortSettled x)
    (marks : e.device ∈ r.topology.devices.keys → e ∈ r'.dirty)
    (settles : r.topology.HasPort (parentEnd e) →
      ∀ x, r.topology.Reaches (parentEnd e) x → r'.topology.PortSettled x) : Looks [e] r r' where
  refreshes := refreshes
  keeps := keeps
  marks := fun x hx => by
    rw [List.mem_singleton.1 hx]
    exact marks
  settles := fun x hx => by
    rw [List.mem_singleton.1 hx]
    exact settles

theorem refreshPort_looks {r : Refresh} {e : LinkEnd} (h : r.topology.Cabled) :
    Meets (fun f => InterfaceName.split e.port = .error f) (Looks [e] r) (refreshPort r e) := by
  unfold refreshPort
  cases hd : r.topology.devices.get? e.device with
  | none =>
    have unknown : e.device ∉ r.topology.devices.keys := Table.get?_eq_none.1 hd
    exact .single (Refreshes.refl r) (fun _ hx => hx) (fun hk => absurd hk unknown)
      fun hp => absurd hp.device_mem unknown
  | some d =>
    have hk : e.device ∈ r.topology.devices.keys := Table.mem_keys_of_get? hd
    have hmark := Refresh.mark_refreshes hk
    have dirty : e ∈ (r.mark e).dirty := Refresh.mem_mark.2 (Or.inr rfl)
    have unchanged : (r.mark e).topology = r.topology := Refresh.topology_mark ..
    -- Where no physical port is looked at, the port is only marked.
    have marked (absent : ¬r.topology.HasPort (parentEnd e)) : Looks [e] r (r.mark e) :=
      .single hmark (fun x hx => unchanged ▸ hx) (fun _ => dirty) fun hp => absurd hp absent
    cases hs : InterfaceName.split e.port with
    | error f => exact rfl
    | ok p =>
      have hp := (InterfaceName.split_meets e.port).value hs
      subst hp
      simp only [ok_bind, InterfaceName.kind_parentOf, pure_eq_ok]
      have present : d.interfaces.contains (parentOf e.port) = (r.topology.port? (parentEnd e)).isSome := by
        rw [port?_of_get? (e := parentEnd e) hd, Table.contains_eq_isSome]
        rfl
      rw [present]
      split
      · rename_i hport
        split
        · rename_i hphys
          have hcabled : (r.mark e).topology.Cabled := unchanged ▸ h
          have hhas : (r.mark e).topology.HasPort (parentEnd e) := unchanged ▸ ⟨hport, hphys⟩
          refine Meets.imp (refreshPhysical_settles hcabled hhas).anyway fun r' hr' => ?_
          refine .single (hmark.trans hr'.refreshes) (fun x hx => hr'.keeps x ?_)
            (fun _ => hr'.refreshes.dirty e dirty) fun _ y hy => hr'.settles y ?_
          · rw [unchanged]
            exact hx
          · rw [unchanged]
            exact hy
        · rename_i hphys
          exact marked fun hp => hphys hp.2
      · rename_i hport
        exact marked fun hp => hport hp.1

/-- Looking at ports anew settles all of them and the ports across their links. -/
theorem refreshPorts_looks {r : Refresh} {es : List LinkEnd} (h : r.topology.Cabled) :
    Meets (fun f => ∃ e ∈ es, InterfaceName.split e.port = .error f) (Looks es r)
      (es.foldlM refreshPort r) := by
  induction es generalizing r with
  | nil =>
    refine ⟨Refreshes.refl r, fun _ hx => hx, ?_, ?_⟩
    · intro e he
      cases he
    · intro e he
      cases he
  | cons e es ih =>
    rw [List.foldlM_cons]
    have first : Meets (fun f => ∃ x ∈ e :: es, InterfaceName.split x.port = .error f) (Looks [e] r)
        (refreshPort r e) := (refreshPort_looks h).mono (fun f hf => ⟨e, by simp, hf⟩) fun _ hr => hr
    refine first.bind fun r' hr' => ?_
    have hout := hr'.refreshes.outline
    have h' : r'.topology.Cabled := h.of_outline hout
    refine (ih h').mono (fun f ⟨x, hx, hf⟩ => ⟨x, by simp [hx], hf⟩) fun r'' hr'' => ?_
    refine ⟨hr'.refreshes.trans hr''.refreshes, fun x hx => hr''.keeps x (hr'.keeps x hx), ?_, ?_⟩
    · intro x hx hk
      rcases List.mem_cons.1 hx with rfl | hx
      · exact hr''.refreshes.dirty x (hr'.marks x (by simp) hk)
      · refine hr''.marks x hx ?_
        rw [keys_of_outline hout]
        exact hk
    · intro x hx hp y hy
      rcases List.mem_cons.1 hx with rfl | hx
      · exact hr''.keeps y (hr'.settles x (by simp) hp y hy)
      · exact hr''.settles x hx ((hasPort_of_outline hout).2 hp) y
          (reaches_of_outline h' h hout.symm hy)

end Topology

end NetRack
