import NetRack.Proofs.Ospf.Recompute

/-!
# What propagation comes to

A topology is settled if its ports, links, other interfaces and connected routes are everywhere as
the configuration dictates.  Propagation looks only at the ports it is told about and at what depends
on them.  If all else is as dictated already, the outcome is settled.
-/

namespace NetRack

open InterfaceName (kindOf parentOf)

namespace Refreshes

variable {r r' : Refresh} {k : String}

/-- A device without a dirty port is left as it is. -/
theorem device_eq (h : Refreshes r r') (hk : ∀ e ∈ r'.dirty, e.device ≠ k) :
    r'.topology.devices.get? k = r.topology.devices.get? k := by
  cases hd' : r'.topology.devices.get? k with
  | none =>
    have absent := Table.get?_eq_none.1 hd'
    rw [Topology.keys_of_outline h.outline] at absent
    rw [Table.get?_eq_none.2 absent]
  | some d' =>
    obtain ⟨d, hd, heq, his⟩ := Topology.get?_of_outline h.outline hd'
    have keys : d'.interfaces.keys = d.interfaces.keys := by simpa using congrArg Table.keys his
    have interfaces : d'.interfaces = d.interfaces := by
      refine Table.ext keys fun n => ?_
      have clean := h.clean ⟨k, n⟩ fun hmem => hk _ hmem rfl
      rwa [Topology.port?_of_get? (e := ⟨k, n⟩) hd', Topology.port?_of_get? (e := ⟨k, n⟩) hd] at clean
    rw [hd, heq, interfaces]

/-- The connected routes of an interface that is not dirty stay as its state dictates. -/
theorem connects (h : Refreshes r r') {d d' : Device} (hd : r.topology.devices.get? k = some d)
    (hd' : r'.topology.devices.get? k = some d') {name : String}
    (hclean : (⟨k, name⟩ : LinkEnd) ∉ r'.dirty) (hc : d.Connects name) : d'.Connects name := by
  obtain ⟨d0, hd0, heq, -⟩ := Topology.get?_of_outline h.outline hd'
  rw [hd] at hd0
  cases hd0
  have clean := h.clean ⟨k, name⟩ hclean
  rw [Topology.port?_of_get? (e := ⟨k, name⟩) hd', Topology.port?_of_get? (e := ⟨k, name⟩) hd] at clean
  have routes : d'.routes = d.routes := by rw [heq]
  have same : d'.connectedAt name = d.connectedAt name := by
    unfold Device.connectedAt
    rw [show d'.interfaces.get? name = d.interfaces.get? name from clean]
  intro s
  rw [routes, same]
  exact hc s

end Refreshes

namespace Topology

variable {t : Topology}

/-! ## Several devices -/

/-- What looking at the interfaces of several devices does. -/
structure AllDictate (ks : List String) (r r' : Refresh) : Prop where
  refreshes : Refreshes r r'
  links : r'.topology.links = r.topology.links
  others : ∀ k, k ∉ ks → r'.topology.devices.get? k = r.topology.devices.get? k
  physical : ∀ e, kindOf e.port = .physical → r'.topology.works e = r.topology.works e
  obeys : ∀ k d, r'.topology.devices.get? k = some d → k ∈ ks → d.Obeys

theorem refreshLogical_all {ks : List String} {r : Refresh}
    (h : ∀ k d, r.topology.devices.get? k = some d → InterfaceTable d.interfaces) :
    Yields (AllDictate ks r) (ks.foldlM refreshLogical r) := by
  induction ks generalizing r with
  | nil => exact ⟨Refreshes.refl r, rfl, fun _ _ => rfl, fun _ _ => rfl, fun _ _ _ hk => by cases hk⟩
  | cons k ks ih =>
    rw [List.foldlM_cons]
    refine (refreshLogical_dictates fun d hd => h k d hd).bind fun r' hr' => ?_
    have h' : ∀ n d, r'.topology.devices.get? n = some d → InterfaceTable d.interfaces := by
      intro n d' hd'
      obtain ⟨d, hd, -, his⟩ := get?_of_outline hr'.refreshes.outline hd'
      exact table_of_outline (h n d hd) his
    refine (ih h').imp fun r'' hr'' => ?_
    refine ⟨hr'.refreshes.trans hr''.refreshes, hr''.links.trans hr'.links, ?_, ?_, ?_⟩
    · intro n hn
      rw [List.mem_cons, not_or] at hn
      rw [hr''.others n hn.2, hr'.others n hn.1]
    · intro e he
      rw [hr''.physical e he, hr'.physical e he]
    · intro n d hd hn
      by_cases hks : n ∈ ks
      · exact hr''.obeys n d hd hks
      · -- Only the first device was looked at, and nothing has changed on it since.
        have hnk : n = k := (List.mem_cons.1 hn).resolve_right hks
        rw [hr''.others n hks] at hd
        subst hnk
        exact hr'.obeys d hd

/-! ## Settled topologies -/

/-- Ports, links, interfaces and connected routes are as the configuration dictates. -/
structure Settled (t : Topology) : Prop where
  ports : ∀ e, t.HasPort e → t.PortSettled e
  obeys : ∀ k d, t.devices.get? k = some d → d.Obeys
  connects : ∀ k d, t.devices.get? k = some d → ∀ name, d.Connects name

/-- All is as the configuration dictates, except perhaps what depends on the given ports and devices. -/
structure SettledBut (t : Topology) (es : List LinkEnd) (ks : List String) : Prop where
  ports : ∀ e, t.HasPort e →
    t.PortSettled e ∨ ∃ p ∈ es, t.HasPort (parentEnd p) ∧ t.Reaches (parentEnd p) e
  obeys : ∀ k d, t.devices.get? k = some d → d.Obeys ∨ k ∈ ks ∨ ∃ p ∈ es, p.device = k
  connects : ∀ k d, t.devices.get? k = some d → ∀ name, d.Connects name ∨ (⟨k, name⟩ : LinkEnd) ∈ es

/-- An interface of a settled device that works is switched on. -/
theorem Settled.adminUp (hs : t.Settled) (h : t.Sound) {e : LinkEnd} {i : Interface}
    (hi : t.port? e = some i) (hup : i.operUp = true) : i.adminUp = true := by
  obtain ⟨d, hd, hget⟩ := device_of_port? hi
  have hname : i.name = e.port := (h.table hd).name_eq hget
  have hobeys := hs.obeys _ d hd _ i hget
  rw [hup] at hobeys
  unfold Device.dictated at hobeys
  rw [hname] at hobeys
  cases hk : kindOf e.port with
  | physical =>
    have hport : t.HasPort e := ⟨by rw [hi]; rfl, hk⟩
    obtain ⟨hworks, hlink⟩ := hs.ports e hport
    have works : t.works e = true := by
      unfold works
      rw [hi]
      exact hup
    rw [works] at hworks
    cases hl : t.linkAt e with
    | none =>
      rw [hl] at hworks
      cases hworks
    | some l =>
      rw [hl] at hworks
      have both := (hlink l hl).symm.trans hworks.symm
      rw [Bool.and_eq_true_iff] at both
      have on : t.isOn e = true := by
        obtain ⟨-, he⟩ := h.linkAt_iff.1 hl
        rcases (by simpa [Link.ends] using he : e = l.a ∨ e = l.b) with rfl | rfl
        · exact both.1
        · exact both.2
      unfold isOn at on
      rw [hi] at on
      exact on
  | loopback =>
    rw [hk] at hobeys
    exact hobeys.symm
  | subinterface =>
    rw [hk] at hobeys
    exact (Bool.and_eq_true_iff.1 hobeys.symm).1
  | svi =>
    rw [hk] at hobeys
    exact (Bool.and_eq_true_iff.1 (Bool.and_eq_true_iff.1 hobeys.symm).1).1
  | portChannel =>
    rw [hk] at hobeys
    exact (Bool.and_eq_true_iff.1 hobeys.symm).1

/-- A settled topology is consistent. -/
theorem Settled.verify (hs : t.Settled) (h : t.Sound) : t.verify = .ok () := by
  have checkEnds : ∀ (ls : List Link) (seen : List LinkEnd), (∀ l ∈ ls, l ∈ t.links) →
      (seen ++ ls.flatMap Link.ends).Nodup → ∃ seen', ls.foldlM t.checkLink seen = .ok seen' := by
    intro ls
    induction ls with
    | nil => exact fun seen _ _ => ⟨seen, rfl⟩
    | cons l ls ih =>
      intro seen hls nodup
      have hl := hls l (by simp)
      have known (e : LinkEnd) (he : e ∈ l.ends) :
          ((t.devices.get? e.device).any fun d => d.interfaces.contains e.port) = true := by
        obtain ⟨i, hi⟩ := h.end_port hl he
        obtain ⟨d, hd, hget⟩ := device_of_port? hi
        rw [hd]
        exact Table.contains_of_get? hget
      have up : l.up = (t.isOn l.a && t.isOn l.b) := by
        have hat := h.linkAt_iff.2 ⟨hl, (by simp [Link.ends] : l.a ∈ l.ends)⟩
        exact (hs.ports l.a (h.ends l hl _ (by simp [Link.ends]))).link l hat
      have fresh : l.a ∉ seen ∧ l.b ∉ l.a :: seen := by
        simp only [Link.ends, List.flatMap_cons, List.nodup_append] at nodup
        obtain ⟨-, ⟨hab, -, -⟩, hdisj⟩ := nodup
        have hne : l.a ≠ l.b := h.ends_ne hl
        refine ⟨fun hmem => hdisj _ hmem l.a (by simp) rfl, ?_⟩
        rw [List.mem_cons, not_or]
        exact ⟨fun heq => hne heq.symm, fun hmem => hdisj _ hmem l.b (by simp) rfl⟩
      have here : t.checkLink seen l = .ok (l.b :: l.a :: seen) := by
        unfold checkLink checkEnd
        simp only [Link.ends, List.foldlM_cons, List.foldlM_nil, known l.a (by simp [Link.ends]),
          known l.b (by simp [Link.ends]), Bool.not_true, Bool.false_eq_true, if_false, if_neg fresh.1,
          if_neg fresh.2, ok_bind, pure_eq_ok, h.bothEndsOn_eq hl, ← up, if_true]
      obtain ⟨seen', hseen'⟩ := ih (l.b :: l.a :: seen) (fun m hm => hls m (by simp [hm])) (by
        refine nodup.perm ?_
        simp only [Link.ends, List.flatMap_cons, List.cons_append, List.nil_append]
        exact (List.perm_middle.trans (List.Perm.cons _ List.perm_middle)).trans (List.Perm.swap _ _ _))
      exact ⟨seen', by rw [List.foldlM_cons, here, ok_bind, hseen']⟩
  obtain ⟨seen, hseen⟩ := checkEnds t.links [] (fun _ hl => hl) h.apart
  unfold Topology.verify
  rw [hseen, ok_bind]
  refine forM_ok fun d hd => forM_ok fun i hi => ?_
  obtain ⟨k, hk⟩ := Table.mem_values.1 hd
  obtain ⟨n, hn⟩ := Table.mem_values.1 hi
  unfold checkInterface
  cases hup : i.operUp with
  | false => rfl
  | true => rw [hs.adminUp h ((port?_of_get? (e := ⟨k, n⟩) hk).trans hn) hup]; rfl

end Topology

end NetRack
