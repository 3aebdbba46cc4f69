import NetRack.Proofs.Propagation.Outcome
import Mathlib.Data.List.DropRight

/-!
# Adding and removing devices and cables

Every change of devices and cables keeps a topology sound and settled, and OSPF is up to date after
each of them except that a device is added without OSPF being looked at.  The devices that stay keep
all that is not derived.
-/

namespace NetRack

open InterfaceName (kindOf parentOf)

/-! ## Keys -/

theorem trim_trim (s : String) : Text.trim (Text.trim s) = Text.trim s := by
  have chars : Text.trimChars (Text.trimChars s.toList) = Text.trimChars s.toList := by
    unfold Text.trimChars Text.trimEndChars
    show List.rdropWhile _ (List.dropWhile _ (List.rdropWhile _ (List.dropWhile _ s.toList))) =
      List.rdropWhile _ (List.dropWhile _ s.toList)
    generalize hl : s.toList.dropWhile Text.isBlank = l
    have head : l.dropWhile Text.isBlank = l := by rw [← hl, List.dropWhile_idempotent]
    have kept : (l.rdropWhile Text.isBlank).dropWhile Text.isBlank = l.rdropWhile Text.isBlank := by
      rw [List.dropWhile_eq_self_iff] at head ⊢
      intro hlen
      have hpre : l.rdropWhile Text.isBlank <+: l := List.rdropWhile_prefix _ l
      have hlong : 0 < l.length := lt_of_lt_of_le hlen hpre.length_le
      rw [hpre.getElem hlen]
      exact head hlong
    rw [kept, List.rdropWhile_idempotent]
  unfold Text.trim
  rw [String.toList_ofList, chars]

/-- Something was looked for that is not there, or a link to it was found at last. -/
def Fault.Dangling (f : Fault) : Prop := (∃ key, f = .noEntry key) ∨ ∃ cause, f = .inconsistent cause

namespace Topology

variable {t u : Topology}

/-- The devices that are there now were there before, with all that is not derived. -/
def KeepsDevices (t u : Topology) : Prop :=
  ∀ k d', u.devices.get? k = some d' → ∃ d, t.devices.get? k = some d ∧ d'.frame = d.frame

/-- What a change of devices or cables comes to. -/
structure Edited (t u : Topology) : Prop where
  sound : u.Sound
  settled : u.Settled
  current : u.Current
  kept : t.KeepsDevices u

/-! ## Less devices and links -/

/-- A topology has less devices and links than another, but all devices that its links need. -/
structure Less (u t : Topology) : Prop where
  devices : ∀ k d, u.devices.get? k = some d → t.devices.get? k = some d
  links : u.links.Sublist t.links
  ends : ∀ l ∈ u.links, ∀ e ∈ l.ends, e.device ∈ u.devices.keys
  next : u.nextLinkId = t.nextLinkId

namespace Less

variable (w : Less u t)

include w

theorem port? {e : LinkEnd} (he : e.device ∈ u.devices.keys) : u.port? e = t.port? e := by
  obtain ⟨d, hmem⟩ := Table.mem_keys.1 he
  have hd := Table.get?_eq_some.2 hmem
  rw [port?_of_get? hd, port?_of_get? (w.devices _ d hd)]

theorem hasPort {e : LinkEnd} (he : e.device ∈ u.devices.keys) : u.HasPort e ↔ t.HasPort e := by
  unfold HasPort
  rw [w.port? he]

theorem sound (h : t.Sound) : u.Sound where
  ends := fun l hl e he => (w.hasPort (w.ends l hl e he)).2 (h.ends l (w.links.subset hl) e he)
  apart := by
    obtain ⟨each, pairwise⟩ := List.nodup_flatMap.1 h.apart
    exact List.nodup_flatMap.2 ⟨fun l hl => each l (w.links.subset hl), pairwise.sublist w.links⟩
  devices := fun k d hd => h.devices k d (w.devices k d hd)
  identified := fun k d hd => h.identified k d (w.devices k d hd)
  trimmed := by
    intro k hk
    obtain ⟨d, hmem⟩ := Table.mem_keys.1 hk
    exact h.trimmed k (Table.mem_keys_of_get? (w.devices k d (Table.get?_eq_some.2 hmem)))
  numbered := by
    intro l hl
    rw [w.next]
    exact h.numbered l (w.links.subset hl)
  ids := (w.links.map _).nodup h.ids
  positive := by
    rw [w.next]
    exact h.positive

/-- Only the ports at links that are gone need to be looked at. -/
theorem settledBut (h : t.Sound) (hs : t.Settled) {es : List LinkEnd}
    (gone : ∀ l ∈ t.links, l ∉ u.links → ∀ e ∈ l.ends, e.device ∈ u.devices.keys → e ∈ es) :
    u.SettledBut es [] where
  ports := by
    intro e he
    have hk := he.device_mem
    obtain ⟨hport, hlink⟩ := hs.ports e ((w.hasPort hk).1 he)
    have works : u.works e = t.works e := by
      unfold works
      rw [w.port? hk]
    have same (hat : u.linkAt e = t.linkAt e) : u.PortSettled e := by
      refine ⟨by rw [works, hat, hport], fun l hl => ?_⟩
      have hmem := ((w.sound h).linkAt_iff.1 hl).1
      have on (x : LinkEnd) (hx : x ∈ l.ends) : u.isOn x = t.isOn x := by
        unfold isOn
        rw [w.port? (w.ends l hmem x hx)]
      rw [on l.a (by simp [Link.ends]), on l.b (by simp [Link.ends])]
      exact hlink l (hat ▸ hl)
    cases hl : t.linkAt e with
    | none =>
      refine Or.inl (same ?_)
      rw [hl]
      cases hm : u.linkAt e with
      | none => rfl
      | some m =>
        obtain ⟨hmem, hem⟩ := (w.sound h).linkAt_iff.1 hm
        rw [h.linkAt_iff.2 ⟨w.links.subset hmem, hem⟩] at hl
        cases hl
    | some l =>
      obtain ⟨hmem, hel⟩ := h.linkAt_iff.1 hl
      by_cases hlu : l ∈ u.links
      · exact Or.inl (same (((w.sound h).linkAt_iff.2 ⟨hlu, hel⟩).trans hl.symm))
      · have hself : parentEnd e = e := by
          unfold parentEnd
          rw [InterfaceName.parentOf_eq_self (by rw [he.2]; decide)]
        exact Or.inr ⟨e, gone l hmem hlu e hel hk, by rw [hself]; exact he, by rw [hself]; exact Or.inl rfl⟩
  obeys := fun k d hd => Or.inl (hs.obeys k d (w.devices k d hd))
  connects := fun k d hd name => Or.inl (hs.connects k d (w.devices k d hd) name)

end Less

/-! ## What propagation of an edit comes to -/

theorem Sound.split_ok (h : t.Sound) {e : LinkEnd} (he : t.HasPort e) :
    ∃ p, InterfaceName.split e.port = .ok p := by
  obtain ⟨i, hi⟩ := Option.isSome_iff_exists.1 he.1
  obtain ⟨d, hd, hget⟩ := device_of_port? hi
  exact ⟨_, InterfaceName.split_of_readable ((h.table hd).readable_of_get? hget)⟩

theorem KeepsDevices.of_frame {v : Topology} (h : t.KeepsDevices u) (hf : v.frame = u.frame) :
    t.KeepsDevices v := by
  intro k d'' hd''
  obtain ⟨d', hd', heq'⟩ := device_of_frame hf hd''
  obtain ⟨d, hd, heq⟩ := h k d' hd'
  exact ⟨d, hd, heq'.trans heq⟩

/-- A change of ports that exist, carried on. -/
theorem edited_of_propagated {es : List LinkEnd} {routing : Bool} {r : Refresh}
    (hr : Propagated u es routing r) (hk : t.KeepsDevices u)
    (hc : routing = true ∨ ∃ e ∈ es, e.device ∈ u.devices.keys) : t.Edited r.topology where
  sound := hr.sound
  settled := hr.settled
  current := by
    refine hr.current ?_
    rcases hc with hrouting | ⟨e, he, hdev⟩
    · exact Or.inr hrouting
    · exact Or.inl (List.ne_nil_of_mem (hr.marks e he hdev))
  kept := hk.of_frame hr.frame

/-! ## Ports by name -/

theorem physicalPort_meets {device port : String} (h : t.Sound) :
    Meets (fun _ => True) (fun name => device ∈ t.devices.keys → t.HasPort ⟨device, name⟩)
      (t.physicalPort device port) := by
  unfold physicalPort
  cases hd : t.device device with
  | error f => trivial
  | ok d =>
    simp only [ok_bind]
    split
    · rename_i hcontains
      cases hk : InterfaceName.kind ((InterfaceName.normalize? port).getD port) with
      | error f => trivial
      | ok k =>
        simp only [ok_bind]
        split
        · rename_i hphys
          intro hmem
          have hget : t.devices.get? device = some d := by
            have found := device_eq_ok.1 hd
            unfold deviceKey at found
            rwa [h.trimmed device hmem] at found
          refine ⟨?_, ?_⟩
          · rw [port?_of_get? (e := ⟨device, _⟩) hget, ← Table.contains_eq_isSome]
            exact hcontains
          · rw [← hphys]
            exact InterfaceName.kindOf_eq hk
        · trivial
    · trivial

/-! ## Disconnecting and removing -/

/-- A port that is connected can be disconnected: its link is gone, and all else is as it was but for what
is derived. -/
theorem disconnect_yields (h : t.Sound) (hs : t.Settled) {device port name : String} {l : Link}
    (hname : t.physicalPort device port = .ok name) (hl : t.linkAt ⟨device, name⟩ = some l) :
    Yields (fun u => t.Edited u ∧ u.frame = { t with links := t.links.erase l }.frame)
      (t.disconnect device port) := by
  unfold disconnect
  rw [hname, ok_bind]
  simp only [hl]
  obtain ⟨hmem, -⟩ := h.linkAt_iff.1 hl
  have less : Less { t with links := t.links.erase l } t := by
    refine ⟨fun _ _ hd => hd, List.erase_sublist, fun m hm e he => ?_, rfl⟩
    exact (h.ends m (List.mem_of_mem_erase hm) e he).device_mem
  have gone : ∀ m ∈ t.links, m ∉ t.links.erase l → ∀ e ∈ m.ends, e.device ∈ t.devices.keys → e ∈ l.ends := by
    intro m hm hnot e he _
    by_cases heq : m = l
    · exact heq ▸ he
    · exact absurd ((List.mem_erase_of_ne heq).2 hm) hnot
  have hports : ∀ e ∈ l.ends, t.HasPort e := fun e he => h.ends l hmem e he
  have outcome := propagatePorts_yields (less.sound h) (less.settledBut h hs gone)
    (fun e he => h.split_ok (hports e he)) false
  refine outcome.bind fun r hr => ⟨edited_of_propagated hr (fun k d hd => ⟨d, hd, rfl⟩) ?_, hr.frame⟩
  exact Or.inr ⟨l.a, by simp [Link.ends], (hports l.a (by simp [Link.ends])).device_mem⟩

/-- Disconnecting leaves a settled topology. -/
theorem disconnect_meets (h : t.Sound) (hs : t.Settled) (device port : String) :
    Meets (fun _ => True) (t.Edited ·) (t.disconnect device port) := by
  cases hname : t.physicalPort device port with
  | error f =>
    unfold disconnect
    rw [hname]
    trivial
  | ok name =>
    cases hl : t.linkAt ⟨device, name⟩ with
    | none =>
      unfold disconnect
      rw [hname, ok_bind]
      simp only [hl]
      trivial
    | some l => exact (disconnect_yields h hs hname hl).anyway.imp fun u hu => hu.1

/-- A device can be removed by its id. -/
theorem removeDevice_yields (h : t.Sound) (hs : t.Settled) {id : String} (known : id ∈ t.devices.keys) :
    Yields (t.Edited ·) (t.removeDevice id) := by
  obtain ⟨d, hmem⟩ := Table.mem_keys.1 known
  have found : t.device id = .ok d := by
    rw [device_eq_ok, deviceKey, h.trimmed id known]
    exact Table.get?_eq_some.2 hmem
  have there : (!t.devices.contains id) = false := by rw [Table.contains_iff.2 known]; rfl
  unfold removeDevice
  simp only [found, there, ok_bind, List.partition_eq_filter_filter, Bool.false_eq_true, if_false, pure_eq_ok]
  generalize hpeers : ((t.links.filter (·.touchesDevice id)).flatMap (·.ends)).filter
    (·.device ≠ id) = peers
  generalize hu : ({ t with devices := t.devices.erase id,
                             links := t.links.filter (not ∘ (·.touchesDevice id)) } : Topology) = u
  have devices : ∀ k d, u.devices.get? k = some d → t.devices.get? k = some d := by
    intro k d hd
    rw [← hu, Table.get?_erase] at hd
    split at hd
    · cases hd
    · exact hd
  have keys : ∀ k ∈ t.devices.keys, k ≠ id → k ∈ u.devices.keys := by
    intro k hk hne
    rw [← hu]
    exact Table.mem_keys_erase.2 ⟨hk, hne⟩
  have untouched : ∀ l : Link, l.touchesDevice id = false → ∀ e ∈ l.ends, e.device ≠ id := by
    intro l hl e he
    simp only [Link.touchesDevice, Bool.or_eq_false_iff, decide_eq_false_iff_not] at hl
    rcases (by simpa [Link.ends] using he : e = l.a ∨ e = l.b) with rfl | rfl
    · exact hl.1
    · exact hl.2
  have less : Less u t := by
    refine ⟨devices, by rw [← hu]; exact List.filter_sublist, fun l hl e he => ?_, by rw [← hu]⟩
    rw [← hu] at hl
    obtain ⟨hmem, hnot⟩ := List.mem_filter.1 hl
    exact keys _ (h.ends l hmem e he).device_mem (untouched l (by simpa using hnot) e he)
  have gone : ∀ l ∈ t.links, l ∉ u.links → ∀ e ∈ l.ends, e.device ∈ u.devices.keys → e ∈ peers := by
    intro l hl hnot e he hk
    have htouch : l.touchesDevice id = true := by
      by_contra hc
      refine hnot ?_
      rw [← hu]
      exact List.mem_filter.2 ⟨hl, by simpa using hc⟩
    rw [← hpeers]
    refine List.mem_filter.2 ⟨List.mem_flatMap.2 ⟨l, List.mem_filter.2 ⟨hl, htouch⟩, he⟩, ?_⟩
    rw [← hu] at hk
    simpa using (Table.mem_keys_erase.1 hk).2
  have readable : ∀ e ∈ peers, ∃ p, InterfaceName.split e.port = .ok p := by
    intro e he
    rw [← hpeers] at he
    obtain ⟨l, hl, hel⟩ := List.mem_flatMap.1 (List.mem_filter.1 he).1
    exact h.split_ok (h.ends l (List.mem_filter.1 hl).1 e hel)
  have outcome := propagatePorts_yields (less.sound h) (less.settledBut h hs gone) readable true
  refine outcome.bind fun r hr => edited_of_propagated hr ?_ (Or.inl rfl)
  exact fun k d hd => ⟨d, devices k d hd, rfl⟩

/-- Removing a device leaves a settled topology. -/
theorem removeDevice_meets (h : t.Sound) (hs : t.Settled) (id : String) :
    Meets (fun _ => True) (t.Edited ·) (t.removeDevice id) := by
  by_cases known : id ∈ t.devices.keys
  · exact (removeDevice_yields h hs known).anyway
  · unfold removeDevice
    cases t.device id with
    | error f => trivial
    | ok d =>
      have absent : (!t.devices.contains id) = true := by
        rw [Bool.not_eq_true', ← Bool.not_eq_true, Table.contains_iff]
        exact known
      simp only [ok_bind, absent, if_true]
      trivial

/-! ## Connecting -/

theorem interface_unknown {e : LinkEnd} (h : e.device ∉ t.devices.keys) :
    t.interface e = .error (.noEntry e.device) := by
  unfold interface entry
  rw [Table.get?_eq_none.2 h]
  rfl

theorem interface_meets (e : LinkEnd) :
    Meets (fun f => ∃ key, f = Fault.noEntry key) (fun _ => True) (t.interface e) := by
  unfold interface entry
  cases t.devices.get? e.device with
  | none => exact ⟨e.device, rfl⟩
  | some d =>
    show Meets _ _ (need e.port (d.interfaces.get? e.port))
    cases d.interfaces.get? e.port with
    | none => exact ⟨e.port, rfl⟩
    | some i => trivial

/-- A link to a device that is not there cannot be looked at. -/
theorem refreshPhysical_broken {r : Refresh} {e x : LinkEnd} {l : Link} (hl : r.topology.linkAt e = some l)
    (hx : x ∈ l.ends) (unknown : x.device ∉ r.topology.devices.keys) :
    ∃ key, refreshPhysical r e = .error (.noEntry key) := by
  unfold refreshPhysical bothEndsOn
  simp only [hl]
  rcases (by simpa [Link.ends] using hx : x = l.a ∨ x = l.b) with rfl | rfl
  · rw [interface_unknown unknown]
    exact ⟨_, rfl⟩
  · rw [interface_unknown unknown]
    cases hi : r.topology.interface l.a with
    | error f =>
      obtain ⟨key, rfl⟩ := (interface_meets l.a).cause hi
      exact ⟨key, rfl⟩
    | ok i => cases hon : i.adminUp <;> exact ⟨_, by simp [hon]; rfl⟩

theorem refreshPort_broken {r : Refresh} {e x : LinkEnd} {l : Link} (he : r.topology.HasPort e)
    (readable : ∃ p, InterfaceName.split e.port = .ok p) (hl : r.topology.linkAt e = some l)
    (hx : x ∈ l.ends) (unknown : x.device ∉ r.topology.devices.keys) :
    ∃ key, refreshPort r e = .error (.noEntry key) := by
  obtain ⟨i, hi⟩ := Option.isSome_iff_exists.1 he.1
  obtain ⟨d, hd, hget⟩ := device_of_port? hi
  obtain ⟨p, hp⟩ := readable
  have hself : parentOf e.port = e.port := InterfaceName.parentOf_eq_self (by rw [he.2]; decide)
  have hsplit := (InterfaceName.split_meets e.port).value hp
  rw [hself] at hsplit
  have hkind := InterfaceName.kind_parentOf e.port
  rw [hself, he.2] at hkind
  unfold refreshPort
  simp only [hd, hp, hsplit, ok_bind, Table.contains_of_get? hget, hkind, if_true]
  have broken := refreshPhysical_broken (r := r.mark e) (e := e) (x := x) (l := l)
  rw [Refresh.topology_mark] at broken
  obtain ⟨key, hf⟩ := broken hl hx unknown
  exact ⟨key, by rw [hf]⟩

/-- A topology that is checked has nothing to look for that is not there, or is inconsistent. -/
theorem checkLink_meets (seen : List LinkEnd) (l : Link) :
    Meets Fault.Dangling (fun _ => True) (t.checkLink seen l) := by
  have looked (e : LinkEnd) : Meets Fault.Dangling (fun _ => True) (t.interface e) :=
    (interface_meets e).mono (fun _ => Or.inl) fun _ => id
  unfold checkLink
  refine Meets.bind (P := fun _ => True) (Meets.foldlM trivial fun seen e _ _ => ?_) fun seen _ => ?_
  · unfold checkEnd
    exact .ite (fun _ => Or.inr ⟨_, rfl⟩) fun _ => .ite (fun _ => Or.inr ⟨_, rfl⟩) fun _ => trivial
  · refine Meets.bind (P := fun _ => True) ?_ fun on _ => .ite (fun _ => trivial) fun _ => Or.inr ⟨_, rfl⟩
    unfold bothEndsOn
    exact (looked l.a).bind fun i _ => .ite (fun _ => (looked l.b).bind fun _ _ => trivial) fun _ => trivial

theorem verify_broken {ls : List Link} {l : Link} {x : LinkEnd} (hlinks : t.links = ls ++ [l])
    (hx : x ∈ l.ends) (unknown : x.device ∉ t.devices.keys) : ∃ f, t.verify = .error f ∧ f.Dangling := by
  have check (seen : List LinkEnd) : ∃ f, t.checkLink seen l = .error f ∧ f.Dangling := by
    have missing (seen : List LinkEnd) :
        t.checkEnd l.id seen x = .error (.inconsistent (.unknownEnd l.id x.device x.port)) := by
      unfold checkEnd
      rw [Table.get?_eq_none.2 unknown]
      rfl
    cases hc : t.checkLink seen l with
    | error f => exact ⟨f, rfl, (checkLink_meets seen l).cause hc⟩
    | ok seen' =>
      obtain ⟨checked, hall, -⟩ := bind_eq_ok.1 hc
      rcases (by simpa [Link.ends] using hx : x = l.a ∨ x = l.b) with rfl | rfl
      · simp only [Link.ends, List.foldlM_cons, missing, error_bind] at hall
        cases hall
      · obtain ⟨seen₁, -, hb⟩ := bind_eq_ok.1 hall
        simp only [List.foldlM_cons, missing, error_bind] at hb
        cases hb
  unfold Topology.verify
  rw [hlinks, List.foldlM_append]
  cases hls : ls.foldlM t.checkLink [] with
  | error f =>
    have checked : Meets Fault.Dangling (fun _ => True) (ls.foldlM t.checkLink []) :=
      Meets.foldlM trivial fun seen l _ _ => checkLink_meets seen l
    exact ⟨f, rfl, checked.cause hls⟩
  | ok seen =>
    obtain ⟨f, hf, dangling⟩ := check seen
    exact ⟨f, by rw [ok_bind, List.foldlM_cons, hf]; rfl, dangling⟩

section NewLink

variable {a b : LinkEnd}

/-- The topology with a new link. -/
def plug (t : Topology) (a b : LinkEnd) : Topology :=
  { t with
    links := t.links ++ [{ id := "L" ++ Text.intText t.nextLinkId, a, b }]
    nextLinkId := t.nextLinkId + 1 }

theorem linkAt_plug {e : LinkEnd} (free : t.linkAt e = none) :
    (t.plug a b).linkAt e =
      if e = a ∨ e = b then some { id := "L" ++ Text.intText t.nextLinkId, a, b } else none := by
  unfold linkAt at free ⊢
  unfold plug
  rw [List.find?_append, free, Option.none_or, List.find?_cons, List.find?_nil]
  have touches : Link.touches { id := "L" ++ Text.intText t.nextLinkId, a, b } e =
      decide (e = a ∨ e = b) := by
    simp [Link.touches, eq_comm]
  rw [touches]
  by_cases h : e = a ∨ e = b
  · simp [h]
  · simp [h]

theorem linkAt_plug_of_ne {e : LinkEnd} (ha : e ≠ a) (hb : e ≠ b) : (t.plug a b).linkAt e = t.linkAt e := by
  cases hl : t.linkAt e with
  | none => rw [linkAt_plug hl, if_neg (by simp [ha, hb])]
  | some l =>
    unfold linkAt at hl ⊢
    unfold plug
    rw [List.find?_append, hl]
    rfl

theorem plug_sound (h : t.Sound) (ha : t.HasPort a) (hb : t.HasPort b) (hne : a ≠ b)
    (fa : t.linkAt a = none) (fb : t.linkAt b = none) : (t.plug a b).Sound where
  ends := by
    intro l hl e he
    rcases List.mem_append.1 hl with hl | hl
    · exact h.ends l hl e he
    · rw [List.mem_singleton.1 hl] at he
      rcases (by simpa [Link.ends] using he : e = a ∨ e = b) with rfl | rfl
      · exact ha
      · exact hb
  apart := by
    have fresh (e : LinkEnd) (he : t.linkAt e = none) : e ∉ t.links.flatMap Link.ends := by
      intro hmem
      obtain ⟨l, hl, hel⟩ := List.mem_flatMap.1 hmem
      rw [h.linkAt_iff.2 ⟨hl, hel⟩] at he
      cases he
    unfold plug
    rw [List.flatMap_append, List.nodup_append]
    refine ⟨h.apart, by simpa [Link.ends] using hne, fun x hx y hy heq => ?_⟩
    rcases (by simpa [Link.ends] using hy : y = a ∨ y = b) with rfl | rfl
    · exact fresh _ fa (heq ▸ hx)
    · exact fresh _ fb (heq ▸ hx)
  devices := h.devices
  identified := h.identified
  trimmed := h.trimmed
  numbered := by
    intro l hl
    have hpos := h.positive
    unfold plug
    rcases List.mem_append.1 hl with hl | hl
    · obtain ⟨n, hlow, hhigh, hid⟩ := h.numbered l hl
      exact ⟨n, hlow, by dsimp only; omega, hid⟩
    · rw [List.mem_singleton.1 hl]
      exact ⟨t.nextLinkId, hpos, by dsimp only; omega, rfl⟩
  ids := by
    have hpos := h.positive
    unfold plug
    rw [List.map_append, List.nodup_append]
    refine ⟨h.ids, by simp, fun x hx y hy heq => ?_⟩
    obtain ⟨l, hl, rfl⟩ := List.mem_map.1 hx
    obtain ⟨n, hlow, hhigh, hid⟩ := h.numbered l hl
    have hy' : y = "L" ++ Text.intText t.nextLinkId := by simpa using hy
    rw [hid, hy'] at heq
    have htext : Text.intText n = Text.intText t.nextLinkId := by
      have := congrArg String.toList heq
      rw [String.toList_append, String.toList_append] at this
      exact String.toList_inj.1 (List.append_cancel_left this)
    have := Text.intText_injective htext
    omega
  positive := by
    have hpos := h.positive
    unfold plug
    dsimp only
    omega

theorem plug_settledBut (hs : t.Settled) : (t.plug a b).SettledBut [a, b] [] where
  ports := by
    intro e he
    by_cases hab : e = a ∨ e = b
    · have hself : parentEnd e = e := by
        unfold parentEnd
        rw [InterfaceName.parentOf_eq_self (by rw [he.2]; decide)]
      exact Or.inr ⟨e, by simpa using hab, by rw [hself]; exact he, by rw [hself]; exact Or.inl rfl⟩
    · rw [not_or] at hab
      obtain ⟨hport, hlink⟩ := hs.ports e he
      refine Or.inl ⟨?_, fun l hl => ?_⟩
      · rw [linkAt_plug_of_ne hab.1 hab.2]
        exact hport
      · rw [linkAt_plug_of_ne hab.1 hab.2] at hl
        exact hlink l hl
  obeys := fun k d hd => Or.inl (hs.obeys k d hd)
  connects := fun k d hd name => Or.inl (hs.connects k d hd name)

/-- A link to a device that is not there is not carried on. -/
theorem plug_broken (h : t.Sound) (hne : a ≠ b) (fa : t.linkAt a = none) (fb : t.linkAt b = none)
    (ha : a.device ∈ t.devices.keys → t.HasPort a) (hb : b.device ∈ t.devices.keys → t.HasPort b)
    (unknown : a.device ∉ t.devices.keys ∨ b.device ∉ t.devices.keys) :
    ∃ f, (t.plug a b).propagatePorts [a, b] false [] = .error f ∧ f.Dangling := by
  obtain ⟨x, hx, hxu⟩ : ∃ x, (x = a ∨ x = b) ∧ x.device ∉ t.devices.keys := by
    rcases unknown with hu | hu
    · exact ⟨a, Or.inl rfl, hu⟩
    · exact ⟨b, Or.inr rfl, hu⟩
  have looked (es : List LinkEnd) (hes : ∀ e ∈ es, e = a ∨ e = b) :
      es.foldlM refreshPort ⟨t.plug a b, []⟩ = .ok ⟨t.plug a b, []⟩ ∨
        ∃ key, es.foldlM refreshPort ⟨t.plug a b, []⟩ = .error (.noEntry key) := by
    induction es with
    | nil => exact Or.inl rfl
    | cons e es ih =>
      rw [List.foldlM_cons]
      have he := hes e (by simp)
      by_cases hk : e.device ∈ t.devices.keys
      · have hport : t.HasPort e := by
          rcases he with rfl | rfl
          · exact ha hk
          · exact hb hk
        have free : t.linkAt e = none := by
          rcases he with rfl | rfl
          · exact fa
          · exact fb
        obtain ⟨key, hf⟩ := refreshPort_broken (r := ⟨t.plug a b, []⟩) (x := x) hport (h.split_ok hport)
          (by rw [linkAt_plug free, if_pos he]) (by simpa [Link.ends] using hx) hxu
        exact Or.inr ⟨key, by rw [hf]; rfl⟩
      · have unchanged : refreshPort ⟨t.plug a b, []⟩ e = .ok ⟨t.plug a b, []⟩ := by
          have absent : (t.plug a b).devices.get? e.device = none := Table.get?_eq_none.2 hk
          unfold refreshPort
          simp only [absent]
        rw [unchanged]
        exact ih fun e he => hes e (by simp [he])
  have hes : ∀ e ∈ sortEnds (distinct [a, b]), e = a ∨ e = b := by
    intro e he
    simpa using mem_distinct.1 (mem_sortEnds.1 he)
  unfold propagatePorts
  rcases looked _ hes with hok | ⟨key, hf⟩
  · -- Neither end is known, so nothing has been looked at and the inconsistency is found at last.
    obtain ⟨f, hf, dangling⟩ := verify_broken (t := t.plug a b) rfl (by simpa [Link.ends] using hx) hxu
    refine ⟨f, ?_, dangling⟩
    rw [hok, ok_bind]
    show (do
      (t.plug a b).verify
      return (⟨t.plug a b, []⟩ : Refresh)) = _
    rw [hf]
    rfl
  · exact ⟨.noEntry key, by rw [hf]; rfl, Or.inl ⟨key, rfl⟩⟩

/-- A link cannot be put between two ends: they are one, or one of them has a link already. -/
def Taken (t : Topology) (a b : LinkEnd) : Prop := a = b ∨ t.linkAt a ≠ none ∨ t.linkAt b ≠ none

/-- The topology with a link between two ends, if they are free. -/
def join (t : Topology) (a b : LinkEnd) : Except Fault Topology := do
  if a = b then .error (.edit .selfLink)
  t.checkFree a
  t.checkFree b
  return (← (t.plug a b).propagatePorts [a, b] false []).topology

/-- Ports are connected by name, where they are found. -/
theorem connect_eq (t : Topology) (deviceA portA deviceB portB : String) :
    t.connect deviceA portA deviceB portB = (do
      let nameA ← t.physicalPort deviceA portA
      let nameB ← t.physicalPort deviceB portB
      t.join ⟨deviceA, nameA⟩ ⟨deviceB, nameB⟩) := rfl

theorem join_taken (h : t.Taken a b) : ∃ cause, t.join a b = .error (.edit cause) := by
  unfold join checkFree
  by_cases hne : a = b
  · exact ⟨.selfLink, by rw [if_pos hne]; rfl⟩
  · rw [if_neg hne]
    cases ha : t.linkAt a with
    | some l => exact ⟨.alreadyConnected a.device a.port, rfl⟩
    | none =>
      cases hb : t.linkAt b with
      | some l => exact ⟨.alreadyConnected b.device b.port, rfl⟩
      | none => simp [Taken, hne, ha, hb] at h

theorem join_free (h : ¬t.Taken a b) :
    t.join a b = Refresh.topology <$> (t.plug a b).propagatePorts [a, b] false [] := by
  unfold Taken at h
  rw [not_or, not_or, not_not, not_not] at h
  obtain ⟨hne, fa, fb⟩ := h
  unfold join checkFree
  rw [if_neg hne, fa, fb]
  rfl

/-- Two ports that are there and free are joined. -/
theorem join_yields (h : t.Sound) (hs : t.Settled) (ha : t.HasPort a) (hb : t.HasPort b) (free : ¬t.Taken a b) :
    Yields (fun u => t.Edited u ∧ u.frame = (t.plug a b).frame) (t.join a b) := by
  rw [join_free free]
  unfold Taken at free
  rw [not_or, not_or, not_not, not_not] at free
  obtain ⟨hne, fa, fb⟩ := free
  have readable : ∀ e ∈ [a, b], ∃ p, InterfaceName.split e.port = .ok p := by
    intro e he
    rcases (by simpa using he : e = a ∨ e = b) with rfl | rfl
    · exact h.split_ok ha
    · exact h.split_ok hb
  have outcome := propagatePorts_yields (plug_sound h ha hb hne fa fb) (plug_settledBut hs) readable false
  refine (outcome.imp fun r hr => ⟨edited_of_propagated hr (fun k d hd => ⟨d, hd, rfl⟩) ?_, hr.frame⟩).map
  exact Or.inr ⟨a, by simp, ha.device_mem⟩

/-- Free ends are not joined if a device is not there. -/
theorem join_broken (h : t.Sound) (ha : a.device ∈ t.devices.keys → t.HasPort a)
    (hb : b.device ∈ t.devices.keys → t.HasPort b) (free : ¬t.Taken a b)
    (unknown : a.device ∉ t.devices.keys ∨ b.device ∉ t.devices.keys) :
    ∃ f, t.join a b = .error f ∧ f.Dangling := by
  rw [join_free free]
  unfold Taken at free
  rw [not_or, not_or, not_not, not_not] at free
  obtain ⟨hne, fa, fb⟩ := free
  obtain ⟨f, hf, dangling⟩ := plug_broken h hne fa fb ha hb unknown
  exact ⟨f, by rw [hf]; rfl, dangling⟩

/-- What connecting two ports comes to: they are free and cabled now, and all else is as it was but for what
is derived. -/
structure Plugs (t : Topology) (deviceA portA deviceB portB : String) (u : Topology) : Prop
    extends t.Edited u where
  plugged : ∃ nameA nameB, t.physicalPort deviceA portA = .ok nameA ∧ t.physicalPort deviceB portB = .ok nameB ∧
    u.frame = (t.plug ⟨deviceA, nameA⟩ ⟨deviceB, nameB⟩).frame

theorem connect_plugs (h : t.Sound) (hs : t.Settled) (deviceA portA deviceB portB : String) :
    Meets (fun _ => True) (t.Plugs deviceA portA deviceB portB ·) (t.connect deviceA portA deviceB portB) := by
  have named (device port : String) : Meets (fun _ => True) (fun name => t.physicalPort device port = .ok name ∧
      (device ∈ t.devices.keys → t.HasPort ⟨device, name⟩)) (t.physicalPort device port) := by
    have found : Meets _ _ (t.physicalPort device port) := physicalPort_meets h
    cases hname : t.physicalPort device port with
    | error f => trivial
    | ok name => exact ⟨rfl, found.value hname⟩
  rw [connect_eq]
  refine (named deviceA portA).bind fun nameA hA => (named deviceB portB).bind fun nameB hB => ?_
  by_cases taken : t.Taken ⟨deviceA, nameA⟩ ⟨deviceB, nameB⟩
  · obtain ⟨cause, hcause⟩ := join_taken taken
    rw [hcause]
    trivial
  · by_cases known : deviceA ∈ t.devices.keys ∧ deviceB ∈ t.devices.keys
    · refine (join_yields h hs (hA.2 known.1) (hB.2 known.2) taken).anyway.imp fun u hu => ⟨hu.1, ?_⟩
      exact ⟨nameA, nameB, hA.1, hB.1, hu.2⟩
    · obtain ⟨f, hf, -⟩ := join_broken h hA.2 hB.2 taken (by tauto)
      rw [hf]
      trivial

/-- Connecting leaves a settled topology. -/
theorem connect_meets (h : t.Sound) (hs : t.Settled) (deviceA portA deviceB portB : String) :
    Meets (fun _ => True) (t.Edited ·) (t.connect deviceA portA deviceB portB) :=
  (connect_plugs h hs deviceA portA deviceB portB).imp fun _ hu => hu.toEdited

end NewLink

/-! ## Adding a device -/

/-- The topology with another device. -/
def house (t : Topology) (key : String) (d : Device) : Topology :=
  { t with devices := t.devices.insert key d }

section NewDevice

variable {type : DeviceType} {hostname key : String}

theorem get?_house (t : Topology) (key : String) (d : Device) (k : String) :
    (t.house key d).devices.get? k = if k = key then some d else t.devices.get? k :=
  Table.get?_insert t.devices key k d

theorem port?_house {d : Device} {e : LinkEnd} (he : e.device ≠ key) :
    (t.house key d).port? e = t.port? e := by
  unfold port?
  rw [get?_house, if_neg he]

theorem house_sound (h : t.Sound) (fresh : key ∉ t.devices.keys) (trimmed : Text.trim key = key) :
    (t.house key (Device.factory type hostname key)).Sound where
  ends := by
    intro l hl e he
    have hport := h.ends l hl e he
    have hne : e.device ≠ key := fun heq => fresh (heq ▸ hport.device_mem)
    exact ⟨by rw [port?_house hne]; exact hport.1, hport.2⟩
  apart := h.apart
  devices := by
    intro k d hd
    rw [get?_house] at hd
    split at hd
    · cases hd
      exact factory_sound type hostname key
    · exact h.devices k d hd
  identified := by
    intro k d hd
    rw [get?_house] at hd
    split at hd
    · cases hd
      exact Eq.symm ‹_›
    · exact h.identified k d hd
  trimmed := by
    intro k hk
    rcases Table.mem_keys_insert.1 hk with hk | rfl
    · exact h.trimmed k hk
    · exact trimmed
  numbered := h.numbered
  ids := h.ids
  positive := h.positive

theorem factory_obeys : (Device.factory type hostname key).Obeys := by
  intro k i hi
  obtain ⟨hsound, -, hphys⟩ := factory_interface hi
  unfold Device.dictated
  rw [hsound.name, hphys]

theorem factory_connects (name : String) : (Device.factory type hostname key).Connects name := by
  have none_dictated : (Device.factory type hostname key).connectedAt name = none := by
    unfold Device.connectedAt
    cases hi : (Device.factory type hostname key).interfaces.get? name with
    | none => rfl
    | some i =>
      simp only [(factory_interface hi).2.1]
      rfl
  intro r
  rw [none_dictated]
  constructor
  · rintro ⟨hr, -⟩
    exact (List.not_mem_nil hr).elim
  · intro hr
    cases hr

theorem house_settled (h : t.Sound) (hs : t.Settled) (fresh : key ∉ t.devices.keys) :
    (t.house key (Device.factory type hostname key)).Settled where
  ports := by
    intro e he
    by_cases hk : e.device = key
    · have free : (t.house key (Device.factory type hostname key)).linkAt e = none := by
        cases hl : (t.house key (Device.factory type hostname key)).linkAt e with
        | none => rfl
        | some l =>
          obtain ⟨hmem, hel⟩ := h.linkAt_iff.1 (show t.linkAt e = some l from hl)
          exact absurd (hk ▸ (h.ends l hmem e hel).device_mem) fresh
      refine ⟨?_, fun l hl => by rw [free] at hl; cases hl⟩
      obtain ⟨i, hi⟩ := Option.isSome_iff_exists.1 he.1
      have hget : (t.house key (Device.factory type hostname key)).devices.get? e.device =
          some (Device.factory type hostname key) := by
        rw [get?_house, if_pos hk]
      have hdown := (factory_interface ((port?_of_get? hget).symm.trans hi)).2.1
      unfold works
      rw [hi, free, Option.any_some, hdown]
      rfl
    · have hport : t.HasPort e := ⟨by rw [← port?_house hk]; exact he.1, he.2⟩
      obtain ⟨hworks, hlink⟩ := hs.ports e hport
      refine ⟨?_, fun l hl => ?_⟩
      · unfold works
        rw [port?_house hk]
        exact hworks
      · have hmem := (h.linkAt_iff.1 (show t.linkAt e = some l from hl)).1
        have on (x : LinkEnd) (hx : x ∈ l.ends) :
            (t.house key (Device.factory type hostname key)).isOn x = t.isOn x := by
          unfold isOn
          have hne : x.device ≠ key := fun heq => fresh (heq ▸ (h.ends l hmem x hx).device_mem)
          rw [port?_house hne]
        rw [on l.a (by simp [Link.ends]), on l.b (by simp [Link.ends])]
        exact hlink l hl
  obeys := by
    intro k d hd
    rw [get?_house] at hd
    split at hd
    · cases hd
      exact factory_obeys
    · exact hs.obeys k d hd
  connects := by
    intro k d hd name
    rw [get?_house] at hd
    split at hd
    · cases hd
      exact factory_connects name
    · exact hs.connects k d hd name

/-- Adding a device leaves a settled topology. -/
theorem addDevice_meets (h : t.Sound) (hs : t.Settled) (id text : String) (hostname : Option String) :
    Meets (fun _ => True)
      (fun u => u.Sound ∧ u.Settled ∧ ∃ type name key, key ∉ t.devices.keys ∧
        u = t.house key (Device.factory type name key)) (t.addDevice id text hostname) := by
  unfold addDevice Device.create
  dsimp only
  split
  · trivial
  · rename_i hempty
    split
    · trivial
    · rename_i hknown
      have fresh : Text.trim id ∉ t.devices.keys := fun hmem => hknown (Table.contains_iff.2 hmem)
      cases Vocabulary.read? DeviceType text with
      | none => trivial
      | some type =>
        have hid : Text.trim ((Text.present? (some (Text.trim id))).getD
            ((Text.present? hostname).getD (Text.trim id))) = Text.trim id := by
          simp only [Text.present?, hempty]
          exact trim_trim id
        simp only [ok_bind, hid]
        generalize (Text.present? hostname).getD (Text.trim id) = name
        have hsound : (t.house (Text.trim id) (Device.factory type name (Text.trim id))).Sound :=
          house_sound h fresh (trim_trim id)
        have hsettled : (t.house (Text.trim id) (Device.factory type name (Text.trim id))).Settled :=
          house_settled h hs fresh
        have hverify := hsettled.verify hsound
        unfold house at hverify hsound hsettled
        rw [hverify, ok_bind]
        exact ⟨hsound, hsettled, type, _, _, fresh, rfl⟩

end NewDevice

end Topology

end NetRack
