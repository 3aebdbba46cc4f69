import NetRack.Console
import NetRack.Proofs.Command.Reports
import NetRack.Proofs.Edit
import NetRack.Proofs.Propagation.Unreadable

/-!
# Carrying on what a command did

A lab is in order if it is sound and settled and every console is where it can be.  If a command
reports in full, carrying on what it did succeeds and leaves the lab in order.  What is not derived
is as the command left it on its device, and as it was everywhere else.
-/

namespace NetRack

open InterfaceName (kindOf parentOf)

namespace Topology

variable {t u : Topology} {key : String} {d : Device} {o : Outcome}

/-- Everything is as the configuration dictates, and every console is where it can be. -/
structure Orderly (t : Topology) : Prop where
  sound : t.Sound
  settled : t.Settled
  seated : ∀ k d, t.devices.get? k = some d → d.Seated

/-! ## The topology before anything is carried on -/

/-- The topology with what a command made of its device. -/
def replaced (t : Topology) (key : String) (d : Device) : Topology := t.modifyDevice key fun _ => d

theorem replaced_replaced (t : Topology) (key : String) (d d' : Device) :
    (t.replaced key d).replaced key d' = t.replaced key d' := by
  unfold replaced modifyDevice
  dsimp only
  rw [Table.modify_modify]

theorem get?_replaced_self (hd : t.devices.get? key = some d) (d' : Device) :
    (t.replaced key d').devices.get? key = some d' := by
  unfold replaced
  rw [get?_modifyDevice, if_pos rfl, hd]
  rfl

theorem get?_replaced_of_ne {k : String} (hk : k ≠ key) (d' : Device) :
    (t.replaced key d').devices.get? k = t.devices.get? k := by
  unfold replaced
  rw [get?_modifyDevice, if_neg hk]

theorem device_of_replaced {k : String} {d₁ d' : Device}
    (hd₁ : (t.replaced key d').devices.get? k = some d₁) :
    (k = key ∧ d₁ = d') ∨ (k ≠ key ∧ t.devices.get? k = some d₁) := by
  by_cases hk : k = key
  · refine Or.inl ⟨hk, ?_⟩
    unfold replaced at hd₁
    rw [get?_modifyDevice, if_pos hk] at hd₁
    obtain ⟨d₀, -, heq⟩ := Option.map_eq_some_iff.1 hd₁
    exact heq.symm
  · rw [get?_replaced_of_ne hk] at hd₁
    exact Or.inr ⟨hk, hd₁⟩

theorem replaced_cabled (h : t.Cabled) (hd : t.devices.get? key = some d) {d' : Device}
    (kept : ∀ k ∈ d.interfaces.keys, k ∈ d'.interfaces.keys) : (t.replaced key d').Cabled where
  ends := by
    intro l hl e he
    obtain ⟨hsome, hkind⟩ := h.ends l hl e he
    refine ⟨?_, hkind⟩
    by_cases hk : e.device = key
    · subst hk
      rw [port?_of_get? hd, ← Table.contains_eq_isSome, Table.contains_iff] at hsome
      rw [port?_of_get? (get?_replaced_self hd _), ← Table.contains_eq_isSome, Table.contains_iff]
      exact kept _ hsome
    · unfold port? at hsome ⊢
      rwa [get?_replaced_of_ne hk]
  apart := h.apart

section Reported

variable (hd : t.devices.get? key = some d) (ho : Reports d o)

include hd ho

/-- A port that is not touched is wired as before. -/
theorem wiring_replaced {e : LinkEnd} (he : e.device = key → e.port ∉ o.touched) :
    ((t.replaced key o.device).port? e).map Interface.wiring = (t.port? e).map Interface.wiring := by
  by_cases hk : e.device = key
  · subst hk
    rw [port?_of_get? (get?_replaced_self hd _), port?_of_get? hd]
    exact ho.wiring e.port (he rfl)
  · unfold port?
    rw [get?_replaced_of_ne hk]

theorem state_replaced {e : LinkEnd} (he : e.device = key → e.port ∉ o.touched) :
    (t.replaced key o.device).isOn e = t.isOn e ∧ (t.replaced key o.device).works e = t.works e := by
  have same := wiring_replaced hd ho he
  have through (f : Interface → Bool) (hf : ∀ i, f i.wiring = f i) (x : Option Interface) :
      x.any f = (x.map Interface.wiring).any f := by
    cases x with
    | none => rfl
    | some i => exact (hf i).symm
  unfold isOn works
  rw [through _ (fun _ => rfl) ((t.replaced key o.device).port? e), through _ (fun _ => rfl) (t.port? e), same,
    through Interface.operUp (fun _ => rfl) ((t.replaced key o.device).port? e),
    through Interface.operUp (fun _ => rfl) (t.port? e), same]
  exact ⟨rfl, rfl⟩

theorem replaced_sound (h : t.Sound) : (t.replaced key o.device).Sound where
  toCabled := replaced_cabled h.toCabled hd ho.kept
  devices := by
    intro k d₁ hd₁
    rcases device_of_replaced hd₁ with ⟨-, rfl⟩ | ⟨-, hk⟩
    · exact ho.sound
    · exact h.devices k d₁ hk
  identified := by
    intro k d₁ hd₁
    rcases device_of_replaced hd₁ with ⟨rfl, rfl⟩ | ⟨-, hk⟩
    · rw [ho.id]
      exact h.identified _ d hd
    · exact h.identified k d₁ hk
  trimmed := by
    unfold replaced modifyDevice
    rw [Table.keys_modify]
    exact h.trimmed
  numbered := h.numbered
  ids := h.ids
  positive := h.positive

/-- The ports that a command reports as touched. -/
def touchedEnds (key : String) (o : Outcome) : List LinkEnd := o.touched.map fun n => ⟨key, n⟩

omit hd ho in
theorem mem_touchedEnds {e : LinkEnd} : e ∈ touchedEnds key o ↔ e.device = key ∧ e.port ∈ o.touched := by
  unfold touchedEnds
  rw [List.mem_map]
  constructor
  · rintro ⟨n, hn, rfl⟩
    exact ⟨rfl, hn⟩
  · rintro ⟨rfl, hp⟩
    exact ⟨e.port, hp, rfl⟩

omit hd in
/-- The connected routes of an interface that is not touched are as its state dictates. -/
theorem connects_replaced (hc : ∀ name, d.Connects name) {name : String} (hname : name ∉ o.touched) :
    o.device.Connects name := by
  have same : o.device.connectedAt name = d.connectedAt name := by
    have through (x : Device) : x.connectedAt name =
        ((x.interfaces.get? name).map Interface.wiring).bind fun i =>
          if i.operUp then i.net.map fun n => connectedRoute n name else none := by
      unfold Device.connectedAt
      cases x.interfaces.get? name <;> rfl
    rw [through, through, ho.wiring name hname]
  intro r
  rw [same, ← hc name r]
  refine and_congr_left fun hat => ho.routes r ?_
  unfold Route.isConnectedAt at hat
  exact Route.isFrom_of_ne (Bool.and_eq_true_iff.1 hat).1 (by decide : RouteSource.connected ≠ .static)

/-- Only the ports that are touched and what depends on them need to be looked at. -/
theorem replaced_settledBut (h : t.Sound) (hs : t.Settled) :
    (t.replaced key o.device).SettledBut (touchedEnds key o) [key] where
  ports := by
    intro e he
    have self {x : LinkEnd} (hx : kindOf x.port = .physical) : parentEnd x = x := by
      unfold parentEnd
      rw [InterfaceName.parentOf_eq_self (by rw [hx]; decide)]
    have reached {x : LinkEnd} (hx : x ∈ touchedEnds key o) (hport : (t.replaced key o.device).HasPort x)
        (hreach : (t.replaced key o.device).Reaches x e) :
        ∃ p ∈ touchedEnds key o, (t.replaced key o.device).HasPort (parentEnd p) ∧
          (t.replaced key o.device).Reaches (parentEnd p) e :=
      ⟨x, hx, by rw [self hport.2]; exact hport, by rw [self hport.2]; exact hreach⟩
    by_cases htouched : e ∈ touchedEnds key o
    · exact Or.inr (reached htouched he (Or.inl rfl))
    · have clean {x : LinkEnd} (hx : x ∉ touchedEnds key o) : x.device = key → x.port ∉ o.touched :=
        fun hk hp => hx (mem_touchedEnds.2 ⟨hk, hp⟩)
      have hport : t.HasPort e := by
        refine ⟨?_, he.2⟩
        have same := congrArg Option.isSome (wiring_replaced hd ho (clean htouched))
        rw [Option.isSome_map, Option.isSome_map] at same
        rw [← same]
        exact he.1
      obtain ⟨hworks, hlink⟩ := hs.ports e hport
      -- The other end of the link may have been touched even if this one has not.
      by_cases hends : ∃ l, t.linkAt e = some l ∧ ∃ x ∈ l.ends, x ∈ touchedEnds key o
      · obtain ⟨l, hl, x, hx, hxt⟩ := hends
        obtain ⟨hmem, hel⟩ := h.linkAt_iff.1 hl
        have hxport : (t.replaced key o.device).HasPort x := (replaced_sound hd ho h).ends l hmem x hx
        exact Or.inr (reached hxt hxport (Or.inr ⟨l, (replaced_sound hd ho h).linkAt_iff.2 ⟨hmem, hx⟩, hel⟩))
      · refine Or.inl ⟨(state_replaced hd ho (clean htouched)).2.trans hworks, fun l hl => ?_⟩
        have untouched (x : LinkEnd) (hx : x ∈ l.ends) : x ∉ touchedEnds key o :=
          fun hxt => hends ⟨l, hl, x, hx, hxt⟩
        rw [(state_replaced hd ho (clean (untouched l.a (by simp [Link.ends])))).1,
          (state_replaced hd ho (clean (untouched l.b (by simp [Link.ends])))).1]
        exact hlink l hl
  obeys := by
    intro k d₁ hd₁
    rcases device_of_replaced hd₁ with ⟨rfl, -⟩ | ⟨-, hk⟩
    · exact Or.inr (Or.inl (by simp))
    · exact Or.inl (hs.obeys k d₁ hk)
  connects := by
    intro k d₁ hd₁ name
    rcases device_of_replaced hd₁ with ⟨rfl, rfl⟩ | ⟨-, hk⟩
    · by_cases hname : name ∈ o.touched
      · exact Or.inr (mem_touchedEnds.2 ⟨rfl, hname⟩)
      · exact Or.inl (connects_replaced ho (hs.connects _ d hd) hname)
    · exact Or.inl (hs.connects k d₁ hk name)

/-! ## What it comes to -/

/-- What a command reports in full can be carried on. -/
theorem propagate_yields (h : t.Sound) (hs : t.Settled) :
    Yields (Propagated (t.replaced key o.device) (touchedEnds key o) o.routing)
      ((t.replaced key o.device).propagate o.device.id o.touched o.routing) := by
  have hid : o.device.id = key := by rw [ho.id, h.identified key d hd]
  unfold propagate
  rw [hid]
  refine propagatePorts_yields (replaced_sound hd ho h) (replaced_settledBut hd ho h hs) ?_ o.routing
  intro e he
  have hmem := ho.touched _ (mem_touchedEnds.1 he).2
  exact ⟨_, InterfaceName.split_of_readable (ho.sound.interfaces.readable _ hmem)⟩

omit ho in
/-- If nothing was called for, the outcome is what the command made of its device. -/
theorem Propagated.eq_of_quiet {r : Refresh}
    (hr : Propagated (t.replaced key o.device) (touchedEnds key o) o.routing r)
    (hq : (!r.dirty.isEmpty || o.routing) = false) :
    o.touched = [] ∧ o.routing = false ∧ r.topology = t.replaced key o.device := by
  rw [Bool.or_eq_false_iff, Bool.not_eq_false', List.isEmpty_iff] at hq
  have none_touched : o.touched = [] := by
    refine List.eq_nil_iff_forall_not_mem.2 fun n hn => ?_
    have known : key ∈ (t.replaced key o.device).devices.keys :=
      Table.mem_keys_of_get? (get?_replaced_self hd _)
    have dirty := hr.marks ⟨key, n⟩ (mem_touchedEnds.2 ⟨rfl, hn⟩) known
    rw [hq.1] at dirty
    cases dirty
  refine ⟨none_touched, hq.2, hr.quiet ?_ hq.1 hq.2⟩
  unfold touchedEnds
  rw [none_touched]
  rfl

end Reported

/-- A lab once what a command did has been carried on, and the device that the command was given to. -/
structure Carried (t : Topology) (key : String) (o : Outcome) (u : Topology) (d' : Device) : Prop where
  orderly : u.Orderly
  device : u.devices.get? key = some d'
  frame : u.frame = (t.replaced key o.device).frame

/-- Propagation leaves consoles where they are and what they configure in place. -/
theorem keeps_of_frame {d d' : Device} (hf : d'.frame = d.frame) : d.Keeps d' := by
  have same {α : Type} (f : Device → α) : f d'.frame = f d.frame := by rw [hf]
  have keys : d'.interfaces.keys = d.interfaces.keys := by
    have := same fun x => x.interfaces.keys
    simpa [Device.frame] using this
  exact .of_same (same Device.mode) (same Device.modeStack) (same Device.context) (same Device.type) keys
    (same Device.ospf) (same Device.rip) (same Device.lines) (same Device.vlans) (same Device.acls)
    (same Device.dhcpPools)

theorem seated_of_frame (hf : u.frame = t.frame) (hs : ∀ k d, t.devices.get? k = some d → d.Seated)
    {k : String} {d' : Device} (hd' : u.devices.get? k = some d') : d'.Seated := by
  obtain ⟨d, hd, hframe⟩ := device_of_frame hf hd'
  exact (hs k d hd).of_keeps (keeps_of_frame hframe)

/-- Carrying on what a command reports in full leaves the lab in order. -/
theorem settle_yields (h : t.Orderly) (hd : t.devices.get? key = some d) (ho : Delivers d o) :
    Yields (fun r => t.Carried key o r.1 r.2) (Console.settle t key o) := by
  unfold Console.settle
  refine (propagate_yields hd ho.toReports h.sound h.settled).bind fun r hr => ?_
  have hself := get?_replaced_self hd o.device
  obtain ⟨d', hd', -⟩ := device_of_frame hr.frame.symm hself
  rw [entry_eq hd', ok_bind]
  refine ⟨⟨hr.sound, hr.settled, fun k d₂ hd₂ => seated_of_frame hr.frame ?_ hd₂⟩, hd', hr.frame⟩
  intro k' d₁ hd₁
  rcases device_of_replaced hd₁ with ⟨-, rfl⟩ | ⟨-, hk⟩
  · exact ho.seated
  · exact h.seated k' d₁ hk

/-- If a command makes an interface whose name is not readable, nothing can be carried on. -/
theorem settle_unreadable (h : t.Sound) (hd : t.devices.get? key = some d) (hid : o.device.id = d.id)
    {name : String} {i : Interface} (hi : o.device.interfaces = d.interfaces.insert name i)
    (hname : i.name = name) (htouched : o.touched = [name])
    (hkind : InterfaceName.kind name = .ok (kindOf name))
    (unreadable : InterfaceName.isReadable name = false) : Console.settle t key o = .error .badNumber := by
  have cabled : (t.replaced key o.device).Cabled := by
    refine replaced_cabled h.toCabled hd fun k hk => ?_
    rw [hi]
    exact Table.mem_keys_insert.2 (Or.inl hk)
  have made : o.device.interfaces.get? name = some i := by
    rw [hi, Table.get?_insert_self]
  have failed := propagate_unreadable cabled (get?_replaced_self hd _) made hname hkind unreadable o.routing
  unfold replaced at failed
  unfold Console.settle
  rw [hid, h.identified key d hd, htouched]
  dsimp only
  rw [failed, error_bind]

end Topology

end NetRack
