import NetRack.Proofs.History

/-!
# What cannot go wrong in a lab

However a lab came about, it is consistent, and no line makes a console report that something went wrong
inside.  A line gives a result unless its device is unknown or it trips over a number.
-/

namespace NetRack

namespace Topology

variable {t : Topology}

/-! ## Consistency -/

/-- Devices and links do not contradict each other, and no two links have the same id. -/
structure Consistent (t : Topology) : Prop where
  verified : t.verify = .ok ()
  ids : (t.links.map (·.id)).Nodup
  ends : ∀ l ∈ t.links, ∀ e ∈ l.ends, ∃ i, t.interface e = .ok i
  apart : (t.links.flatMap Link.ends).Nodup
  agreed : ∀ l ∈ t.links, t.bothEndsOn l = .ok l.up
  off : ∀ e i, t.interface e = .ok i → i.operUp = true → i.adminUp = true

theorem interface_eq_ok {e : LinkEnd} {i : Interface} (h : t.interface e = .ok i) : t.port? e = some i := by
  unfold interface at h
  obtain ⟨d, hd, hi⟩ := bind_eq_ok.1 h
  unfold entry need at hd
  unfold need at hi
  unfold port?
  cases hget : t.devices.get? e.device with
  | none =>
    rw [hget] at hd
    cases hd
  | some d' =>
    rw [hget] at hd
    cases hd
    rw [Option.bind_some]
    cases hget' : d.interfaces.get? e.port with
    | none =>
      rw [hget'] at hi
      cases hi
    | some i' =>
      rw [hget'] at hi
      cases hi
      rfl

theorem Orderly.consistent (h : t.Orderly) : t.Consistent where
  verified := h.settled.verify h.sound
  ids := h.sound.ids
  ends := by
    intro l hl e he
    obtain ⟨i, hi⟩ := h.sound.end_port hl he
    exact ⟨i, interface_eq hi⟩
  apart := h.sound.apart
  agreed := by
    intro l hl
    have hea : l.a ∈ l.ends := by simp [Link.ends]
    rw [h.sound.bothEndsOn_eq hl]
    have hat := h.sound.linkAt_iff.2 ⟨hl, hea⟩
    rw [(h.settled.ports l.a (h.sound.ends l hl l.a hea)).link l hat]
  off := fun _ _ hi hup => h.settled.adminUp h.sound (interface_eq_ok hi) hup

/-! ## Results -/

/-- A line gives no result exactly if its device is unknown or it trips. -/
theorem Orderly.execute_error_iff (h : t.Orderly) (explainer : Option Explainer) (device line : String)
    (f : Fault) :
    Console.execute explainer t device line = .error f ↔
      t.device device = .error f ∨
        ∃ d, t.device device = .ok d ∧ Console.Trips d line 0 ∧ f = .badNumber := by
  cases hd : t.device device with
  | error f' =>
    have failed : Console.execute explainer t device line = .error f' := by
      unfold Console.execute
      rw [hd]
      rfl
    rw [failed]
    simp
  | ok d =>
    by_cases ht : Console.Trips d line 0
    · rw [Console.execute_trips h explainer hd ht]
      constructor
      · intro heq
        cases heq
        exact Or.inr ⟨d, rfl, ht, rfl⟩
      · rintro (hno | ⟨d', -, -, rfl⟩)
        · cases hno
        · rfl
    · obtain ⟨r, hok, -⟩ := (Console.execute_yields h explainer hd ht).exists_ok
      rw [hok]
      constructor
      · intro heq
        cases heq
      · rintro (hno | ⟨d', hd', ht', -⟩)
        · cases hno
        · cases hd'
          exact absurd ht' ht

theorem Orderly.no_internal_error (h : t.Orderly) {explainer : Option Explainer} {device line : String}
    {r : CommandResult} (hr : Console.execute explainer t device line = .ok r) {e : ErrorReport}
    (he : r.error = some e) : e.kind ≠ .propagation := by
  cases hd : t.device device with
  | error f =>
    rw [(h.execute_error_iff explainer device line f).2 (Or.inl hd)] at hr
    cases hr
  | ok d =>
    by_cases ht : Console.Trips d line 0
    · rw [Console.execute_trips h explainer hd ht] at hr
      cases hr
    · exact ((Console.execute_yields h explainer hd ht).value hr).2 e he

/-! ## Whatever was done -/

/-- Whatever was done to a lab, it is consistent, and no line makes a console report that something went
wrong inside. -/
theorem reached_consistent (cs : List Change) :
    (reached cs).Consistent ∧
      ∀ explainer device line r, Console.execute explainer (reached cs) device line = .ok r →
        ∀ e, r.error = some e → e.kind ≠ .propagation :=
  ⟨(reached_orderly cs).consistent, fun _ _ _ _ hr _ he => (reached_orderly cs).no_internal_error hr he⟩

/-- Whatever was done to a lab, a line gives no result exactly if its device is unknown or it trips over
a number. -/
theorem reached_execute_error_iff (cs : List Change) (explainer : Option Explainer) (device line : String)
    (f : Fault) :
    Console.execute explainer (reached cs) device line = .error f ↔
      (reached cs).device device = .error f ∨
        ∃ d, (reached cs).device device = .ok d ∧ Console.Trips d line 0 ∧ f = .badNumber :=
  (reached_orderly cs).execute_error_iff explainer device line f

end Topology

end NetRack
