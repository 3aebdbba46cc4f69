import NetRack.Proofs.History
import NetRack.Proofs.Ospf.Memory

/-!
# What OSPF is up to date with

OSPF is computed anew when a port is dirty or routing has changed, but not when a VLAN comes or goes.  So
what it computed is up to date with the VLANs that were known when it was computed last, and with those
that are known now exactly if it comes to the same with either.
-/

namespace NetRack

namespace Topology

/-! ## Remembering VLANs -/

/-- Whether OSPF is computed anew when what a command did is carried on. -/
def recomputesFor (t : Topology) (key : String) (o : Outcome) : Bool :=
  match (t.replaced key o.device).propagate o.device.id o.touched o.routing with
  | .ok r => !r.dirty.isEmpty || o.routing
  | .error _ => false

/-- Whether OSPF is computed anew by a change. -/
def recomputes (t : Topology) : Change → Bool
  | .addDevice _ _ _ => false
  | .removeDevice id => (t.removeDevice id).isOk
  | .connect deviceA portA deviceB portB => (t.connect deviceA portA deviceB portB).isOk
  | .disconnect device port => (t.disconnect device port).isOk
  | .command _ device line =>
    match t.device device with
    | .ok d =>
      match Console.attempt t (deviceKey device) d line with
      | .ok (some (o, _, _)) => t.recomputesFor (deviceKey device) o
      | _ => false
    | .error _ => false

/-- The memory after a change: the VLANs that are known if OSPF has been computed anew, those that were
remembered if not.  A device that is new is remembered as it is. -/
def remember (t : Topology) (seen : VlanMemory) (c : Change) : VlanMemory :=
  if t.recomputes c then (t.next c).knownVlans else (t.next c).devices.mapValues (vlansIn seen)

/-- What an empty lab has come to after some changes, and what is remembered. -/
def history (cs : List Change) : Topology × VlanMemory :=
  cs.foldl (fun w c => (w.1.next c, w.1.remember w.2 c)) ({}, ∅)

/-- The VLANs that were known when OSPF was computed last. -/
def remembered (cs : List Change) : VlanMemory := (history cs).2

theorem history_fst (cs : List Change) : (history cs).1 = reached cs := by
  have all (w : Topology × VlanMemory) :
      (cs.foldl (fun w c => (w.1.next c, w.1.remember w.2 c)) w).1 = cs.foldl Topology.next w.1 := by
    induction cs generalizing w with
    | nil => rfl
    | cons c cs ih => exact ih _
  exact all _

/-- All devices are remembered, and OSPF is up to date with what is remembered. -/
structure Remembers (t : Topology) (seen : VlanMemory) : Prop where
  keys : seen.keys = t.devices.keys
  current : (t.withVlans seen).Current

variable {t u : Topology} {seen : VlanMemory}

theorem Current.remembers (h : u.Current) : u.Remembers u.knownVlans where
  keys := Table.keys_mapValues _ _
  current := by rwa [withVlans_knownVlans]

theorem Current.remembers_still (h : (u.withVlans seen).Current) :
    u.Remembers (u.devices.mapValues (vlansIn seen)) where
  keys := Table.keys_mapValues _ _
  current := by
    rw [withVlans_congr fun k d hd => ?_]
    · exact h
    · show ((u.devices.mapValues (vlansIn seen)).get? k).getD d.vlans = _
      rw [Table.get?_mapValues, hd]
      rfl

/-! ## Changes -/

/-- If a line comes to something, it has been carried on. -/
theorem attempt_eq_ok {key : String} {d d' : Device} {line : String} {o : Outcome}
    (hx : Console.attempt t key d line = .ok (some (o, u, d'))) :
    ∃ r, (t.replaced key o.device).propagate o.device.id o.touched o.routing = .ok r ∧ r.topology = u := by
  unfold Console.attempt at hx
  obtain ⟨x, -, hx⟩ := bind_eq_ok.1 hx
  cases x with
  | none => cases hx
  | some o' =>
    obtain ⟨p, hp, heq⟩ := bind_eq_ok.1 hx
    cases heq
    have settled := liftM_eq_ok.1 hp
    unfold Console.settle at settled
    obtain ⟨r, hr, hrest⟩ := bind_eq_ok.1 settled
    obtain ⟨d₁, -, hpair⟩ := bind_eq_ok.1 hrest
    cases hpair
    exact ⟨r, hr, rfl⟩

section Step

variable {c : Change} (h : t.Orderly) (hs : t.Remembers seen)

/-- OSPF is up to date if it is computed anew, and else if the change leaves it so. -/
theorem remembers_next (anew : t.recomputes c = true → (t.next c).Current)
    (still : t.recomputes c = false → ((t.next c).withVlans seen).Current) :
    (t.next c).Remembers (t.remember seen c) := by
  unfold remember
  split
  · rename_i hre
    exact (anew hre).remembers
  · rename_i hre
    exact (still (by simpa using hre)).remembers_still

include hs

theorem remembers_unchanged (hn : t.next c = t) (hre : t.recomputes c = false) :
    (t.next c).Remembers (t.remember seen c) := by
  refine remembers_next (fun anew => ?_) fun _ => ?_
  · rw [hre] at anew
    cases anew
  · rw [hn]
    exact hs.current

/-- A change that computes OSPF anew whenever it succeeds. -/
theorem remembers_edited (hm : Meets (fun _ => True) (t.Edited ·) (t.perform c))
    (hre : t.recomputes c = (t.perform c).isOk) : (t.next c).Remembers (t.remember seen c) := by
  cases hp : t.perform c with
  | error f =>
    refine remembers_unchanged hs ?_ (by rw [hre, hp]; rfl)
    unfold next
    rw [hp]
  | ok u =>
    have hn : t.next c = u := by
      unfold next
      rw [hp]
    refine remembers_next (fun _ => by rw [hn]; exact (hm.value hp).current) fun still => ?_
    rw [hre, hp] at still
    cases still

include h

theorem remembers_addDevice (id type : String) (hostname : Option String) :
    (t.next (.addDevice id type hostname)).Remembers (t.remember seen (.addDevice id type hostname)) := by
  have made := addDevice_meets h.sound h.settled id type hostname
  cases hp : t.perform (.addDevice id type hostname) with
  | error f =>
    refine remembers_unchanged hs ?_ rfl
    unfold next
    rw [hp]
  | ok u =>
    obtain ⟨-, -, kind, name, key, fresh, rfl⟩ := made.value hp
    refine remembers_next (fun anew => by cases anew) fun _ => ?_
    have hn : t.next (.addDevice id type hostname) = t.house key (Device.factory kind name key) := by
      unfold next
      rw [hp]
    have unseen : seen.get? key = none := Table.get?_eq_none.2 (hs.keys ▸ fresh)
    rw [hn, house_withVlans t _ unseen]
    refine hs.current.house (withVlans_sound h.sound seen) ?_ rfl rfl rfl
    rw [keys_withVlans]
    exact fresh

theorem remembers_command (explainer : Option Explainer) (device line : String) :
    (t.next (.command explainer device line)).Remembers (t.remember seen (.command explainer device line)) := by
  cases hd : t.device device with
  | error f =>
    refine remembers_unchanged hs (next_command_unknown explainer hd line) ?_
    unfold recomputes
    simp only [hd]
  | ok d =>
    have hget := device_eq_ok.1 hd
    have hn := next_command h explainer hd line
    rcases attempted_cases h hget line with ⟨heq, nothing⟩ | ⟨o, u, d', hx, ho, -⟩
    · refine remembers_unchanged hs (hn.trans heq) ?_
      unfold recomputes
      simp only [hd]
      split
      · rename_i x hx
        exact absurd hx (nothing _)
      · rfl
    · obtain ⟨r, hr, rfl⟩ := attempt_eq_ok hx
      rw [hx] at hn
      have propagated := (propagate_yields hget ho.toReports h.sound h.settled).value hr
      have hre : t.recomputes (.command explainer device line) = (!r.dirty.isEmpty || o.routing) := by
        unfold recomputes recomputesFor
        simp only [hd, hx, hr]
      refine remembers_next (fun anew => ?_) fun still => ?_
      · rw [hn]
        refine propagated.current ?_
        rw [hre, Bool.or_eq_true, Bool.not_eq_true', List.isEmpty_eq_false_iff] at anew
        exact anew
      · rw [hre] at still
        obtain ⟨touched, routing, heq⟩ := propagated.eq_of_quiet hget still
        rw [hn]
        show (r.topology.withVlans seen).Current
        rw [heq]
        refine hs.current.replaced h.sound hget ?_ ho.toReports touched routing
        rw [hs.keys]
        exact Table.mem_keys_of_get? hget

/-- OSPF stays up to date with what is remembered. -/
theorem Remembers.next (c : Change) : (t.next c).Remembers (t.remember seen c) := by
  cases c with
  | addDevice id type hostname => exact remembers_addDevice h hs id type hostname
  | removeDevice id => exact remembers_edited hs (removeDevice_meets h.sound h.settled id) rfl
  | connect deviceA portA deviceB portB =>
    exact remembers_edited hs (connect_meets h.sound h.settled deviceA portA deviceB portB) rfl
  | disconnect device port => exact remembers_edited hs (disconnect_meets h.sound h.settled device port) rfl
  | command explainer device line => exact remembers_command h hs explainer device line

end Step

/-- OSPF stays up to date if no device gets to know other VLANs. -/
theorem Current.next (hc : t.Current) (h : t.Orderly) {c : Change} (same : (t.next c).knownVlans = t.knownVlans) :
    (t.next c).Current := by
  have current := (Remembers.next h hc.remembers c).current
  have known : (t.next c).withVlans (t.remember t.knownVlans c) = t.next c := by
    conv_rhs => rw [← withVlans_knownVlans (t.next c)]
    refine withVlans_congr fun k d hd => ?_
    unfold remember
    split
    · rfl
    · unfold vlansIn
      rw [Table.get?_mapValues, hd, same]
      rfl
  rwa [known] at current

/-! ## Histories -/

theorem empty_remembers : ({} : Topology).Remembers ∅ where
  keys := rfl
  current := ⟨[], rfl, fun k d hd => by cases hd⟩

theorem reached_remembers (cs : List Change) : (reached cs).Remembers (remembered cs) := by
  have all (w : Topology × VlanMemory) (h : w.1.Orderly) (hs : w.1.Remembers w.2) :
      let w' := cs.foldl (fun w c => (w.1.next c, w.1.remember w.2 c)) w
      w'.1.Remembers w'.2 := by
    induction cs generalizing w with
    | nil => exact hs
    | cons c cs ih => exact ih (w.1.next c, w.1.remember w.2 c) (h.next c) (Remembers.next h hs c)
  rw [← history_fst]
  exact all ({}, ∅) empty_orderly empty_remembers

/-- Whatever was done to a lab, OSPF is up to date with the VLANs that were known when it was computed
last, and with those that are known now exactly if it comes to the same with either. -/
theorem reached_recompute (cs : List Change) :
    ((reached cs).withVlans (remembered cs)).recomputeOspf = .ok ((reached cs).withVlans (remembered cs)) ∧
      ((reached cs).recomputeOspf = .ok (reached cs) ↔
        (·.withVlans (remembered cs)) <$> (reached cs).recomputeOspf =
          ((reached cs).withVlans (remembered cs)).recomputeOspf) := by
  have hsound := (reached_orderly cs).sound
  have current := (reached_remembers cs).current
  exact ⟨(recomputeOspf_eq_self_iff (withVlans_sound hsound _)).2 current,
    recomputeOspf_eq_self_iff_withVlans hsound current⟩

end Topology

end NetRack
