import NetRack.Proofs.Commute
import NetRack.Proofs.UpToDate

/-!
# Taking back

An interface is switched on and off again, an address or a static route is configured and removed again, a
cable is plugged in and out again.  Each time the second step gives the frame back that was there before the
first, and a lab in which OSPF is up to date is determined by its frame.  So nothing is left of the two steps,
whatever they rippled through, but that the number of a link is not used twice.
-/

namespace NetRack

open Outcome

/-- A command that no line trips over: it neither puts lists in order nor makes an interface. -/
def Command.Plain : Command → Prop
  | exec _ => False
  | global (.interface _) => False
  | _ => True

namespace Console

variable {t : Topology} {key : String} {d d' : Device} {line : String} {c : Command}

/-! ## What a line asks for -/

/-- A line asks a device for a command, in the mode that its console is in. -/
def Asks (d : Device) (line : String) (c : Command) : Prop :=
  request? d line d.mode 0 = .ok (some (.command c))

theorem Asks.admissible (h : Asks d line c) : c.Admissible d := (request?_meets d line 0).value h _ rfl

/-- Another device of such names, with its console in the same mode, is asked for the same. -/
theorem Asks.congr (h : Asks d line c) (same : d.SameNames d') (mode : d'.mode = d.mode) : Asks d' line c := by
  unfold Asks
  rw [request?_congr same, mode]
  exact h

/-- A line does not trip if it asks for a plain command. -/
theorem Asks.not_trips (h : Asks d line c) (plain : c.Plain) : ¬Trips d line 0 := by
  have only {r : Request} (asks : request? d line d.mode 0 = .ok (some r)) : r = .command c := by
    rw [show request? d line d.mode 0 = _ from h] at asks
    cases asks
    rfl
  intro trips
  cases trips with
  | numeral long =>
    rw [Asks, request?_overlong long] at h
    cases h
  | lists asks =>
    cases only asks
    exact plain
  | interface asks =>
    cases only asks
    exact plain
  | within asks => cases only asks

/-- What a line makes of a device is sound. -/
theorem made_sound (h : t.Orderly) (hd : t.devices.get? key = some d) (ht : ¬Trips d line 0) :
    (made t d line).Sound := by
  have answers := run_answers h hd ht
  unfold made
  split
  · rename_i o hr
    exact (answers.value hr o rfl).sound
  · exact h.sound.devices key d hd

end Console

open Console

namespace Topology

variable {t u : Topology} {key : String} {d x : Device}

/-! ## Two lines -/

/-- Two changes, one after the other, are carried out and leave a lab as it was. -/
def Undone (t : Topology) (c₁ c₂ : Change) : Prop := ∃ u, t.perform c₁ = .ok u ∧ u.perform c₂ = .ok t

theorem perform_command (h : t.Orderly) (explainer : Option Explainer) {device line : String}
    (hd : t.device device = .ok d) (ht : ¬Trips d line 0) :
    t.perform (.command explainer device line) = .ok (t.next (.command explainer device line)) := by
  obtain ⟨r, hok, -⟩ := (execute_yields h explainer hd ht).exists_ok
  have performed : t.perform (.command explainer device line) = .ok r.topology := by
    unfold perform
    dsimp only
    rw [hok]
    rfl
  unfold next
  rw [performed]

theorem knownVlans_frame (t : Topology) : t.frame.knownVlans = t.knownVlans := by
  unfold frame knownVlans
  rw [Table.mapValues_mapValues]
  rfl

theorem knownVlans_replaced (hd : t.devices.get? key = some d) (same : x.vlans = d.vlans) :
    (t.replaced key x).knownVlans = t.knownVlans := by
  unfold knownVlans replaced modifyDevice
  refine Table.ext (by simp) fun k => ?_
  rw [Table.get?_mapValues, Table.get?_mapValues, Table.get?_modify]
  split
  · rename_i hk
    rw [hk, hd, Option.map_some, Option.map_some, Option.map_some, same]
  · rfl

theorem next_frame (h : t.Orderly) (explainer : Option Explainer) {device line : String}
    (hd : t.device device = .ok d) (ht : ¬Trips d line 0) :
    (t.next (.command explainer device line)).frame =
      (t.replaced (deviceKey device) (made t d line)).frame := by
  rw [next_command h explainer hd, attempted_frame h (device_eq_ok.1 hd) ht, frame_replaced]

/-- Two lines leave a lab in which OSPF is up to date as it was, if they leave their device so before anything
is carried on, and the VLANs that it knows even in between. -/
theorem Orderly.undone (h : t.Orderly) (hc : t.Current) {device l₁ l₂ : String} (hd : t.device device = .ok d)
    (ht₁ : ¬Trips d l₁ 0) (ht₂ : ¬Trips (made t d l₁) l₂ 0) (vlans : (made t d l₁).vlans = d.vlans)
    (back : made t (made t d l₁) l₂ = d) (e₁ e₂ : Option Explainer) :
    t.Undone (.command e₁ device l₁) (.command e₂ device l₂) := by
  have hget := device_eq_ok.1 hd
  have sound := made_sound h hget ht₁
  have ordered := h.next (.command e₁ device l₁)
  have first := next_frame h e₁ hd ht₁
  have performed := perform_command h e₁ hd ht₁
  have known : (t.next (.command e₁ device l₁)).knownVlans = t.knownVlans := by
    rw [← knownVlans_frame, first, knownVlans_frame, knownVlans_replaced hget vlans]
  have current := hc.next h known
  generalize made t d l₁ = x at ht₂ back sound first
  generalize t.next (.command e₁ device l₁) = u at ordered first performed known current
  -- The device that the second line is given to has the frame of what the first has made.
  obtain ⟨x', hx', same⟩ := device_of_frame first.symm (get?_replaced_self hget x)
  have hx : u.device device = .ok x' := device_eq_ok.2 hx'
  have ht : ¬Trips x' l₂ 0 := by rwa [← trips_frame, ← same, trips_frame]
  have second : (u.next (.command e₂ device l₂)).frame = t.frame := by
    have made_back : (made u x' l₂).frame = d.frame := by
      rw [← made_frame u u (ordered.sound.devices _ _ hx'), ← same, made_frame t u sound, back]
    rw [next_frame ordered e₂ hx ht, frame_replaced, made_back, first, ← frame_replaced, replaced_replaced,
      replaced_self hget]
  have ordered' := ordered.next (.command e₂ device l₂)
  have current' : (u.next (.command e₂ device l₂)).Current := by
    refine current.next ordered ?_
    rw [known, ← knownVlans_frame, second, knownVlans_frame]
  refine ⟨u, performed, (perform_command ordered e₂ hx ht).trans (congrArg Except.ok ?_)⟩
  exact eq_of_frame h.sound ordered'.sound h.settled ordered'.settled hc current' second

/-- Two lines leave a lab in which OSPF is up to date as it was, if they ask for a command and for one that
takes back what the first has made of the device. -/
theorem Orderly.undone_commands (h : t.Orderly) (hc : t.Current) {device l₁ l₂ : String}
    (hd : t.device device = .ok d) {c₁ c₂ : Command} (asks₁ : Asks d l₁ c₁) (asks₂ : Asks d l₂ c₂)
    (plain₁ : c₁.Plain) (plain₂ : c₂.Plain) (change : left d (c₁.apply t d) = x) (same : d.SameNames x)
    (mode : x.mode = d.mode) (vlans : x.vlans = d.vlans) (back : left x (c₂.apply t x) = d)
    (e₁ e₂ : Option Explainer) : t.Undone (.command e₁ device l₁) (.command e₂ device l₂) := by
  have made₁ : made t d l₁ = x := (made_command asks₁).trans change
  have asks : Asks x l₂ c₂ := asks₂.congr same mode
  have ht₁ : ¬Trips d l₁ 0 := asks₁.not_trips plain₁
  subst made₁
  exact h.undone hc hd ht₁ (asks.not_trips plain₂) vlans ((made_command asks).trans back) e₁ e₂

end Topology

/-! ## Interfaces -/

/-- The device with another interface under a key. -/
def Device.withInterface (d : Device) (key : String) (j : Interface) : Device :=
  d.modifyInterface key fun _ => j

section Interfaces

variable {t : Topology} {d : Device} {key : String} {i : Interface}

theorem Device.withInterface_self (hi : d.interfaces.get? key = some i) : d.withInterface key i = d := by
  unfold withInterface modifyInterface
  rw [Table.modify_eq_self]
  intro i' hi'
  rw [hi] at hi'
  exact Option.some_inj.1 hi'

/-- An interface that is changed and changed back leaves no trace. -/
theorem Device.withInterface_back (hi : d.interfaces.get? key = some i) (j : Interface) :
    (d.withInterface key j).withInterface key i = d := by
  have interfaces : ((d.interfaces.modify key fun _ => j).modify key fun _ => i) = d.interfaces := by
    refine Table.ext (by simp) fun k => ?_
    rw [Table.get?_modify, Table.get?_modify]
    split
    · rename_i hk
      rw [hk, hi]
      rfl
    · rfl
  unfold withInterface modifyInterface
  rw [interfaces]

theorem Device.sameNames_withInterface (d : Device) (key : String) (j : Interface) :
    d.SameNames (d.withInterface key j) := ⟨rfl, fun k => Table.contains_modify d.interfaces key k _⟩

/-- The interface under configuration, once it has been changed. -/
theorem currentInterface_withInterface (hk : d.context.interface = some key)
    (hi : d.interfaces.get? key = some i) (j : Interface) :
    currentInterface (d.withInterface key j) = .ok (key, j) := by
  refine currentInterface_eq hk ?_
  unfold Device.withInterface Device.modifyInterface
  rw [Table.get?_modify_self, hi]
  rfl

/-- An address that is configured changes nothing but the address, if it is accepted at all. -/
theorem left_setAddress (hk : d.context.interface = some key) (hi : d.interfaces.get? key = some i)
    (a m : Address) :
    ∃ ip mask, left d (setAddress d a m) = d.withInterface key { i with ip := ip, mask := mask } := by
  refine left_of_meets (P := fun x => ∃ ip mask, x = d.withInterface key { i with ip := ip, mask := mask })
    ⟨i.ip, i.mask, (Device.withInterface_self hi).symm⟩ ?_
  unfold setAddress
  rw [currentInterface_eq hk hi, ok_bind]
  refine (Meets.anything _).bind fun _ _ => (Meets.anything _).bind fun n _ => ?_
  refine (Meets.anything _).bind fun _ _ => (Meets.anything _).bind fun _ _ => ?_
  refine (Meets.anything _).bind fun other _ => ?_
  cases other with
  | some other => trivial
  | none => exact ⟨_, _, rfl⟩

namespace Topology

variable (h : t.Orderly) (hc : t.Current) {device : String} (hd : t.device device = .ok d)
  (hk : d.context.interface = some key) (hi : d.interfaces.get? key = some i)
  {l₁ l₂ : String} (e₁ e₂ : Option Explainer)

include h hc hd hi

/-- An interface is changed by one line and changed back by another. -/
theorem undone_interface {c₁ c₂ : InterfaceCommand} {j : Interface} (asks₁ : Asks d l₁ (.interface c₁))
    (asks₂ : Asks d l₂ (.interface c₂)) (change : left d (c₁.apply d) = d.withInterface key j)
    (back : left (d.withInterface key j) (c₂.apply (d.withInterface key j)) =
      (d.withInterface key j).withInterface key i) :
    t.Undone (.command e₁ device l₁) (.command e₂ device l₂) :=
  h.undone_commands hc hd asks₁ asks₂ trivial trivial change (d.sameNames_withInterface key j) rfl rfl
    (back.trans (Device.withInterface_back hi j)) e₁ e₂

include hk

/-- The interface, its links and all that depends on them are as before. -/
theorem undone_noShutdown (off : i.adminUp = false) (asks₁ : Asks d l₁ (.interface .noShutdown))
    (asks₂ : Asks d l₂ (.interface .shutdown)) :
    t.Undone (.command e₁ device l₁) (.command e₂ device l₂) := by
  have same : { i with adminUp := false } = i := by rw [← off]
  refine undone_interface h hc hd hi e₁ e₂ (j := { i with adminUp := true }) asks₁ asks₂ ?_ ?_
  · unfold InterfaceCommand.apply
    rw [currentInterface_eq hk hi]
    rfl
  · unfold InterfaceCommand.apply
    rw [currentInterface_withInterface hk hi]
    exact congrArg (Device.withInterface _ key) same

/-- An address that was refused in the first place is no different. -/
theorem undone_ipAddress {a m : Address} (unaddressed : i.hasIp = false)
    (asks₁ : Asks d l₁ (.interface (.ipAddress a m))) (asks₂ : Asks d l₂ (.interface (.noIpAddress none))) :
    t.Undone (.command e₁ device l₁) (.command e₂ device l₂) := by
  have sound := (h.sound.table (device_eq_ok.1 hd)).each key i hi
  obtain ⟨noIp, noMask⟩ := sound.addressed.eq_none_of_not_hasIp unaddressed
  have same : { i with ip := none, mask := none } = i := by
    cases i
    cases noIp
    cases noMask
    rfl
  obtain ⟨ip, mask, change⟩ := left_setAddress hk hi a m
  refine undone_interface h hc hd hi e₁ e₂ asks₁ asks₂ change ?_
  unfold InterfaceCommand.apply clearAddress
  rw [currentInterface_withInterface hk hi]
  exact congrArg (Device.withInterface _ key) same

end Topology

end Interfaces

/-! ## Static routes -/

section Routes

variable {t : Topology} {d : Device} {network mask : Address} {target : RouteTarget} {distance : Int}
  {n : Network}

/-- A static route of a device leads to a network by a way. -/
def Device.HasStatic (d : Device) (network mask : Address) (target : RouteTarget) : Prop :=
  ∃ r ∈ d.routes, r.isFrom .static = true ∧ r.network = network.text ∧ r.mask = mask.text ∧
    r.nextHop = target.nextHop? ∧ r.interface = target.interface?

/-- Where no static route leads to a network by a way, none goes the way of such a route. -/
theorem filter_sameWay (hn : requireNetwork network mask = .ok n) (free : ¬d.HasStatic network mask target)
    (distance : Int) : (d.routes.filter fun r => !r.sameWay (staticRoute n target distance)) = d.routes := by
  obtain ⟨-, hbase, hmask⟩ := (requireNetwork_answers network mask).value hn
  refine List.filter_eq_self.2 fun r hr => ?_
  cases hway : r.sameWay (staticRoute n target distance) with
  | false => rfl
  | true =>
    unfold Route.sameWay staticRoute at hway
    simp only [Bool.and_eq_true, decide_eq_true_eq, hbase, hmask] at hway
    obtain ⟨⟨⟨⟨source, hnetwork⟩, hmask⟩, hhop⟩, hexit⟩ := hway
    refine absurd ⟨r, hr, ?_, hnetwork, hmask, hhop, hexit⟩ free
    unfold Route.isFrom Stored.holds
    rw [source]
    simp

/-- A static route that is new comes to the others, if it is accepted at all. -/
theorem left_addStaticRoute (h : d.Sound) (hn : requireNetwork network mask = .ok n) (far : 1 ≤ distance)
    (free : ¬d.HasStatic network mask target) :
    ∃ routes, left d (addStaticRoute d network mask target distance) = { d with routes } ∧ (routes = d.routes ∨
      RouteTable routes ∧ ∀ r, r ∈ routes ↔ r ∈ d.routes ∨ r = staticRoute n target distance) := by
  have short := ((requireNetwork_answers network mask).value hn).1
  have isRoute : IsRoute (staticRoute n target distance) := .static n target distance short far
  have apart := apart_without_way h.routes isRoute
  rw [filter_sameWay hn free] at apart
  have inserts := insertRoute_yields h.routes isRoute apart
  refine left_of_meets (P := fun x => ∃ routes, x = { d with routes } ∧ (routes = d.routes ∨
    RouteTable routes ∧ ∀ r, r ∈ routes ↔ r ∈ d.routes ∨ r = staticRoute n target distance))
    ⟨d.routes, rfl, Or.inl rfl⟩ ?_
  unfold addStaticRoute
  rw [hn, ok_bind]
  refine (Meets.anything _).bind fun _ _ => (Meets.anything _).bind fun _ _ => ?_
  rw [filter_sameWay hn free]
  exact inserts.anyway.lift.bind fun routes hr => ⟨routes, rfl, Or.inr hr⟩

/-- A static route that is removed is gone, if there is one at all. -/
theorem left_removeStaticRoute (hn : requireNetwork network mask = .ok n) (d : Device) :
    left d (removeStaticRoute d network mask target) =
      { d with routes := d.routes.filter fun r => !r.sameWay (staticRoute n target 1) } := by
  unfold removeStaticRoute
  rw [hn, ok_bind]
  dsimp only
  unfold refuseIf
  split
  · rename_i same
    rw [List.filter_eq_self.2 (List.length_filter_eq_length_iff.1 (by simpa using same))]
    rfl
  · rfl

/-- A static route that is configured and removed leaves no trace. -/
theorem removeStaticRoute_back (h : d.Sound) (far : 1 ≤ distance) (free : ¬d.HasStatic network mask target) :
    ∃ routes, left d (addStaticRoute d network mask target distance) = { d with routes } ∧
      left { d with routes } (removeStaticRoute { d with routes } network mask target) = d := by
  cases hn : requireNetwork network mask with
  | error f =>
    refine ⟨d.routes, ?_, ?_⟩
    · unfold addStaticRoute
      rw [hn]
      rfl
    · unfold removeStaticRoute
      rw [hn]
      rfl
  | ok n =>
    obtain ⟨routes, added, others⟩ := left_addStaticRoute h hn far free
    refine ⟨routes, added, ?_⟩
    have kept : (routes.filter fun r => !r.sameWay (staticRoute n target 1)) = d.routes := by
      have same := filter_sameWay hn free 1
      rcases others with rfl | ⟨table, mem⟩
      · exact same
      · refine (table.filter _).eq_of_mem_iff h.routes fun r => ?_
        have gone : (staticRoute n target distance).sameWay (staticRoute n target 1) = true := by
          simp [Route.sameWay, staticRoute]
        rw [List.mem_filter, mem]
        constructor
        · rintro ⟨hr | rfl, hway⟩
          · exact hr
          · rw [gone] at hway
            cases hway
        · intro hr
          exact ⟨Or.inl hr, List.filter_eq_self.1 same r hr⟩
    rw [left_removeStaticRoute hn]
    dsimp only
    rw [kept]

namespace Topology

theorem undone_ipRoute (h : t.Orderly) (hc : t.Current) {device : String} (hd : t.device device = .ok d)
    {l₁ l₂ : String} (e₁ e₂ : Option Explainer) (free : ¬d.HasStatic network mask target)
    (asks₁ : Asks d l₁ (.global (.ipRoute network mask target distance)))
    (asks₂ : Asks d l₂ (.global (.noIpRoute network mask target))) :
    t.Undone (.command e₁ device l₁) (.command e₂ device l₂) := by
  have sound := h.sound.devices _ d (device_eq_ok.1 hd)
  obtain ⟨routes, added, back⟩ := removeStaticRoute_back sound asks₁.admissible.2 free
  exact h.undone_commands hc hd asks₁ asks₂ trivial trivial added ⟨rfl, fun _ => rfl⟩ rfl rfl back e₁ e₂

end Topology

end Routes

/-! ## Cables -/

namespace Topology

variable {t u : Topology} {a b : LinkEnd}

theorem physicalPort_frame (t : Topology) (device port : String) :
    t.frame.physicalPort device port = t.physicalPort device port := by
  unfold physicalPort Topology.device
  rw [get?_frame]
  cases t.devices.get? (deviceKey device) with
  | none => rfl
  | some d =>
    simp only [Option.map_some, ok_bind, Device.contains_frame]

/-- The number of a link may be skipped. -/
theorem numbered_sound (h : t.Sound) : { t with nextLinkId := t.nextLinkId + 1 }.Sound where
  toCabled := ⟨h.ends, h.apart⟩
  devices := h.devices
  identified := h.identified
  trimmed := h.trimmed
  numbered := by
    intro l hl
    obtain ⟨n, low, high, hid⟩ := h.numbered l hl
    exact ⟨n, low, by dsimp only; omega, hid⟩
  ids := h.ids
  positive := by
    have positive := h.positive
    dsimp only
    omega

theorem numbered_settled (hs : t.Settled) : { t with nextLinkId := t.nextLinkId + 1 }.Settled where
  ports := fun e he => ⟨(hs.ports e he).port, (hs.ports e he).link⟩
  obeys := hs.obeys
  connects := hs.connects

/-- A cable that has been plugged in is the last one. -/
theorem links_of_plug (h : u.frame = (t.plug a b).frame) :
    ∃ ls l, u.links = ls ++ [l] ∧ (ls.map fun l => { l with up := false }) = t.frame.links ∧
      l.ends = [a, b] := by
  have links : (u.links.map fun l => { l with up := false }) =
      t.frame.links ++ [{ id := "L" ++ Text.intText t.nextLinkId, a, b }] := by
    show u.frame.links = _
    rw [h]
    simp [frame, plug]
  obtain ⟨ls, rest, split, before, last⟩ := List.map_eq_append_iff.1 links
  obtain ⟨l, rfl, heq⟩ := List.map_eq_singleton_iff.1 last
  refine ⟨ls, l, split, before, ?_⟩
  have ends : ({ l with up := false } : Link).ends = [a, b] := by rw [heq]; rfl
  exact ends

/-- A cable that has been plugged in can be unplugged at either end, and leaves no trace but that its number
has been given out. -/
theorem disconnect_plugged (h : t.Orderly) (hc : t.Current) {deviceA portA deviceB portB : String}
    (hu : t.Plugs deviceA portA deviceB portB u) {device port : String}
    (either : (device = deviceA ∧ t.physicalPort device port = t.physicalPort deviceA portA) ∨
      (device = deviceB ∧ t.physicalPort device port = t.physicalPort deviceB portB)) :
    u.disconnect device port = .ok { t with nextLinkId := t.nextLinkId + 1 } := by
  obtain ⟨nameA, nameB, hA, hB, hframe⟩ := hu.plugged
  obtain ⟨ls, l, links, before, ends⟩ := links_of_plug hframe
  obtain ⟨name, hname, hend⟩ : ∃ name, t.physicalPort device port = .ok name ∧
      (⟨device, name⟩ : LinkEnd) ∈ l.ends := by
    rw [ends]
    rcases either with ⟨rfl, hp⟩ | ⟨rfl, hp⟩
    · exact ⟨nameA, hp.trans hA, by simp⟩
    · exact ⟨nameB, hp.trans hB, by simp⟩
  have devices : u.frame.devices = t.frame.devices := by rw [hframe]; rfl
  have found : u.physicalPort device port = .ok name := by
    rw [← physicalPort_frame, hframe, physicalPort_frame, ← hname]
    rfl
  have linked : u.linkAt ⟨device, name⟩ = some l := by
    refine hu.sound.linkAt_iff.2 ⟨?_, hend⟩
    rw [links]
    simp
  have unplugged : u.links.erase l = ls := by
    have ids := hu.sound.ids
    rw [links, List.map_append, List.nodup_append] at ids
    have fresh : l ∉ ls := fun hl => ids.2.2 l.id (List.mem_map_of_mem hl) l.id (by simp) rfl
    rw [links, List.erase_append_right _ fresh, List.erase_cons_head, List.append_nil]
  obtain ⟨v, hv, edited, vframe⟩ := (disconnect_yields hu.sound hu.settled found linked).exists_ok
  rw [hv]
  refine congrArg Except.ok ?_
  refine eq_of_frame (numbered_sound h.sound) edited.sound (numbered_settled h.settled) edited.settled
    (hc.of_view rfl fun k d hd => ⟨d, hd, rfl, fun _ _ => Iff.rfl⟩) edited.current ?_
  rw [vframe, unplugged]
  have nextLinkId : u.frame.nextLinkId = t.nextLinkId + 1 := by rw [hframe]; rfl
  exact eq_of_parts devices before nextLinkId

/-! ## All of it -/

/-- What is done to a lab is taken back: an interface that is off is switched on and off again, an address
that an interface does not have yet and a static route that is not there yet are configured, if they are
accepted, and removed again, and a cable is plugged in and out again at either end.  A line may be any that
asks for the command. -/
structure Undoes (t : Topology) : Prop where
  noShutdown : ∀ {device d key i l₁ l₂} (e₁ e₂ : Option Explainer), t.device device = .ok d →
    d.context.interface = some key → d.interfaces.get? key = some i → i.adminUp = false →
    Asks d l₁ (.interface .noShutdown) → Asks d l₂ (.interface .shutdown) →
    t.Undone (.command e₁ device l₁) (.command e₂ device l₂)
  ipAddress : ∀ {device d key i a m l₁ l₂} (e₁ e₂ : Option Explainer), t.device device = .ok d →
    d.context.interface = some key → d.interfaces.get? key = some i → i.hasIp = false →
    Asks d l₁ (.interface (.ipAddress a m)) → Asks d l₂ (.interface (.noIpAddress none)) →
    t.Undone (.command e₁ device l₁) (.command e₂ device l₂)
  ipRoute : ∀ {device d network mask target distance l₁ l₂} (e₁ e₂ : Option Explainer),
    t.device device = .ok d → ¬d.HasStatic network mask target →
    Asks d l₁ (.global (.ipRoute network mask target distance)) →
    Asks d l₂ (.global (.noIpRoute network mask target)) →
    t.Undone (.command e₁ device l₁) (.command e₂ device l₂)
  connect : ∀ {deviceA portA deviceB portB device port u}, t.connect deviceA portA deviceB portB = .ok u →
    (device = deviceA ∧ t.physicalPort device port = t.physicalPort deviceA portA) ∨
      (device = deviceB ∧ t.physicalPort device port = t.physicalPort deviceB portB) →
    u.disconnect device port = .ok { t with nextLinkId := t.nextLinkId + 1 }

theorem Orderly.undoes (h : t.Orderly) (hc : t.Current) : t.Undoes where
  noShutdown := fun e₁ e₂ hd hk hi off asks₁ asks₂ => undone_noShutdown h hc hd hk hi e₁ e₂ off asks₁ asks₂
  ipAddress := fun e₁ e₂ hd hk hi unaddressed asks₁ asks₂ =>
    undone_ipAddress h hc hd hk hi e₁ e₂ unaddressed asks₁ asks₂
  ipRoute := fun e₁ e₂ hd free asks₁ asks₂ => undone_ipRoute h hc hd e₁ e₂ free asks₁ asks₂
  connect := fun hu either =>
    disconnect_plugged h hc ((connect_plugs h.sound h.settled _ _ _ _).value hu) either

/-- The lines that switch an interface on and off. -/
theorem Undoes.lines (h : t.Undoes) {device key : String} {d : Device} {i : Interface}
    (hd : t.device device = .ok d) (mode : d.mode = .interfaceConfig) (host : d.isA .pc = false)
    (hk : d.context.interface = some key) (hi : d.interfaces.get? key = some i) (off : i.adminUp = false) :
    t.Undone (.command none device "no shutdown") (.command none device "shutdown") := by
  have asks₁ : Asks d "no shutdown" (.interface .noShutdown) := by
    unfold Asks request? platform
    rw [mode, host]
    rfl
  have asks₂ : Asks d "shutdown" (.interface .shutdown) := by
    unfold Asks request? platform
    rw [mode, host]
    rfl
  exact h.noShutdown none none hd hk hi off asks₁ asks₂

/-- Whatever was done to a lab, where OSPF is up to date what is done next can be taken back. -/
theorem reached_undoes (cs : List Change) (current : (reached cs).recomputeOspf = .ok (reached cs)) :
    (reached cs).Undoes :=
  (reached_orderly cs).undoes ((recomputeOspf_eq_self_iff (reached_orderly cs).sound).1 current)

/-- A router that speaks OSPF, cabled to one whose port is off. -/
def darkCable : List Change := [
  .addDevice "R1" "router" none, .addDevice "R2" "router" none, .connect "R1" "Gi0/0" "R2" "Gi0/0",
  .command none "R1" "enable", .command none "R1" "configure terminal", .command none "R1" "interface Gi0/0",
  .command none "R1" "no shutdown", .command none "R1" "ip address 10.0.0.1 255.255.255.0",
  .command none "R1" "router ospf 1", .command none "R1" "network 10.0.0.0 0.0.0.255 area 0",
  .command none "R2" "enable", .command none "R2" "configure terminal", .command none "R2" "interface Gi0/0"]

/-- The port is switched on, so that the cable comes up, and off again. -/
theorem darkCable_undoes :
    (reached darkCable).recomputeOspf = .ok (reached darkCable) ∧ (reached darkCable).Undoes ∧
      (reached darkCable).Undone (.command none "R2" "no shutdown") (.command none "R2" "shutdown") := by
  have lab : (reached darkCable).recomputeOspf = .ok (reached darkCable) ∧
      ((reached darkCable).devices.get? (deviceKey "R2")).any (fun d =>
        d.mode = .interfaceConfig ∧ d.isA .pc = false ∧ d.context.interface = some "GigabitEthernet0/0" ∧
          (d.interfaces.get? "GigabitEthernet0/0").any (!·.adminUp)) := by decide +kernel
  generalize darkCable = cs at lab ⊢
  obtain ⟨current, found⟩ := lab
  obtain ⟨d, hd, here⟩ := (Option.any_eq_true ..).1 found
  simp only [decide_eq_true_eq] at here
  obtain ⟨mode, host, hk, off⟩ := here
  obtain ⟨i, hi, off⟩ := (Option.any_eq_true ..).1 off
  have undoes := reached_undoes cs current
  exact ⟨current, undoes, undoes.lines (device_eq_ok.2 hd) mode host hk hi (by simpa using off)⟩

end Topology

end NetRack
