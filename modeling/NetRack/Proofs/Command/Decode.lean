import NetRack.Console
import NetRack.Proofs.Command.Exec
import NetRack.Proofs.Command.Global
import NetRack.Proofs.Command.Interface
import NetRack.Proofs.Command.Submode
import NetRack.Proofs.Grammar.Needs

/-!
# What a line asks for

What a line resolves to always is a command.  The arguments of the command are of the types that the
grammar says, and the console is in a mode in which the command is given, so all that the commands
rely on has been made sure of.
-/

namespace NetRack

open NodeLabel

/-! ## Arguments by kind -/

section Arguments

variable {device : Option Device} {trail : List NodeLabel} {r : ResolvedCommand}
  (h : r.arguments.Follow device trail) {name : String}

include h

theorem argument_value {check : NodeLabel → Bool} (hl : (recorded trail name).any check = true) :
    ∃ l v, check l = true ∧ l.Allows device v ∧ r.arguments.get? name = some v := by
  have follow := h name
  unfold recorded at hl
  cases hf : trail.find? (·.records name) with
  | none =>
    rw [hf] at hl
    cases hl
  | some l =>
    rw [hf] at hl follow
    obtain ⟨v, hget, hv⟩ := follow
    exact ⟨l, v, hl, hv, hget⟩

/-- What is recorded by a label that is no keyword has been read from a word. -/
theorem slot_value {check : NodeLabel → Bool} (hl : (recorded trail name).any check = true)
    (slots : ∀ token binds, check (keyword token binds) = false) :
    ∃ n kind low high raw v, check (argument n kind low high) = true ∧
      Argument.read kind low high device raw = .ok v ∧ r.arguments.get? name = some v := by
  obtain ⟨l, v, hcheck, hv, hget⟩ := argument_value h hl
  cases l with
  | keyword token binds =>
    rw [slots] at hcheck
    cases hcheck
  | argument n kind low high =>
    obtain ⟨raw, hread⟩ := hv
    exact ⟨n, kind, low, high, raw, v, hcheck, hread, hget⟩

theorem has_iff : r.has name = (recorded trail name).isSome := by
  have follow := h name
  unfold recorded ResolvedCommand.has
  rw [Table.contains_eq_isSome]
  cases hf : trail.find? (·.records name) with
  | none =>
    rw [hf] at follow
    rw [follow]
    rfl
  | some l =>
    rw [hf] at follow
    obtain ⟨v, hget, -⟩ := follow
    rw [hget]
    rfl

theorem text_yields (hl : (recorded trail name).any givesText = true) :
    Yields (fun _ => True) (r.text name) := by
  obtain ⟨l, v, hcheck, hv, hget⟩ := argument_value h hl
  unfold ResolvedCommand.text
  rw [hget]
  cases l with
  | keyword token binds =>
    rw [show v = .text token from hv]
    trivial
  | argument n kind low high =>
    obtain ⟨raw, hread⟩ := hv
    unfold Argument.read at hread
    cases kind with
    | word => cases hread; trivial
    | line => cases hread; trivial
    | mac => obtain ⟨s, -, rfl⟩ := map_eq_ok.1 hread; trivial
    | interface => obtain ⟨s, -, rfl⟩ := map_eq_ok.1 hread; trivial
    | _ => cases hcheck

theorem address_yields (hl : (recorded trail name).any givesAddress = true) :
    Yields (fun _ => True) (r.address name) := by
  obtain ⟨n, kind, low, high, raw, v, hcheck, hread, hget⟩ := slot_value h hl fun _ _ => rfl
  unfold ResolvedCommand.address
  rw [hget]
  unfold Argument.read at hread
  cases kind with
  | ipv4 => obtain ⟨a, -, rfl⟩ := map_eq_ok.1 hread; trivial
  | wildcard => obtain ⟨a, -, rfl⟩ := map_eq_ok.1 hread; trivial
  | mask => obtain ⟨a, -, rfl⟩ := map_eq_ok.1 hread; trivial
  | _ => cases hcheck

theorem mask_yields (hl : (recorded trail name).any givesMask = true) :
    Yields (fun a => a.isNetmask = true) (r.address name) := by
  obtain ⟨n, kind, low, high, raw, v, hcheck, hread, hget⟩ := slot_value h hl fun _ _ => rfl
  unfold ResolvedCommand.address
  rw [hget]
  obtain rfl := of_decide_eq_true hcheck
  obtain ⟨a, ha, rfl⟩ := map_eq_ok.1 hread
  exact (Argument.readMask_eq_ok.1 ha).2

/-- A route leaves by an interface that the device has. -/
theorem target_yields (hl : (recorded trail "next_hop").any givesTarget = true) :
    Yields (fun target => ∀ name, target = .exit name → device.all (fun d => d.interfaces.contains name) = true)
      r.routeTarget := by
  obtain ⟨n, kind, low, high, raw, v, hcheck, hread, hget⟩ := slot_value h hl fun _ _ => rfl
  unfold ResolvedCommand.routeTarget
  rw [hget]
  obtain rfl := of_decide_eq_true hcheck
  rcases Argument.readNextHop_eq_ok hread with ⟨a, rfl⟩ | ⟨name, rfl, -, known⟩
  · exact fun _ none => by cases none
  · rintro _ ⟨⟩
    exact known

theorem intWithin_yields {low high : Int} (hl : (recorded trail name).any (givesIntWithin low high) = true) :
    Yields (fun n => low ≤ n ∧ n ≤ high) (r.int name) := by
  obtain ⟨n, kind, l, u, raw, v, hcheck, hread, hget⟩ := slot_value h hl fun _ _ => rfl
  unfold ResolvedCommand.int
  rw [hget]
  unfold givesIntWithin at hcheck
  simp only [Bool.and_eq_true, decide_eq_true_eq] at hcheck
  obtain ⟨rfl, hlow, hhigh⟩ := hcheck
  obtain ⟨m, hm, rfl⟩ := map_eq_ok.1 hread
  obtain ⟨l, rfl, hlow⟩ := (Option.any_eq_true ..).1 hlow
  obtain ⟨u, rfl, hhigh⟩ := (Option.any_eq_true ..).1 hhigh
  obtain ⟨least, most⟩ := Argument.readInt_bounded hm
  exact ⟨Int.le_trans (of_decide_eq_true hlow) least, Int.le_trans most (of_decide_eq_true hhigh)⟩

theorem int_yields (hl : (recorded trail name).any givesInt = true) :
    Yields (fun _ => True) (r.int name) := by
  obtain ⟨n, kind, l, u, raw, v, hcheck, hread, hget⟩ := slot_value h hl fun _ _ => rfl
  unfold ResolvedCommand.int
  rw [hget]
  obtain rfl := of_decide_eq_true hcheck
  obtain ⟨m, -, rfl⟩ := map_eq_ok.1 hread
  trivial

theorem word_yields {α : Type} [Vocabulary α] (hl : (recorded trail name).any (givesWord α) = true) :
    Yields (fun _ => True) (r.word name α) := by
  obtain ⟨l, v, hcheck, hv, hget⟩ := argument_value h hl
  unfold ResolvedCommand.word ResolvedCommand.text
  rw [hget]
  cases l with
  | keyword token binds =>
    obtain rfl : v = .text token := hv
    simp only [ok_bind]
    replace hcheck : (Vocabulary.read? α token).isSome = true := hcheck
    cases hread : Vocabulary.read? α token with
    | none =>
      rw [hread] at hcheck
      cases hcheck
    | some a => trivial
  | argument n kind l u => cases hcheck

/-- An argument that may be absent can be read if it is there. -/
theorem optional_yields {α : Type} {get : String → Except Fault α} {P : α → Prop}
    (hget : (recorded trail name).isSome = true → Yields P (get name)) :
    Yields (fun o => ∀ a, o = some a → P a) (r.optional name get) := by
  unfold ResolvedCommand.optional
  rw [has_iff h]
  split
  · rename_i hsome
    exact (hget hsome).imp (fun a ha b hb => by cases hb; exact ha) |>.map
  · exact fun a ha => by cases ha

end Arguments

/-- An argument that is there is as is checked of one that may be absent. -/
theorem any_of_all {trail : List NodeLabel} {name : String} {check : NodeLabel → Bool}
    (hall : (recorded trail name).all check = true) (hsome : (recorded trail name).isSome = true) :
    (recorded trail name).any check = true := by
  cases hr : recorded trail name with
  | none =>
    rw [hr] at hsome
    cases hsome
  | some l =>
    rw [hr] at hall
    exact hall

theorem needed_beside {α : Type} {x : Option α} {needed : Bool} (h : (x.isNone || needed) = true)
    (hsome : x.isSome = true) : needed = true := by
  cases x with
  | none => cases hsome
  | some a => exact h

/-- The interface that an argument names is one that the device may have. -/
theorem interface_yields {d : Device} {trail : List NodeLabel} {r : ResolvedCommand} {name : String}
    (h : r.arguments.Follow (some d) trail) (hl : (recorded trail name).any givesInterface = true) :
    Yields (fun s => Argument.isPossibleInterface d s = .ok true) (r.text name) := by
  obtain ⟨n, kind, low, high, raw, v, hcheck, hread, hget⟩ := slot_value h hl fun _ _ => rfl
  unfold ResolvedCommand.text
  rw [hget]
  obtain rfl := of_decide_eq_true hcheck
  obtain ⟨s, hs, rfl⟩ := map_eq_ok.1 hread
  exact (Argument.readInterface_eq_ok.1 hs).2 d rfl

/-! ## Commands by group -/

/-- A verb that is not for end hosts is given on another device, in one of its modes. -/
theorem given_elsewhere {d : Device} {v : Verb} (hb : v.belongs d.mode (Console.platform d) = true)
    (hv : v.isForHosts = false) : d.isA .pc = false ∧ v.isGivenIn d.mode = true := by
  unfold Console.platform at hb
  cases hpc : d.isA .pc with
  | true =>
    rw [hpc] at hb
    exact absurd (hv.symm.trans hb) (by decide)
  | false =>
    rw [hpc] at hb
    exact ⟨rfl, hb⟩

/-- A verb that is given in no mode of another device is given on an end host. -/
theorem given_on_host {d : Device} {v : Verb} (hb : v.belongs d.mode (Console.platform d) = true)
    (hv : v.isGivenIn d.mode = false) : d.isA .pc = true := by
  unfold Console.platform at hb
  cases hpc : d.isA .pc with
  | true => rfl
  | false =>
    rw [hpc] at hb
    exact absurd (hv.symm.trans hb) (by decide)

/-- The commands of a submode are given in that mode. -/
theorem mode_of_group {d : Device} {α : Type} {g : Verb → Option α} {m : Mode}
    (hgroup : ∀ v x, g v = some x → v.isForHosts = false ∧ v.isGivenIn d.mode = decide (d.mode = m))
    {v : Verb} (hb : v.belongs d.mode (Console.platform d) = true) {x : α} (hx : g v = some x) :
    d.mode = m := by
  obtain ⟨hhosts, hmode⟩ := hgroup v x hx
  have given := (given_elsewhere hb hhosts).2
  rw [hmode] at given
  exact of_decide_eq_true given

section Groups

variable {d : Device} {trail : List NodeLabel} {r : ResolvedCommand} (h : r.arguments.Follow (some d) trail)

include h

/-- The arguments of one side of a rule may be anything. -/
theorem ruleEntry_yields (haction : (recorded trail "action").any (givesWord RuleAction) = true)
    (hprotocol : (recorded trail "protocol").all (givesWord Protocol) = true) :
    Yields (fun _ => True) r.ruleEntry := by
  unfold ResolvedCommand.ruleEntry
  refine (word_yields h haction).bind fun _ _ => ?_
  exact (optional_yields h fun hsome => word_yields h (any_of_all hprotocol hsome)).bind fun _ _ => trivial

theorem filterSide_yields (hl : (recorded trail "direction").any givesText = true) :
    Yields (fun _ => True) r.filterSide :=
  (text_yields h hl).bind fun _ _ => trivial

variable {v : Verb} (hs : v.isServed trail = true) (hb : v.belongs d.mode (Console.platform d) = true)

include hs hb

theorem execCommand_admissible {x : Except Fault ExecCommand} (hx : r.execCommand? v = some x) :
    Yields (·.Admissible d) x := by
  cases v with
  | ping =>
    cases hx
    obtain ⟨htarget, hsource⟩ := Bool.and_eq_true_iff.1 hs
    refine (text_yields h htarget).bind fun _ _ => ?_
    exact (optional_yields h fun hsome => text_yields h (any_of_all hsource hsome)).bind fun _ _ => trivial
  | traceroute =>
    cases hx
    exact ((text_yields h hs).imp fun _ _ => trivial).map
  | enable =>
    cases hx
    obtain ⟨hpc, hmode⟩ := given_elsewhere hb rfl
    replace hmode : (!d.mode.isConfig) = true := hmode
    exact ⟨by simpa using hmode, hpc⟩
  | endConfig =>
    cases hx
    exact (given_elsewhere hb rfl).2
  | disable =>
    cases hx
    have hmode : decide (d.mode = .privileged) = true := (given_elsewhere hb rfl).2
    show d.mode = .privileged
    exact of_decide_eq_true hmode
  | configureTerminal =>
    cases hx
    have hmode : decide (d.mode = .privileged) = true := (given_elsewhere hb rfl).2
    show d.mode = .privileged
    exact of_decide_eq_true hmode
  | _ => cases hx <;> trivial

theorem globalCommand_admissible {x : Except Fault GlobalCommand} (hx : r.globalCommand? v = some x) :
    Yields (fun c => d.mode.isConfig = true ∧ c.Admissible d) x := by
  have other : v.isForHosts = false := by
    cases v <;> first | rfl | cases hx
  have given := (given_elsewhere hb other).2
  -- Some of the commands enter a submode from any configuration mode, the others are global only.
  have config : d.mode.isConfig = true := by
    revert given
    cases v <;> first
      | exact fun h => h
      | (cases hx; done)
      | (intro hg
         have hmode : d.mode = .globalConfig := of_decide_eq_true hg
         rw [hmode]
         rfl)
  refine Meets.imp ?_ fun c hc => ⟨config, hc⟩
  have addressed {name : String} (hl : (recorded trail name).any givesAddress = true) :
      Yields (fun _ => True) (r.address name) := address_yields h hl
  have global (hg : decide (d.mode = .globalConfig) = true) : d.mode = .globalConfig := of_decide_eq_true hg
  cases v with
  | hostname => cases hx; exact ((text_yields h hs).imp fun _ _ => trivial).map
  | enableSecret => cases hx; exact ((text_yields h hs).imp fun _ _ => trivial).map
  | bannerMotd => cases hx; exact ((text_yields h hs).imp fun _ _ => trivial).map
  | domainName => cases hx; exact ((text_yields h hs).imp fun _ _ => trivial).map
  | noDomainLookup => cases hx; trivial
  | ipRouting => cases hx; trivial
  | ipRoute =>
    cases hx
    obtain ⟨hs, hdistance⟩ := Bool.and_eq_true_iff.1 hs
    obtain ⟨hs, htarget⟩ := Bool.and_eq_true_iff.1 hs
    obtain ⟨hnetwork, hmask⟩ := Bool.and_eq_true_iff.1 hs
    refine (optional_yields h fun hsome => intWithin_yields h (any_of_all hdistance hsome)).bind
      fun distance hd => ?_
    refine (addressed hnetwork).bind fun _ _ => (addressed hmask).bind fun _ _ => ?_
    refine (target_yields h htarget).bind fun _ _ => ?_
    show 1 ≤ distance.getD 1
    cases distance with
    | none => exact Int.le_refl 1
    | some n => exact (hd n rfl).1
  | noIpRoute =>
    cases hx
    obtain ⟨hs, htarget⟩ := Bool.and_eq_true_iff.1 hs
    obtain ⟨hnetwork, hmask⟩ := Bool.and_eq_true_iff.1 hs
    refine (addressed hnetwork).bind fun _ _ => (addressed hmask).bind fun _ _ => ?_
    exact (target_yields h htarget).bind fun _ _ => trivial
  | interface => cases hx; exact ((interface_yields h hs).imp fun _ hi => hi).map
  | routerOspf => cases hx; exact ((int_yields h hs).imp fun _ _ => trivial).map
  | routerRip => cases hx; trivial
  | noRouterOspf =>
    cases hx
    refine Meets.map ?_
    exact (int_yields h hs).imp fun _ _ => global given
  | noRouterRip => cases hx; exact global given
  | line =>
    cases hx
    obtain ⟨hs, hlast⟩ := Bool.and_eq_true_iff.1 hs
    obtain ⟨hfirst, htype⟩ := Bool.and_eq_true_iff.1 hs
    refine Meets.map ?_
    refine (int_yields h hfirst).bind fun _ _ => (text_yields h htype).bind fun _ _ => ?_
    split
    · trivial
    · exact (optional_yields h fun hsome => int_yields h (any_of_all hlast hsome)).bind fun _ _ => trivial
  | vlan => cases hx; exact ((int_yields h hs).imp fun _ _ => trivial).map
  | noVlan =>
    cases hx
    refine Meets.map ?_
    exact (int_yields h hs).imp fun _ _ => global given
  | accessListNamed =>
    cases hx
    obtain ⟨hkind, hname⟩ := Bool.and_eq_true_iff.1 hs
    exact (word_yields h hkind).bind fun _ _ => (text_yields h hname).bind fun _ _ => trivial
  | accessListNumbered =>
    cases hx
    obtain ⟨hs, hprotocol⟩ := Bool.and_eq_true_iff.1 hs
    obtain ⟨hnumber, haction⟩ := Bool.and_eq_true_iff.1 hs
    refine (int_yields h hnumber).bind fun _ _ => ?_
    exact (ruleEntry_yields h haction hprotocol).bind fun _ _ => trivial
  | noAccessList =>
    cases hx
    obtain ⟨hname, hnumber⟩ := Bool.and_eq_true_iff.1 hs
    refine Meets.map ?_
    unfold ResolvedCommand.listName
    rw [has_iff h]
    split
    · rename_i hsome
      exact (text_yields h (any_of_all hname hsome)).imp fun _ _ => global given
    · rename_i hnone
      rw [Bool.not_eq_true] at hnone
      rw [hnone, Bool.false_or] at hnumber
      refine Meets.map ?_
      exact (int_yields h hnumber).imp fun _ _ => global given
  | dhcpPool => cases hx; exact ((text_yields h hs).imp fun _ _ => trivial).map
  | dhcpExcluded =>
    cases hx
    obtain ⟨hlow, hhigh⟩ := Bool.and_eq_true_iff.1 hs
    refine (addressed hlow).bind fun _ _ => ?_
    exact (optional_yields h fun hsome => addressed (any_of_all hhigh hsome)).bind fun _ _ => trivial
  | natStatic =>
    cases hx
    obtain ⟨hlocal, hglobal⟩ := Bool.and_eq_true_iff.1 hs
    exact (addressed hlocal).bind fun _ _ => (addressed hglobal).bind fun _ _ => trivial
  | natDynamic =>
    cases hx
    obtain ⟨hs, hpool⟩ := Bool.and_eq_true_iff.1 hs
    obtain ⟨hacl, hinterface⟩ := Bool.and_eq_true_iff.1 hs
    refine (text_yields h hacl).bind fun _ _ => ?_
    refine (optional_yields h fun hsome => text_yields h (any_of_all hinterface hsome)).bind fun _ _ => ?_
    exact (optional_yields h fun hsome => text_yields h (any_of_all hpool hsome)).bind fun _ _ => trivial
  | natPool =>
    cases hx
    obtain ⟨hs, hnetmask⟩ := Bool.and_eq_true_iff.1 hs
    obtain ⟨hs, hend⟩ := Bool.and_eq_true_iff.1 hs
    obtain ⟨hpool, hstart⟩ := Bool.and_eq_true_iff.1 hs
    refine (text_yields h hpool).bind fun _ _ => (addressed hstart).bind fun _ _ => ?_
    exact (addressed hend).bind fun _ _ => (addressed hnetmask).bind fun _ _ => trivial
  | stpMode => cases hx; exact ((word_yields h hs).imp fun _ _ => trivial).map
  | stpVlanPriority =>
    cases hx
    obtain ⟨hvlan, hpriority⟩ := Bool.and_eq_true_iff.1 hs
    exact (int_yields h hvlan).bind fun _ _ => (int_yields h hpriority).bind fun _ _ => trivial
  | _ => cases hx

theorem interfaceCommand_admissible {x : Except Fault InterfaceCommand}
    (hx : r.interfaceCommand? v = some x) :
    Yields (fun c => d.mode = .interfaceConfig ∧ c.Admissible) x := by
  have mode : d.mode = .interfaceConfig := by
    refine mode_of_group (g := r.interfaceCommand?) (fun v x hx => ?_) hb hx
    cases v <;> first | exact ⟨rfl, rfl⟩ | cases hx
  refine Meets.imp ?_ fun c hc => ⟨mode, hc⟩
  cases v with
  | description => cases hx; exact ((text_yields h hs).imp fun _ _ => trivial).map
  | ipAddress =>
    cases hx
    obtain ⟨hip, hmask⟩ := Bool.and_eq_true_iff.1 hs
    exact (address_yields h hip).bind fun _ _ => (mask_yields h hmask).bind fun _ hm => hm
  | noIpAddress =>
    cases hx
    obtain ⟨hip, hmask⟩ := Bool.and_eq_true_iff.1 hs
    refine (optional_yields (P := fun _ => True) h fun hsome => ?_).bind fun _ _ => trivial
    refine (address_yields h (any_of_all hip hsome)).bind fun _ _ => ?_
    exact (address_yields h (needed_beside hmask hsome)).bind fun _ _ => trivial
  | accessGroup =>
    cases hx
    obtain ⟨hacl, hdirection⟩ := Bool.and_eq_true_iff.1 hs
    exact (text_yields h hacl).bind fun _ _ => (filterSide_yields h hdirection).bind fun _ _ => trivial
  | noAccessGroup =>
    cases hx
    obtain ⟨hacl, hdirection⟩ := Bool.and_eq_true_iff.1 hs
    exact (text_yields h hacl).bind fun _ _ => (filterSide_yields h hdirection).bind fun _ _ => trivial
  | natDirection => cases hx; exact ((word_yields h hs).imp fun _ _ => trivial).map
  | noNatDirection => cases hx; exact ((word_yields h hs).imp fun _ _ => trivial).map
  | switchportMode => cases hx; exact ((word_yields h hs).imp fun _ _ => trivial).map
  | switchportAccessVlan => cases hx; exact ((int_yields h hs).imp fun _ _ => trivial).map
  | trunkNative => cases hx; exact ((int_yields h hs).imp fun _ _ => trivial).map
  | portSecurity =>
    cases hx
    obtain ⟨hs, hmac⟩ := Bool.and_eq_true_iff.1 hs
    obtain ⟨hmaximum, hviolation⟩ := Bool.and_eq_true_iff.1 hs
    refine Meets.map ?_
    unfold ResolvedCommand.securityChange
    refine Meets.ite (fun hsome => ?_) fun _ => Meets.ite (fun hsome => ?_) fun _ => ?_
    · rw [has_iff h] at hsome
      exact ((int_yields h (any_of_all hmaximum hsome)).imp fun _ _ => trivial).map
    · rw [has_iff h] at hsome
      exact ((word_yields h (any_of_all hviolation hsome)).imp fun _ _ => trivial).map
    · refine Meets.ite (fun _ => trivial) fun _ => Meets.ite (fun hsome => ?_) fun _ => trivial
      rw [has_iff h] at hsome
      exact ((text_yields h (any_of_all hmac hsome)).imp fun _ _ => trivial).map
  | encapsulation => cases hx; exact ((int_yields h hs).imp fun _ _ => trivial).map
  | channelGroup =>
    cases hx
    obtain ⟨hgroup, hmode⟩ := Bool.and_eq_true_iff.1 hs
    exact (intWithin_yields h hgroup).bind fun _ hg => (word_yields h hmode).bind fun _ _ => hg
  | _ => cases hx <;> trivial

theorem routerCommand_admissible {x : Except Fault RouterCommand} (hx : r.routerCommand? v = some x) :
    Yields (fun _ => d.mode = .routerConfig) x := by
  have mode : d.mode = .routerConfig := by
    refine mode_of_group (g := r.routerCommand?) (fun v x hx => ?_) hb hx
    cases v <;> first | exact ⟨rfl, rfl⟩ | cases hx
  refine Meets.imp (P := fun _ => True) ?_ fun _ _ => mode
  cases v with
  | ospfNetwork =>
    cases hx
    obtain ⟨hs, harea⟩ := Bool.and_eq_true_iff.1 hs
    obtain ⟨hnetwork, hwildcard⟩ := Bool.and_eq_true_iff.1 hs
    refine (address_yields h hnetwork).bind fun _ _ => (address_yields h hwildcard).bind fun _ _ => ?_
    exact (int_yields h harea).bind fun _ _ => trivial
  | ripNetwork => cases hx; exact ((address_yields h hs).imp fun _ _ => trivial).map
  | noNetwork =>
    cases hx
    obtain ⟨hs, hwildcard⟩ := Bool.and_eq_true_iff.1 hs
    obtain ⟨hnetwork, harea⟩ := Bool.and_eq_true_iff.1 hs
    refine (optional_yields (P := fun _ => True) h fun hsome => ?_).bind fun _ _ =>
      (address_yields h hnetwork).bind fun _ _ => trivial
    refine (address_yields h (needed_beside hwildcard hsome)).bind fun _ _ => ?_
    exact (int_yields h (any_of_all harea hsome)).bind fun _ _ => trivial
  | routerId => cases hx; exact ((address_yields h hs).imp fun _ _ => trivial).map
  | ripVersion => cases hx; exact ((int_yields h hs).imp fun _ _ => trivial).map
  | passiveInterface => cases hx; exact ((text_yields h hs).imp fun _ _ => trivial).map
  | _ => cases hx <;> trivial

theorem lineCommand_admissible {x : Except Fault LineCommand} (hx : r.lineCommand? v = some x) :
    Yields (fun _ => d.mode = .lineConfig) x := by
  have mode : d.mode = .lineConfig := by
    refine mode_of_group (g := r.lineCommand?) (fun v x hx => ?_) hb hx
    cases v <;> first | exact ⟨rfl, rfl⟩ | cases hx
  refine Meets.imp (P := fun _ => True) ?_ fun _ _ => mode
  cases v with
  | linePassword => cases hx; exact ((text_yields h hs).imp fun _ _ => trivial).map
  | transportInput => cases hx; exact ((word_yields h hs).imp fun _ _ => trivial).map
  | execTimeout =>
    cases hx
    obtain ⟨hminutes, hseconds⟩ := Bool.and_eq_true_iff.1 hs
    refine (int_yields h hminutes).bind fun _ _ => ?_
    exact (optional_yields h fun hsome => int_yields h (any_of_all hseconds hsome)).bind fun _ _ => trivial
  | _ => cases hx <;> trivial

theorem poolCommand_admissible {x : Except Fault PoolCommand} (hx : r.poolCommand? v = some x) :
    Yields (fun _ => d.mode = .dhcpConfig) x := by
  have mode : d.mode = .dhcpConfig := by
    refine mode_of_group (g := r.poolCommand?) (fun v x hx => ?_) hb hx
    cases v <;> first | exact ⟨rfl, rfl⟩ | cases hx
  refine Meets.imp (P := fun _ => True) ?_ fun _ _ => mode
  cases v with
  | dhcpNetwork =>
    cases hx
    obtain ⟨hnetwork, hmask⟩ := Bool.and_eq_true_iff.1 hs
    exact (address_yields h hnetwork).bind fun _ _ => (address_yields h hmask).bind fun _ _ => trivial
  | dhcpDefaultRouter => cases hx; exact ((address_yields h hs).imp fun _ _ => trivial).map
  | dhcpDnsServer => cases hx; exact ((address_yields h hs).imp fun _ _ => trivial).map
  | dhcpDomainName => cases hx; exact ((text_yields h hs).imp fun _ _ => trivial).map
  | dhcpLease => cases hx; exact ((int_yields h hs).imp fun _ _ => trivial).map
  | _ => cases hx

end Groups

/-! ## Requests -/

/-- What a console makes sure of before it gives a command to a device. -/
def Command.Admissible (d : Device) : Command → Prop
  | .exec c => c.Admissible d
  | .global c => d.mode.isConfig = true ∧ c.Admissible d
  | .interface c => d.mode = .interfaceConfig ∧ c.Admissible
  | .router _ => d.mode = .routerConfig
  | .line _ => d.mode = .lineConfig
  | .vlanName _ => d.mode = .vlanConfig
  | .aclRule _ => d.mode = .aclConfig
  | .pool _ => d.mode = .dhcpConfig
  | .host c => d.isA .pc = true ∧ c.Admissible

/-- What a console makes sure of before it does what a line asks for. -/
def Request.Admissible (d : Device) : Request → Prop
  | .command c => c.Admissible d
  | .runExec _ _ => d.mode.isConfig = true

section Requests

variable {d : Device} {trail : List NodeLabel} {r : ResolvedCommand} (h : r.arguments.Follow (some d) trail)
  (hs : r.verb.isServed trail = true) (hb : r.verb.belongs d.mode (Console.platform d) = true)

include h hs hb

theorem otherCommand_admissible {x : Except Fault Command} (hx : r.otherCommand? r.verb = some x) :
    Yields (·.Admissible d) x := by
  generalize r.verb = v at hs hb hx
  cases v with
  | vlanName =>
    cases hx
    have mode : d.mode = .vlanConfig := of_decide_eq_true (given_elsewhere hb rfl).2
    refine Meets.map ?_
    exact (text_yields h hs).imp fun _ _ => mode
  | aclRule =>
    cases hx
    have mode : d.mode = .aclConfig := of_decide_eq_true (given_elsewhere hb rfl).2
    obtain ⟨haction, hprotocol⟩ := Bool.and_eq_true_iff.1 hs
    refine Meets.map ?_
    exact (ruleEntry_yields h haction hprotocol).imp fun _ _ => mode
  | hostIp =>
    cases hx
    obtain ⟨hs, hgateway⟩ := Bool.and_eq_true_iff.1 hs
    obtain ⟨hip, hmask⟩ := Bool.and_eq_true_iff.1 hs
    refine (address_yields h hip).bind fun _ _ => (mask_yields h hmask).bind fun _ hm => ?_
    exact (optional_yields h fun hsome => address_yields h (any_of_all hgateway hsome)).bind
      fun _ _ => ⟨given_on_host hb rfl, hm⟩
  | hostIpconfig => cases hx; exact ⟨given_on_host hb rfl, trivial⟩
  | _ => cases hx

/-- A resolved line that does not run another is a command. -/
theorem command_admissible (hv : r.verb ≠ .runExec) : Yields (·.Admissible d) r.command := by
  unfold ResolvedCommand.command
  dsimp only
  cases hexec : r.execCommand? r.verb with
  | some x =>
    show Yields (·.Admissible d) (Command.exec <$> x)
    refine Meets.map ?_
    exact execCommand_admissible h hs hb hexec
  | none =>
  cases hglobal : r.globalCommand? r.verb with
  | some x =>
    show Yields (·.Admissible d) (Command.global <$> x)
    refine Meets.map ?_
    exact globalCommand_admissible h hs hb hglobal
  | none =>
  cases hinterface : r.interfaceCommand? r.verb with
  | some x =>
    show Yields (·.Admissible d) (Command.interface <$> x)
    refine Meets.map ?_
    exact interfaceCommand_admissible h hs hb hinterface
  | none =>
  cases hrouter : r.routerCommand? r.verb with
  | some x =>
    show Yields (·.Admissible d) (Command.router <$> x)
    refine Meets.map ?_
    exact routerCommand_admissible h hs hb hrouter
  | none =>
  cases hline : r.lineCommand? r.verb with
  | some x =>
    show Yields (·.Admissible d) (Command.line <$> x)
    refine Meets.map ?_
    exact lineCommand_admissible h hs hb hline
  | none =>
  cases hpool : r.poolCommand? r.verb with
  | some x =>
    show Yields (·.Admissible d) (Command.pool <$> x)
    refine Meets.map ?_
    exact poolCommand_admissible h hs hb hpool
  | none =>
  cases hother : r.otherCommand? r.verb with
  | some x => exact otherCommand_admissible h hs hb hother
  | none =>
    exfalso
    revert hv hexec hglobal hinterface hrouter hline hpool hother
    generalize r.verb = v
    cases v <;> intros <;> contradiction

theorem request_admissible : Yields (·.Admissible d) r.request := by
  unfold ResolvedCommand.request
  split
  · rename_i hv
    rw [hv] at hs hb
    have config : d.mode.isConfig = true := (given_elsewhere hb rfl).2
    exact (text_yields h hs).bind fun _ _ => config
  · rename_i hv
    refine Meets.map ?_
    exact command_admissible h hs hb hv

end Requests

namespace Console

variable {d : Device} {line : String} {mode : Mode} {offset : Int}

/-- A line does not resolve to an end but for a numeral with too many digits, and what it asks for is
admissible. -/
theorem request?_meets (d : Device) (line : String) (offset : Int) :
    Meets (fun f => f.isPolite ∨ (f = .fault .badNumber ∧
        MeetsOverlong (some d) (Grammar.root d.mode (platform d)) (Text.words line)))
      (fun q => ∀ r, q = some r → r.Admissible d) (request? d line d.mode offset) := by
  unfold request?
  cases hr : resolve line (Grammar.root d.mode (platform d)) (some d) offset with
  | error f =>
    obtain ⟨hlong, rfl⟩ := resolve_error_iff.1 hr
    exact Or.inr ⟨rfl, hlong⟩
  | ok x =>
    cases x with
    | none => exact fun r hr => by cases hr
    | some x =>
      cases x with
      | error e => exact Or.inl trivial
      | ok r =>
        obtain ⟨e, he, hverb, hargs⟩ := resolve_follows hr
        obtain ⟨hs, hb⟩ := root_serves he
        rw [← hverb] at hs hb
        refine (request_admissible hargs hs hb).lift.bind fun q hq => ?_
        intro q' hq'
        cases hq'
        exact hq

/-- A line of a configuration mode whose first word is `do` asks for another line to be run. -/
theorem request?_do (hpc : d.isA .pc = false) (hc : d.mode.isConfig = true) {word : Text.Word}
    {rest : List Text.Word} (hw : Text.words line = word :: rest) (hdo : Text.lower word.text = "do")
    {q : Request} (hq : request? d line d.mode offset = .ok (some q)) :
    ∃ payload column, q = .runExec payload column := by
  have platform : platform d = .ios := by
    unfold Console.platform
    rw [hpc]
    rfl
  obtain ⟨child, binds, hs, hl, hends⟩ := Node.select_of_reserves (ofMode_reserves hc) hdo
  unfold request? at hq
  rw [platform] at hq
  obtain ⟨x, hx, hq⟩ := bind_eq_ok.1 hq
  have hx := liftM_eq_ok.1 hx
  cases x with
  | none => cases hq
  | some x =>
    cases x with
    | error e => cases hq
    | ok r =>
      obtain ⟨e, he, hverb⟩ := resolve_beyond hx hw hs hl
      obtain ⟨q', hq', heq⟩ := bind_eq_ok.1 hq
      cases heq
      have hq' := liftM_eq_ok.1 hq'
      unfold ResolvedCommand.request at hq'
      rw [if_pos (hverb.trans (hends e he))] at hq'
      obtain ⟨payload, -, heq⟩ := bind_eq_ok.1 hq'
      cases heq
      exact ⟨payload, _, rfl⟩

/-- A line with a numeral that has too many digits, where it is looked at, is given up. -/
theorem request?_overlong (h : MeetsOverlong (some d) (Grammar.root mode (platform d)) (Text.words line)) :
    request? d line mode offset = .error (.fault .badNumber) := by
  unfold request?
  rw [resolve_error_iff.2 ⟨h, rfl⟩]
  rfl

end Console

end NetRack
