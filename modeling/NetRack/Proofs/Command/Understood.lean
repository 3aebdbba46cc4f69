import NetRack.Console
import NetRack.Proofs.Result

/-!
# Commands are understood

A line fails to resolve before it is known what it asks for.  Once a command is known, the device may refuse it and
something may go wrong inside, but no command fails for a line that does not resolve.  The rules follow the shape of
a computation, and each command is taken apart once.
-/

namespace NetRack

open Outcome

variable {α β : Type}

/-- A failure other than that of a line that does not resolve. -/
def Failure.isResolved : Failure → Prop
  | .unresolved _ => False
  | _ => True

/-- The computation does not fail for a line that does not resolve. -/
abbrev Understood (x : Except Failure α) : Prop := Meets Failure.isResolved (fun _ => True) x

/-! ## Rules -/

namespace Understood

theorem ok (a : α) : Understood (.ok a) := trivial

theorem bind {x : Except Failure β} {f : β → Except Failure α} (hx : Understood x) (hf : ∀ b, Understood (f b)) :
    Understood (x >>= f) := Meets.bind hx fun b _ => hf b

theorem lift (x : Except Fault α) : Understood (liftM x : Except Failure α) := by
  cases x <;> trivial

/-- A fault inside what comes first is no matter of the line. -/
theorem lifted (x : Except Fault β) {f : β → Except Failure α} (hf : ∀ b, Understood (f b)) :
    Understood ((liftM x : Except Failure β) >>= f) := (lift x).bind hf

theorem refuse (r : Refusal) : Understood (Outcome.refuse r : Except Failure α) := trivial

theorem refuseIf (c : Bool) (r : Refusal) : Understood (Outcome.refuseIf c r) := by
  cases c <;> trivial

/-- A command that is refused under a condition. -/
theorem checked (c : Bool) (r : Refusal) {f : Unit → Except Failure α} (hf : ∀ u, Understood (f u)) :
    Understood (Outcome.refuseIf c r >>= f) := (refuseIf c r).bind hf

theorem ite {c : Prop} [Decidable c] {x y : Except Failure α} (hx : Understood x) (hy : Understood y) :
    Understood (if c then x else y) := Meets.ite (fun _ => hx) fun _ => hy

end Understood

variable {t : Topology} {d : Device}

/-! ## Exec commands -/

theorem render_understood (item : ShowItem) : Understood (item.render t d) := by
  have onSwitch (x : Except Fault String) : Understood (do requireSwitch d; (liftM x : Except Failure String)) :=
    .checked _ _ fun _ => .lift x
  cases item with
  | startupConfig => exact .ok _
  | ospfNeighbors => exact .ok _
  | natTranslations => exact .ok _
  | vlanBrief => exact onSwitch _
  | interfacesTrunk => exact onSwitch _
  | interfacesStatus => exact onSwitch _
  | portSecurity name =>
    cases name with
    | none => exact onSwitch _
    | some name =>
      refine .checked _ _ fun _ => ?_
      cases d.interfaces.get? name with
      | none => exact .refuse _
      | some i => exact .ok _
  | _ => exact .lift _

theorem targetAddress_understood (target : String) : Understood (ExecCommand.targetAddress t target) := by
  refine .lifted _ fun found => ?_
  cases found with
  | none => exact .refuse _
  | some ip => exact .ok _

theorem checkSource_understood (source : Option String) : Understood (ExecCommand.checkSource d source) := by
  cases source with
  | none => exact .ok _
  | some name => exact .refuseIf _ _

theorem execCommand_understood (c : ExecCommand) : Understood (c.apply t d) := by
  cases c with
  | enable => exact .ok _
  | disable => exact .ok _
  | endConfig => exact .ok _
  | exit => exact .ite (.ok _) (.lifted _ fun _ => .ok _)
  | configureTerminal => exact .lifted _ fun _ => .ok _
  | copyRunStart => exact .lifted _ fun _ => .ok _
  | ping target source =>
    exact (targetAddress_understood target).bind fun _ => (checkSource_understood source).bind fun _ =>
      .lifted _ fun _ => .ok _
  | traceroute target => exact (targetAddress_understood target).bind fun _ => .lifted _ fun _ => .ok _
  | display item => exact (render_understood item).bind fun _ => .ok _

/-! ## Global commands -/

theorem requireNetwork_understood (base mask : Address) : Understood (requireNetwork base mask) := by
  unfold requireNetwork
  split
  · exact .ok _
  · exact .refuse _

/-- A command that enters a mode and does not fail before. -/
theorem entering_understood (x : Except Fault Device) (f : Device → Outcome) :
    Understood (do return f (← x) : Except Failure Outcome) := .lifted x fun _ => .ok _

theorem configureOspf_understood (process : Int) : Understood (configureOspf d process) := by
  refine .checked _ _ fun _ => ?_
  dsimp only
  split
  · split
    · exact entering_understood _ _
    · exact .refuse _
  · exact entering_understood _ _

theorem lineName_understood (range : LineRange) : Understood (lineName range) := by
  unfold lineName
  split
  · exact .ok _
  · exact .ok _
  · exact .ite (.refuse _) (.ok _)

theorem append_understood (l : AccessList) (e : RuleEntry) : Understood (l.append e) :=
  .checked _ _ fun _ => .checked _ _ fun _ => .ok _

theorem configureList_understood (kind : AclKind) (name : String) : Understood (configureList d kind name) := by
  unfold configureList
  dsimp only
  split
  · exact .checked _ _ fun _ => entering_understood _ _
  · exact entering_understood _ _

theorem addStaticNat_understood (localAddress globalAddress : Address) :
    Understood (addStaticNat d localAddress globalAddress) := by
  unfold addStaticNat
  dsimp only
  split
  · exact .refuse _
  · exact .ite (.ok _) (.ok _)

theorem addDynamicNat_understood (entry : NatDynamic) : Understood (addDynamicNat d entry) := by
  unfold addDynamicNat
  dsimp only
  split
  · exact .checked _ _ fun _ => .ok _
  · exact .ok _

theorem globalCommand_understood (c : GlobalCommand) : Understood (c.apply d) := by
  cases c with
  | hostname name => exact .checked _ _ fun _ => .ok _
  | ipRoute network mask target distance =>
    exact (requireNetwork_understood network mask).bind fun _ => .lifted _ fun _ => .checked _ _ fun _ =>
      .lifted _ fun _ => .ok _
  | noIpRoute network mask target =>
    exact (requireNetwork_understood network mask).bind fun _ => .checked _ _ fun _ => .ok _
  | interface name =>
    exact .ite (entering_understood _ _) (.lifted _ fun _ => entering_understood _ _)
  | routerOspf process => exact configureOspf_understood process
  | routerRip => exact .checked _ _ fun _ => entering_understood _ _
  | noRouterOspf process => exact .checked _ _ fun _ => .ok _
  | line range => exact (lineName_understood range).bind fun _ => entering_understood _ _
  | vlan id => exact .checked _ _ fun _ => entering_understood _ _
  | noVlan id =>
    exact .checked _ _ fun _ => .checked _ _ fun _ => .checked _ _ fun _ => .lifted _ fun _ => .checked _ _ fun _ => .ok _
  | accessListNamed kind name => exact configureList_understood kind name
  | accessListNumbered number rule => exact (append_understood _ rule).bind fun _ => .ok _
  | dhcpPool name => exact entering_understood _ _
  | dhcpExcluded low high => exact .checked _ _ fun _ => .ite (.ok _) (.ok _)
  | natStatic localAddress globalAddress => exact addStaticNat_understood localAddress globalAddress
  | natDynamic acl egress pool overload => exact addDynamicNat_understood _
  | natPool name first last netmask => exact .checked _ _ fun _ => .ok _
  | stpMode mode => exact .checked _ _ fun _ => .ok _
  | stpVlanPriority id priority => exact .checked _ _ fun _ => .checked _ _ fun _ => .ok _
  | _ => exact .ok _

/-! ## Interface commands -/

theorem currentInterface_understood (d : Device) : Understood (currentInterface d) := by
  unfold currentInterface
  dsimp only
  split <;> trivial

theorem currentSwitchport_understood (d : Device) : Understood (currentSwitchport d) :=
  .checked _ _ fun _ => (currentInterface_understood d).bind fun _ => .lifted _ fun _ => .checked _ _ fun _ => .ok _

theorem setAddress_understood (ip mask : Address) : Understood (setAddress d ip mask) := by
  refine (currentInterface_understood d).bind fun e => ?_
  have addressable : Understood (checkAddressable d e.2) :=
    .lifted _ fun _ => .checked _ _ fun _ => .refuseIf _ _
  refine addressable.bind fun _ => .lifted _ fun n => .checked _ _ fun _ => .lifted _ fun _ => .lifted _ fun found => ?_
  cases found with
  | none => exact .ok _
  | some other => exact .refuse _

theorem securityChange_understood (name : String) (ps : PortSecurity) (change : SecurityChange) :
    Understood (change.apply name ps) := by
  cases change with
  | maximum count => exact .checked _ _ fun _ => .ok _
  | station address => exact .ite (.ok _) (.checked _ _ fun _ => .ok _)
  | _ => exact .ok _

theorem interfaceCommand_understood (c : InterfaceCommand) : Understood (c.apply d) := by
  have here {f : String × Interface → Except Failure Outcome} (hf : ∀ e, Understood (f e)) :
      Understood (currentInterface d >>= f) := (currentInterface_understood d).bind hf
  have port {f : String × Interface → Except Failure Outcome} (hf : ∀ e, Understood (f e)) :
      Understood (currentSwitchport d >>= f) := (currentSwitchport_understood d).bind hf
  cases c with
  | ipAddress ip mask => exact setAddress_understood ip mask
  | noIpAddress address => exact here fun _ => .checked _ _ fun _ => .ok _
  | accessGroup acl side => exact here fun _ => .checked _ _ fun _ => .ok _
  | switchportMode mode => exact port fun _ => .ok _
  | switchportAccessVlan vlan => exact port fun _ => .ok _
  | trunkAllowed change => exact port fun _ => .ok _
  | trunkNative vlan => exact port fun _ => .ok _
  | portSecurity change =>
    exact port fun _ => .checked _ _ fun _ => (securityChange_understood _ _ change).bind fun _ => .ok _
  | noPortSecurity => exact port fun _ => .ok _
  | encapsulation vlan =>
    exact here fun _ => .lifted _ fun _ => .checked _ _ fun _ => .lifted _ fun _ => .lifted _ fun _ =>
      .checked _ _ fun _ => .ok _
  | channelGroup group mode =>
    exact here fun _ => .lifted _ fun _ => .checked _ _ fun _ => .lifted _ fun _ => .lifted _ fun _ =>
      .checked _ _ fun _ => .ok _
  | portfast => exact port fun _ => .ok _
  | noPortfast => exact port fun _ => .ok _
  | _ => exact here fun _ => .ok _

/-! ## Commands of other modes -/

theorem lostObject_understood (mode : Mode) : Understood (lostObject mode : Except Failure α) := trivial

theorem currentOspf?_understood (d : Device) : Understood (currentOspf? d) := by
  refine .ite (.ok _) ?_
  split
  · exact .ok _
  · exact lostObject_understood _

theorem currentRip?_understood (d : Device) : Understood (currentRip? d) := by
  refine .ite (.ok _) ?_
  split
  · exact .ok _
  · exact lostObject_understood _

theorem currentOspf_understood (d : Device) : Understood (currentOspf d) := by
  refine (currentOspf?_understood d).bind fun found => ?_
  cases found with
  | none => exact .refuse _
  | some c => exact .ok _

theorem currentRip_understood (d : Device) (r : Refusal) : Understood (currentRip d r) := by
  refine (currentRip?_understood d).bind fun found => ?_
  cases found with
  | none => exact .refuse _
  | some c => exact .ok _

theorem removeNetwork_understood (network : Address) (tail : Option (Address × Int)) :
    Understood (removeNetwork d network tail) := by
  refine (currentOspf?_understood d).bind fun ospf => ?_
  cases ospf with
  | some c =>
    cases tail with
    | none => exact .refuse _
    | some p => exact .checked _ _ fun _ => .ok _
  | none =>
    refine (currentRip?_understood d).bind fun rip => ?_
    cases rip with
    | none => trivial
    | some c => exact .ok _

theorem addPassiveInterface_understood (name : String) : Understood (addPassiveInterface d name) := by
  refine .checked _ _ fun _ => .ite ?_ ?_
  · split
    · exact lostObject_understood _
    · exact .ok _
  · split
    · exact lostObject_understood _
    · exact .ok _

theorem routerCommand_understood (c : RouterCommand) : Understood (c.apply d) := by
  cases c with
  | ospfNetwork network wildcard area =>
    refine (currentOspf_understood d).bind fun c => ?_
    dsimp only
    split
    · exact .refuse _
    · exact .ok _
  | noNetwork network tail => exact removeNetwork_understood network tail
  | passiveInterface name => exact addPassiveInterface_understood name
  | routerId id => exact (currentOspf_understood d).bind fun _ => .ok _
  | ripNetwork network => exact (currentRip_understood d _).bind fun _ => .ok _
  | ripVersion version => exact (currentRip_understood d _).bind fun _ => .ok _
  | noAutoSummary => exact (currentRip_understood d _).bind fun _ => .ok _

theorem lineCommand_understood (c : LineCommand) : Understood (c.apply d) := by
  have current : Understood (currentLine d) := by
    unfold currentLine
    split
    · exact .ok _
    · exact lostObject_understood _
  refine current.bind fun e => ?_
  cases c with
  | login method => exact .ite (.ok _) (.ok _)
  | transportInput transport => exact .checked _ _ fun _ => .ok _
  | _ => exact .ok _

theorem nameVlan_understood (name : String) : Understood (nameVlan d name) := by
  unfold nameVlan
  split
  · exact lostObject_understood _
  · exact .ite (lostObject_understood _) (.checked _ _ fun _ => .ok _)

theorem addRule_understood (e : RuleEntry) : Understood (addRule d e) := by
  unfold addRule
  split
  · exact lostObject_understood _
  · exact (append_understood _ e).bind fun _ => .ok _

theorem poolCommand_understood (c : PoolCommand) : Understood (c.apply d) := by
  have current : Understood (currentPool d) := by
    unfold currentPool
    split
    · exact .ok _
    · exact lostObject_understood _
  refine current.bind fun e => ?_
  have changed : Understood (c.change e.2) := by
    cases c with
    | network base mask => exact (requireNetwork_understood base mask).bind fun _ => .ok _
    | _ => exact .ok _
  exact changed.bind fun _ => .ok _

theorem setHostAddress_understood (ip mask : Address) (gateway : Option Address) :
    Understood (setHostAddress d ip mask gateway) := by
  refine .lifted _ fun entries => ?_
  split
  · refine .lifted _ fun n => .checked _ _ fun _ => .checked _ _ fun _ => .lifted _ fun others => ?_
    split
    · exact .lifted _ fun _ => .ok _
    · exact .ok _
  · trivial

/-! ## All commands -/

/-- No command fails for a line that does not resolve. -/
theorem command_understood (t : Topology) (d : Device) (c : Command) : Understood (c.apply t d) := by
  cases c with
  | exec c => exact execCommand_understood c
  | global c => exact globalCommand_understood c
  | interface c => exact interfaceCommand_understood c
  | router c => exact routerCommand_understood c
  | line c => exact lineCommand_understood c
  | vlanName name => exact nameVlan_understood name
  | aclRule rule => exact addRule_understood rule
  | pool c => exact poolCommand_understood c
  | host c =>
    cases c with
    | ip address mask gateway => exact setHostAddress_understood address mask gateway
    | ipconfig => exact .lifted _ fun _ => .ok _

end NetRack
