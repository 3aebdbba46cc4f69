import NetRack.Proofs.Devices
import NetRack.Proofs.Ports.Command

/-!
# What becomes of ports

A line that is given to a device makes a step from its ports or leaves them as they are, and whatever else is
done to a lab leaves the ports of all devices.  So an invariant of ports that holds of new devices and that no
step breaks holds of every device that a lab comes to have.
-/

namespace NetRack

open Outcome

/-! ## Lines -/

section Written

open NodeLabel

variable {r : ResolvedCommand} {c : GlobalCommand} {name : String}

/-- A global command is that of the verb of its line. -/
theorem globalCommand?_of_command (h : r.command = .ok (.global c)) : r.globalCommand? r.verb = some (.ok c) := by
  cases r.gives h with
  | global found => exact found
  | other found =>
    generalize r.verb = v at found
    cases v <;> simp [ResolvedCommand.otherCommand?, bind_eq_ok, map_eq_ok] at found

/-- A command of interface configuration is that of the verb of its line. -/
theorem interfaceCommand?_of_command {c : InterfaceCommand} (h : r.command = .ok (.interface c)) :
    r.interfaceCommand? r.verb = some (.ok c) := by
  cases r.gives h with
  | interface found => exact found
  | other found =>
    generalize r.verb = v at found
    cases v <;> simp [ResolvedCommand.otherCommand?, bind_eq_ok, map_eq_ok] at found

theorem verb_of_interface {v : Verb} (h : r.globalCommand? v = some (.ok (.interface name))) : v = .interface := by
  cases v <;> first
    | rfl
    | simp [ResolvedCommand.globalCommand?, bind_eq_ok, map_eq_ok] at h

/-- The name that an argument gives to an interface is what a word stands for. -/
theorem interface_written {d : Device} {trail : List NodeLabel} {key : String}
    (h : r.arguments.Follow (some d) trail) (hl : (recorded trail key).any givesInterface = true)
    (hn : r.text key = .ok name) : ∃ raw, InterfaceName.normalize? raw = some name := by
  obtain ⟨n, kind, low, high, raw, v, hcheck, hread, hget⟩ := slot_value h hl fun _ _ => rfl
  obtain rfl := of_decide_eq_true hcheck
  obtain ⟨s, hs, rfl⟩ := map_eq_ok.1 hread
  unfold ResolvedCommand.text at hn
  rw [hget] at hn
  cases hn
  exact ⟨raw, (Argument.readInterface_eq_ok.1 hs).1⟩

end Written

namespace Console

variable {t : Topology} {key : String} {d : Device} {line : String} {c : Command}

/-- The interface that a line asks for goes by the full name of what is written. -/
theorem Asks.written {name : String} (asks : Asks d line (.global (.interface name))) :
    ∃ raw, InterfaceName.normalize? raw = some name := by
  unfold Asks request? at asks
  obtain ⟨x, hx, asks⟩ := bind_eq_ok.1 asks
  have resolved := liftM_eq_ok.1 hx
  cases x with
  | none => cases asks
  | some x =>
    cases x with
    | error e => cases asks
    | ok r =>
      obtain ⟨q, hq, heq⟩ := bind_eq_ok.1 asks
      cases heq
      have hq := liftM_eq_ok.1 hq
      unfold ResolvedCommand.request at hq
      split at hq
      · obtain ⟨payload, -, heq⟩ := bind_eq_ok.1 hq
        cases heq
      · obtain ⟨c, hc, heq⟩ := map_eq_ok.1 hq
        cases heq
        have given := globalCommand?_of_command hc
        have verb := verb_of_interface given
        rw [verb] at given
        obtain ⟨n, hn, heq⟩ := map_eq_ok.1 (Option.some.inj given)
        cases heq
        obtain ⟨e, he, hverb, follow⟩ := resolve_follows resolved
        have served := (root_serves he).1
        rw [← hverb, verb] at served
        exact interface_written follow served hn

/-- What a command that a line asks for makes of ports. -/
theorem command_step (h : d.Sound) (hs : d.Seated) (asks : Asks d line c) (t : Topology) :
    StepsPorts d d.context.interface c (c.apply t d) := by
  have kept {x : Except Failure Outcome} (hx : LeavesPorts d x) :
      StepsPorts d d.context.interface c x := hx.imp fun o ho => by
    rw [ho]
    exact .same c
  have ha := asks.admissible
  cases c with
  | exec c => exact kept (execCommand_ports t c)
  | global c =>
    by_cases changes : c.changesPorts = false
    · exact kept (x := GlobalCommand.apply d c) (globalCommand_ports changes)
    · cases c with
      | interface name =>
        obtain ⟨raw, written⟩ := asks.written
        exact configureInterface_step written (not_host hs ha.1) ha.2
      | vlan id => exact configureVlan_step id
      | noVlan id => exact removeVlan_step h id
      | _ => exact absurd rfl changes
  | interface c =>
    have config : d.mode.isConfig = true := by
      rw [ha.1]
      rfl
    exact interfaceCommand_step h (not_host hs config) c ha.2
  | router c => exact kept (routerCommand_ports c)
  | line c => exact kept (lineCommand_ports c)
  | vlanName name => exact kept (nameVlan_ports name)
  | aclRule rule => exact kept (addRule_ports rule)
  | pool c => exact kept (poolCommand_ports c)
  | host c => exact hostCommand_step h ha.1 c ha.2

end Console

open Console

namespace Topology

variable {t : Topology} {key : String}

/-- How a device of a lab has come by its ports with a change. -/
inductive Makes (t : Topology) (change : Change) (key : String) (p : Ports) : Prop where
  | new (type : DeviceType) (hostname id : String) (same : p = (Device.factory type hostname id).ports)
  | kept {d : Device} (hd : t.devices.get? key = some d) (same : p = d.ports)
  | step {explainer : Option Explainer} {device line : String} {d : Device} {c : Command}
      (given : change = .command explainer device line) (hd : t.device device = .ok d)
      (hk : deviceKey device = key) (asks : Asks d line c) (step : d.ports.Step d.context.interface c p)

/-- A device that is there after a change is new, has kept its ports, or was given a line that made a step. -/
theorem Orderly.makes (h : t.Orderly) (change : Change) {d' : Device}
    (hd' : (t.next change).devices.get? key = some d') : t.Makes change key d'.ports := by
  cases h.shapes change hd' with
  | new type hostname same => exact .new type hostname key (congrArg Device.ports same)
  | kept hd same => exact .kept hd (Device.ports_of_frame same)
  | saved hd startupConfig same => exact .kept hd ((Device.ports_of_frame same).trans rfl)
  | command given hd hk asks done same =>
    have hget := device_eq_ok.1 hd
    refine .step given hd hk asks ?_
    rw [Device.ports_of_frame same]
    exact (command_step (h.sound.devices _ _ hget) (h.seated _ _ hget) asks t).value done

/-- What holds of the ports of new devices, and holds of all that steps make of ports that it holds of, holds
of the ports of every device that a lab comes to have. -/
theorem reached_ports {P : Ports → Prop} (new : ∀ type hostname id, P (Device.factory type hostname id).ports)
    (step : ∀ p focus c q, P p → p.Step focus c q → P q) (cs : List Change) {d : Device}
    (hd : (reached cs).devices.get? key = some d) : P d.ports := by
  refine reached_devices (P := fun d => P d.ports) new (fun d d' same h => ?_) (fun d _ h => h)
    (fun t key d line c o ordered hd asks done h => ?_) cs hd
  · rwa [Device.ports_of_frame same]
  · have made := (command_step (ordered.sound.devices key d hd) (ordered.seated key d hd) asks t).value done
    exact step _ _ _ _ h made

end Topology

end NetRack
