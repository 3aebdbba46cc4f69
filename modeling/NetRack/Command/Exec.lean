import NetRack.Command.Outcome
import NetRack.Show.Interfaces
import NetRack.Show.Reachability
import NetRack.Show.Routing

/-!
# Exec commands

Commands that change the mode of a console, test whether a target can be reached, or show the state
of a device.
-/

namespace NetRack

open Outcome

/-- What `show` shows of a device, for items that every device has. -/
def ShowItem.render (t : Topology) (d : Device) : ShowItem → Except Failure String
  | runningConfig => Show.runningConfig d
  | startupConfig => return Show.startupConfig d
  | version => Show.version d
  | interfaceBrief => Show.interfaceBrief d
  | routes => Show.routes d
  | protocols => Show.protocols d
  | ospfNeighbors => return Show.ospfNeighbors d
  | natTranslations => return Show.natTranslations d
  | dhcpPools => Show.dhcpPools d
  | accessLists => Show.accessLists d
  | etherchannelSummary => Show.etherchannelSummary d
  | cdpNeighbors => Show.cdpNeighbors t d
  | vlanBrief => do
    requireSwitch d
    Show.vlanBrief d
  | interfacesTrunk => do
    requireSwitch d
    Show.interfacesTrunk d
  | interfacesStatus => do
    requireSwitch d
    Show.interfacesStatus d
  | portSecurity none => do
    requireSwitch d
    Show.securePorts d
  | portSecurity (some name) => do
    requireSwitch d
    match d.interfaces.get? name with
    | some i => return Show.securePort i
    | none => refuse (.noSuchInterface name)

namespace ExecCommand

/-- The address of a target. -/
def targetAddress (t : Topology) (target : String) : Except Failure String := do
  match ← t.resolveTarget target with
  | some ip => return ip
  | none => refuse .unknownTarget

/-- Refuses a source interface that has no address. -/
def checkSource (d : Device) : Option String → Except Failure Unit
  | none => .ok ()
  | some name => refuseIf (!(d.interfaces.get? name).any (·.hasIp)) .invalidSource

/-- What an exec command does to a device of a topology. -/
def apply (t : Topology) (d : Device) : ExecCommand → Except Failure Outcome
  | enable => .ok (ofDevice { d with mode := .privileged })
  | disable => .ok (ofDevice { d with mode := .user, modeStack := d.modeStack.clear })
  | exit =>
    if d.isA .pc then .ok { device := d, close := true }
    else do
      let (d, close) ← d.exitMode
      return { device := d, close }
  | endConfig => .ok (ofDevice d.endConfig)
  | configureTerminal => do
    let d ← d.enterMode .globalConfig id
    return { device := d,
             output := "Enter configuration commands, one per line.  End with CNTL/Z." }
  | copyRunStart => do
    let saved ← Show.runningConfig d
    return { device := { d with startupConfig := some saved },
             output := "Building configuration...\n[OK]" }
  | ping target source => do
    let ip ← targetAddress t target
    checkSource d source
    let report ← t.trace d.id ip source
    return { device := d, output := Show.ping (d.isA .pc) report, report := some report }
  | traceroute target => do
    let ip ← targetAddress t target
    let report ← t.trace d.id ip none
    return { device := d, output := Show.traceroute (d.isA .pc) report, report := some report }
  | display item => do
    return { device := d, output := ← item.render t d }

end ExecCommand

end NetRack
