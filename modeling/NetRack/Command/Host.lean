import NetRack.Command.Interface
import NetRack.Show.Routing

/-!
# Commands of end hosts

An end host has one port with an address and a gateway.
-/

namespace NetRack

open Outcome

/-- Whether a route is a static route to everywhere. -/
def isStaticDefault (r : Route) : Except Fault Bool :=
  if r.isFrom .static then do return (← r.destination).length = 0 else .ok false

/-- The routes that do not lead everywhere by configuration. -/
def withoutStaticDefault (routes : List Route) : Except Fault (List Route) := do
  let marked ← routes.mapM fun r => do return (← isStaticDefault r, r)
  return (marked.filter fun e => !e.1).map Prod.snd

/-- The static route to everywhere. -/
def defaultRoute (gateway : Address) : Route where
  network := "0.0.0.0"
  mask := "0.0.0.0"
  source := .known .static
  distance := 1
  nextHop := some gateway.text

/-- The host with an address and, if given, a gateway in the same network. -/
def setHostAddress (d : Device) (ip mask : Address) (gateway : Option Address) :
    Except Failure Outcome := do
  let some (key, i) := (← d.sortedEntries).head? | .error (.fault .noPort)
  let n ← networkAround ip mask
  refuseIf (isReserved n ip) .badHostAddress
  refuseIf (gateway.any fun g => !n.contains g) .badGateway
  let others ← withoutStaticDefault d.routes
  let routes ← match gateway with
    | some g => (insertRoute others (defaultRoute g) : Except Fault (List Route))
    | none => pure others
  let i := { i with ip := some ip.text, mask := some n.mask.text, adminUp := true }
  return touchInterface { d with defaultGateway := gateway.map (·.text), routes } key i

/-- What a host command does to a device. -/
def HostCommand.apply (d : Device) : HostCommand → Except Failure Outcome
  | ip address mask gateway => setHostAddress d address mask gateway
  | ipconfig => do return { device := d, output := ← Show.hostAddresses d }

end NetRack
