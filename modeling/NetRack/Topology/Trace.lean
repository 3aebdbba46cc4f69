import NetRack.Topology.Domain

/-!
# Tracing packets

A packet is followed from device to device.  Every device on its way looks up a route, finds the
way out and the next hop, and hands the packet to the interface in that broadcast domain that has
the next hop's address, unless an access list denies it.
-/

namespace NetRack

/-- Why a packet got no further. -/
inductive FailureReason where
  | noRoute
  | linkDown
  | aclDeny
  | ttlExceeded
  | hostUnreachable
deriving DecidableEq, Repr

/-- The reason in words. -/
def FailureReason.text : FailureReason → String
  | noRoute => "no route"
  | linkDown => "link down"
  | aclDeny => "ACL deny"
  | ttlExceeded => "TTL exceeded"
  | hostUnreachable => "host unreachable"

/-- A device that a packet came to, and the interface and address it came in by. -/
structure TraceHop where
  number : Nat
  device : String
  interface : Option String := none
  address : Option String := none
deriving DecidableEq

/-- Where and why a packet got no further. -/
structure TraceFailure where
  number : Nat
  device : String
  reason : FailureReason
  detail : String
deriving DecidableEq

/-- What became of a packet. -/
structure TraceReport where
  target : String
  source : Option String
  hops : List TraceHop
  failure : Option TraceFailure
deriving DecidableEq

/-- Whether the packet reached its target. -/
def TraceReport.success (r : TraceReport) : Bool := r.failure.isNone

namespace Topology

/-- The most devices that a packet may come to. -/
def hopLimit : Nat := 16

/-- The address of a target given as an address or as the name of a device: of the device's first
working interface, or else of its first interface with an address. -/
def resolveTarget (t : Topology) (text : String) : Except Fault (Option String) :=
  match Address.read? text with
  | some a => .ok (some a.text)
  | none =>
    match t.findDevice text with
    | none => .ok none
    | some d => do
      let addressed := (← d.sortedInterfaces).filter (·.hasIp)
      match addressed.find? (·.operUp) with
      | some i => return i.ip
      | none => return addressed.head?.bind (·.ip)

/-- Where a device sends a packet, or why it does not. -/
inductive Decision where
  | forward (egress nextHop : String)
  | stop (reason : FailureReason) (detail : String)
deriving DecidableEq

/-- Whether an interface is down and its network has the address. -/
def isDownToward (a : Address) (i : Interface) : Except Fault Bool :=
  if i.hasIp && !i.operUp then do return (← i.network?).any (·.contains a) else .ok false

/-- The reason for which there is no way to an address. -/
def stopToward (d : Device) (a : Address) (detail : String) : Except Fault Decision := do
  match ← findFirst (isDownToward a) (← d.sortedInterfaces) with
  | some i =>
    if i.name.isEmpty then return .stop .noRoute detail
    return .stop .linkDown (i.name ++ " is down")
  | none => return .stop .noRoute detail

/-- The next hop that replaces one: the route's, unless it has none. -/
def nextHopOr (route : Route) (nextHop : Option String) : Option String :=
  (Text.present? route.nextHop).or nextHop

/-- Where a packet with a next hop leaves, by at most so many lookups of next hops. -/
def resolveEgress (d : Device) (dst : Address) :
    Nat → Option String → Option String → Except Fault Decision
  | _, some egress, nextHop =>
    match d.interfaces.get? egress with
    | some i =>
      .ok <| if i.operUp then .forward egress ((Text.present? nextHop).getD dst.text)
        else .stop .linkDown (egress ++ " is down")
    | none => .ok (.stop .linkDown (egress ++ " is down"))
  | 0, none, nextHop => do
    stopToward d (← Address.readField nextHop) ("next hop " ++ nextHop.getD "" ++ " is unresolved")
  | fuel + 1, none, nextHop => do
    let a ← Address.readField nextHop
    match ← lookupRoute d.routes a with
    | none => stopToward d a ("next hop " ++ nextHop.getD "" ++ " is unresolved")
    | some inner => resolveEgress d dst fuel inner.interface (nextHopOr inner nextHop)

/-- Where a device sends a packet. -/
def forwardingDecision (d : Device) (dst : Address) : Except Fault Decision := do
  match ← lookupRoute d.routes dst with
  | none => stopToward d dst ("no route to " ++ dst.text)
  | some route => resolveEgress d dst 4 route.interface route.nextHop

/-- The directions in which an interface filters. -/
inductive Direction where
  | incoming
  | outgoing
deriving DecidableEq, Repr

/-- The access list of an interface that denies a packet, if one does. -/
def deniedBy (d : Device) (name : String) (direction : Direction) (source target : String) :
    Except Fault (Option String) :=
  match d.interfaces.get? name with
  | none => .ok none
  | some i =>
    let list := match direction with
      | .incoming => i.aclIn
      | .outgoing => i.aclOut
    match Text.present? list with
    | none => .ok none
    | some list =>
      match d.acls.get? list with
      | none => .ok none
      | some acl => do
        return if ← acl.permits (.known .icmp) source target then none else some list

/-- A packet on its way. -/
structure Packet where
  target : Address
  source : Option String
  current : String
  hops : List TraceHop

namespace Packet

/-- The report on a packet that got no further. -/
def failed (p : Packet) (number : Nat) (device : String) (reason : FailureReason)
    (detail : String) : TraceReport :=
  ⟨p.target.text, p.source, p.hops, some ⟨number, device, reason, detail⟩⟩

/-- The report on a packet that arrived. -/
def arrived (p : Packet) : TraceReport :=
  ⟨p.target.text, some ((Text.present? p.source).getD p.target.text), p.hops, none⟩

end Packet

/-- Whether the interface at an end has an address. -/
def hasAddress (t : Topology) (address : String) (e : LinkEnd) : Except Fault Bool := do
  return (← t.interface e).ip = some address

/-- A packet at the next device, or the final report. -/
abbrev Step := Packet ⊕ TraceReport

/-- A packet handed over from an interface to a next hop. -/
def handOver (t : Topology) (p : Packet) (number : Nat) (source egress nextHop : String) :
    Except Fault Step := do
  let (ends, blocked) ← t.domain ⟨p.current, egress⟩
  match ← findFirst (t.hasAddress nextHop) ends with
  | none =>
    let reason := if blocked then FailureReason.linkDown else .hostUnreachable
    return .inr (p.failed number p.current reason s!"{nextHop} not reachable out {egress}")
  | some arrival =>
    let hop := ⟨number + 1, arrival.device, some arrival.port, (← t.interface arrival).ip⟩
    let p := { p with hops := p.hops ++ [hop] }
    match ← deniedBy (← t.entry arrival.device) arrival.port .incoming source p.target.text with
    | some acl =>
      return .inr (p.failed (number + 1) arrival.device .aclDeny
        s!"denied by access list {acl} in on {arrival.port}")
    | none => return .inl { p with current := arrival.device }

/-- A packet sent on by the device where it is. -/
def forward (t : Topology) (p : Packet) (number : Nat) (d : Device) : Except Fault Step := do
  match ← forwardingDecision d p.target with
  | .stop reason detail => return .inr (p.failed number p.current reason detail)
  | .forward egress nextHop =>
    let out ← need egress (d.interfaces.get? egress)
    let source := p.source.getD ((Text.present? out.ip).getD "0.0.0.0")
    let p := { p with source := some source }
    match ← deniedBy d egress .outgoing source p.target.text with
    | some acl =>
      return .inr (p.failed number p.current .aclDeny
        s!"denied by access list {acl} out on {egress}")
    | none => t.handOver p number source egress nextHop

/-- What happens to a packet at the device where it is. -/
def step (t : Topology) (p : Packet) (number : Nat) : Except Fault Step := do
  let d ← t.entry p.current
  if ← d.isAddressed p.target.text then return .inr p.arrived
  if number > 1 && !d.ipRouting then
    return .inr (p.failed number p.current .noRoute (d.hostname ++ " does not route"))
  t.forward p number d

/-- Follows a packet over at most so many devices. -/
def followPacket (t : Topology) : Nat → Nat → Packet → Except Fault TraceReport
  | 0, _, p =>
    .ok (p.failed p.hops.length p.current .ttlExceeded
      ("more than " ++ Text.natText hopLimit ++ " hops"))
  | fuel + 1, number, p => do
    match ← t.step p number with
    | .inr report => return report
    | .inl p => t.followPacket fuel (number + 1) p

/-- Follows a packet from a device to an address, sent from one of its interfaces if given. -/
def trace (t : Topology) (source target : String) (sourceInterface : Option String) :
    Except Fault TraceReport := do
  let dst ← Address.read target
  let ip ← match Text.present? sourceInterface with
    | none => pure none
    | some name => do pure (← need name ((← t.device source).interfaces.get? name)).ip
  t.followPacket hopLimit 1 ⟨dst, ip, source, [⟨1, source, none, none⟩]⟩

end Topology

end NetRack
