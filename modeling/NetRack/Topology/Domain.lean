import NetRack.Topology.Basic

/-!
# Broadcast domains

A frame that leaves an interface crosses links and is flooded by switches within its VLAN.  The
interfaces with addresses that it reaches are the broadcast domain of the interface it left.

A frame carries the number of its VLAN as a tag, or none.  A switch port puts an untagged frame
into its access VLAN or its native VLAN, and it drops frames of a VLAN that it does not carry or
that the switch does not know.
-/

namespace NetRack

/-- A frame that arrives at a port. -/
structure Frame where
  place : LinkEnd
  tag : Option Int
deriving DecidableEq

/-- What becomes of a frame: the interfaces that take it, the frames that it goes on as, and whether
a port or link on its way was down. -/
structure Spread where
  found : List LinkEnd := []
  frames : List Frame := []
  blocked : Bool := false

namespace Spread

/-- What becomes of two frames together. -/
def append (a b : Spread) : Spread :=
  ⟨a.found ++ b.found, a.frames ++ b.frames, a.blocked || b.blocked⟩

instance : Append Spread := ⟨append⟩

end Spread

namespace Topology

/-- A frame sent out of a port. -/
def leave (t : Topology) (e : LinkEnd) (tag : Option Int) : Spread :=
  match t.linkAt e with
  | none => {}
  | some link =>
    if link.up then
      match link.other? e with
      | some peer => { frames := [⟨peer, tag⟩] }
      | none => {}
    else { blocked := true }

/-- A frame of a VLAN flooded out of one port of a switch. -/
def floodPort (t : Topology) (switch : String) (vlan : Int) (ingress : Option String)
    (i : Interface) : Except Fault Spread := do
  let e : LinkEnd := ⟨switch, i.name⟩
  if some i.name = ingress then return {}
  if (← i.kind) ≠ .physical then return {}
  if !i.carries vlan || (t.linkAt e).isNone then return {}
  if !i.operUp then return { blocked := true }
  let tag := if i.mode.holds .access || vlan = i.nativeVlan then none else some vlan
  return t.leave e tag

/-- A frame of a VLAN flooded by a switch, but not out of the port where it came in. -/
def flood (t : Topology) (switch : String) (vlan : Int) (ingress : Option String) :
    Except Fault Spread := do
  let d ← t.entry switch
  let svi : Spread :=
    match d.interfaces.get? (InterfaceName.ofVlan vlan) with
    | some i => if i.isActive then { found := [⟨switch, i.name⟩] } else {}
    | none => {}
  let out ← (← d.sortedInterfaces).mapM (t.floodPort switch vlan ingress)
  return out.foldl (· ++ ·) svi

/-- The VLAN that a switch port puts a frame into, if it does not drop it. -/
def classify (i : Interface) (tag : Option Int) : Option Int :=
  if i.mode.holds .access then
    if tag = none || tag = some i.accessVlan then some i.accessVlan else none
  else
    let vlan := tag.getD i.nativeVlan
    if i.carries vlan then some vlan else none

/-- Whether an interface is the subinterface of a port for a tag. -/
def isReceiver (port : String) (tag : Int) (i : Interface) : Except Fault Bool := do
  let (parent, sub) ← InterfaceName.split i.name
  return parent = port && sub.isSome && i.dot1qVlan = some tag && i.isActive

/-- The first element that passes a check. -/
def findFirst (check : α → Except Fault Bool) : List α → Except Fault (Option α)
  | [] => .ok none
  | x :: rest => do
    if ← check x then return some x
    findFirst check rest

/-- The interface that takes a frame at a routed port. -/
def receiver (d : Device) (port : String) (tag : Option Int) : Except Fault (Option String) :=
  match tag with
  | none => do
    let i ← need port (d.interfaces.get? port)
    return if i.isActive then some port else none
  | some v => do
    return (← findFirst (isReceiver port v) (← d.sortedInterfaces)).map (·.name)

/-- What becomes of a frame at the port where it arrives. -/
def arrive (t : Topology) (f : Frame) : Except Fault Spread := do
  let d ← t.entry f.place.device
  let i ← need f.place.port (d.interfaces.get? f.place.port)
  if d.isA .switch && i.isSwitchport then
    match classify i f.tag with
    | none => return {}
    | some vlan =>
      if d.vlans.contains vlan then t.flood f.place.device vlan (some f.place.port) else return {}
  else
    match ← receiver d f.place.port f.tag with
    | some name => return { found := [⟨f.place.device, name⟩] }
    | none => return {}

/-- Follows frames, first come first served, each of them once. -/
def follow (t : Topology) : Nat → List Frame → Spread → Except Fault Spread
  | 0, _, s => .ok s
  | fuel + 1, visited, s =>
    match s.frames.dropWhile (· ∈ visited) with
    | [] => .ok s
    | f :: rest => do
      let next ← t.arrive f
      t.follow fuel (f :: visited)
        ⟨s.found ++ next.found, rest ++ next.frames, s.blocked || next.blocked⟩

/-- A bound on the number of different frames: a port at the end of a link, and as tag none, that of
the first frame, or the access or native VLAN of an interface. -/
def frameBound (t : Topology) : Nat :=
  let interfaces := (t.devices.values.map fun d => d.interfaces.size).foldl (· + ·) 0
  2 * t.links.length * (2 * interfaces + 3)

/-- Whether a port of a device is a virtual interface of a switch. -/
def isSwitchSvi (d : Device) (port : String) : Except Fault Bool :=
  if d.isA .switch then do return (← InterfaceName.kind port) == .svi else .ok false

/-- What leaves an interface. -/
def depart (t : Topology) (start : LinkEnd) : Except Fault Spread := do
  let d ← t.entry start.device
  if ← isSwitchSvi d start.port then t.flood start.device (← InterfaceName.vlanOf start.port) none
  else
    let (parent, sub) ← InterfaceName.split start.port
    let i ← need start.port (d.interfaces.get? start.port)
    return t.leave ⟨start.device, parent⟩ (if sub.isSome then i.dot1qVlan else none)

/-- The broadcast domain of an interface, and whether a port or link on the way was down. -/
def domain (t : Topology) (start : LinkEnd) : Except Fault (List LinkEnd × Bool) := do
  let s ← t.follow (t.frameBound + 1) [] (← t.depart start)
  return (distinct (s.found.filter (· ≠ start)), s.blocked)

end Topology

end NetRack
