import NetRack.Topology.Domain

/-!
# OSPF

Routers with an OSPF process become neighbors across a broadcast domain when their interfaces are
in one area and one network.  Every router takes the cheapest path to each network that another
router advertises; among paths of one cost the first by outgoing interface and next hop wins.
-/

namespace NetRack

/-- The address that identifies a router: the configured one, else the highest of its working
loopbacks, else the highest of its other working interfaces. -/
def Device.effectiveRouterId (d : Device) : Except Fault (Option String) :=
  match d.ospf with
  | none => .ok none
  | some c =>
    match Text.present? c.routerId with
    | some id => .ok (some id)
    | none => do
      let active := d.interfaces.values.filter (·.isActive)
      let addresses ← active.mapM fun i => do
        return ((← i.kind) == .loopback, ← Address.readField i.ip)
      let highest (loopback : Bool) : Option Address :=
        ((addresses.filter fun e => e.1 == loopback).map Prod.snd).foldl
          (fun best a => if best.any (a ≤ ·) then best else some a) none
      return ((highest true).or (highest false)).map (·.text)

/-- The cost of sending out of an interface, by its name. -/
def ospfCost (name : String) : Nat :=
  if InterfaceName.startsWith "Serial" name then 64
  else if InterfaceName.startsWith "Ethernet" name then 10
  else 1

/-! ## Shortest paths -/

/-- The way out of a router: an interface and the address of the next router. -/
structure Hop where
  interface : String
  address : String
deriving DecidableEq, Repr

instance : Ord Hop where
  compare a b := (compare a.interface b.interface).then (compare a.address b.address)

/-- A step from one router to the next. -/
structure Edge where
  peer : String
  hop : Hop
  cost : Nat
deriving DecidableEq, Repr

instance : Ord Edge where
  compare a b :=
    (compare a.peer b.peer).then <| (compare a.hop b.hop).then (compare a.cost b.cost)

/-- The edges that leave each router. -/
abbrev EdgeTable := List (String × List Edge)

/-- The edges that leave a router. -/
def edgesFrom (edges : EdgeTable) (node : String) : List Edge :=
  ((edges.find? fun e => e.1 = node).map Prod.snd).getD []

/-- The distance of a router and the first hop towards it; the source has no first hop. -/
structure PathLabel where
  node : String
  distance : Nat
  hop : Option Hop
deriving DecidableEq, Repr

/-- Whether a first hop comes before another. -/
def hopBefore : Option Hop → Option Hop → Bool
  | some a, some b => (compare a b).isLT
  | none, some _ => true
  | _, none => false

/-- The labels after one more way to a router is known. -/
def relax (labels : List PathLabel) (new : PathLabel) : List PathLabel :=
  match labels.find? (·.node = new.node) with
  | none => labels ++ [new]
  | some old =>
    if new.distance < old.distance ||
        (new.distance = old.distance && hopBefore new.hop old.hop) then
      labels.map fun l => if l.node = new.node then new else l
    else labels

/-- The label that comes first by distance and then by router. -/
def nearest : List PathLabel → Option PathLabel
  | [] => none
  | l :: rest =>
    match nearest rest with
    | none => some l
    | some m =>
      if ((compare l.distance m.distance).then (compare l.node m.node)).isLE then some l else some m

/-- The labels that the edges of a settled router add. -/
def relaxEdges (source : String) (settled : List PathLabel) (current : PathLabel) (edges : List Edge)
    (frontier : List PathLabel) : List PathLabel :=
  (sortBy (keyLe id) edges).foldl (fun labels e =>
    if settled.any (·.node = e.peer) then labels
    else
      let hop := if current.node = source then some e.hop else current.hop
      relax labels ⟨e.peer, current.distance + e.cost, hop⟩) frontier

/-- Settles the nearest router and goes on from it, as long as there is one. -/
def settle (edges : EdgeTable) (source : String) :
    Nat → List PathLabel → List PathLabel → List PathLabel
  | 0, settled, _ => settled
  | fuel + 1, settled, frontier =>
    match nearest frontier with
    | none => settled
    | some l =>
      let rest := frontier.filter (·.node ≠ l.node)
      let settled := settled ++ [l]
      settle edges source fuel settled (relaxEdges source settled l (edgesFrom edges l.node) rest)

/-- The distance of every router that can be reached from the source, and the first hop towards
it. -/
def shortestPaths (edges : EdgeTable) (source : String) : List PathLabel :=
  let fuel := (edges.map fun e => e.2.length).foldl (· + ·) 1
  settle edges source fuel [] [⟨source, 0, none⟩]

/-! ## Adjacencies and routes -/

namespace Topology

/-- The area of an interface if OSPF runs on it. -/
def ospfArea? (d : Device) (i : Interface) : Except Fault (Option Int) :=
  match d.ospf with
  | none => .ok none
  | some c => if i.isActive then c.areaFor (i.ip.getD "") else .ok none

/-- A router with an OSPF process, and the address that identifies it. -/
structure OspfRouter where
  key : String
  device : Device
  config : OspfConfig
  id : Option String

/-- The routers with an OSPF process. -/
def ospfRouters (t : Topology) : Except Fault (List OspfRouter) :=
  (t.devices.entries.filterMap fun e => e.2.ospf.map fun c => (e.1, e.2, c)).mapM
    fun (key, device, config) => do return ⟨key, device, config, ← device.effectiveRouterId⟩

/-- The neighbor that a router has at an interface of its own and an interface in the domain. -/
def adjacency? (routers : List OspfRouter) (r : OspfRouter) (id : String) (i : Interface)
    (area : Int) (e : LinkEnd) : Except Fault (Option (OspfNeighbor × Edge)) := do
  let some p := routers.find? (·.key = e.device) | return none
  let some peerId := p.id | return none
  if p.key = r.key || peerId = id then return none
  let pi ← need e.port (p.device.interfaces.get? e.port)
  let peerArea ← ospfArea? p.device pi
  if peerArea.isNone || e.port ∈ p.config.passiveInterfaces || peerArea ≠ some area then
    return none
  if (← pi.network?) ≠ (← i.network?) then return none
  let address := pi.ip.getD ""
  return some (⟨peerId, address, i.name, "FULL"⟩, ⟨p.key, ⟨i.name, address⟩, ospfCost i.name⟩)

/-- The neighbors of a router at one of its interfaces. -/
def adjacenciesAt (t : Topology) (routers : List OspfRouter) (r : OspfRouter) (id : String)
    (i : Interface) : Except Fault (List (OspfNeighbor × Edge)) := do
  let some area ← ospfArea? r.device i | return []
  if i.name ∈ r.config.passiveInterfaces then return []
  let (ends, _) ← t.domain ⟨r.key, i.name⟩
  return (← ends.mapM (adjacency? routers r id i area)).filterMap fun a => a

/-- The neighbors of a router. -/
def adjacencies (t : Topology) (routers : List OspfRouter) (r : OspfRouter) :
    Except Fault (List (OspfNeighbor × Edge)) :=
  match r.id with
  | none => .ok []
  | some id => do
    return (← (← r.device.sortedInterfaces).mapM (t.adjacenciesAt routers r id)).flatten

/-- The networks that a router advertises with their costs. -/
def advertised (r : OspfRouter) : Except Fault (List (Network × Nat)) := do
  let found ← (← r.device.sortedInterfaces).mapM fun i => do
    if (← ospfArea? r.device i).isNone then return none
    return (← i.network?).map fun n => (n, ospfCost i.name)
  return found.filterMap fun n => n

/-- The route to a network that another router advertises. -/
def ospfRoute (n : Network) (hop : Hop) (metric : Nat) : Route where
  network := n.base.text
  mask := n.mask.text
  source := .known .ospf
  distance := 110
  nextHop := some hop.address
  interface := some hop.interface
  metric := metric

/-- Whether a route is cheaper than another, or as cheap with an earlier next hop. -/
def routeBefore (a b : Route) : Bool :=
  ((compare a.metric b.metric).then (compare (a.nextHop.getD "") (b.nextHop.getD ""))).isLT

/-- The best routes found so far, with one more candidate considered. -/
def offerRoute (best : List (Network × Route)) (n : Network) (r : Route) :
    List (Network × Route) :=
  match best.find? (·.1 = n) with
  | none => best ++ [(n, r)]
  | some (_, old) =>
    if routeBefore r old then best.map fun e => if e.1 = n then (n, r) else e else best

/-- The best route of a router to each network that another router advertises, apart from the
networks that it is connected to. -/
def bestRoutes (connected : List Network) (stubs : List (String × List (Network × Nat)))
    (labels : List PathLabel) : List (Network × Route) :=
  (sortBy (keyLe PathLabel.node) labels).foldl (fun best l =>
    match l.hop with
    | none => best
    | some hop =>
      (((stubs.find? (·.1 = l.node)).map Prod.snd).getD []).foldl (fun best (n, cost) =>
        if n ∈ connected then best
        else offerRoute best n (ospfRoute n hop (l.distance + cost))) best) []

/-- A device without what OSPF computed for it. -/
def clearOspf (d : Device) : Device :=
  { d with ospfNeighbors := [], routes := d.routes.filter fun r => !r.isFrom .ospf }

/-- A router with the routes that OSPF computes for it. -/
def installRoutes (edges : EdgeTable) (stubs : List (String × List (Network × Nat)))
    (r : OspfRouter) (d : Device) : Except Fault Device :=
  match r.id with
  | none => .ok d
  | some _ => do
    let connected ← (d.routes.filter (·.isFrom .connected)).mapM (·.destination)
    let best := bestRoutes connected stubs (shortestPaths edges r.key)
    return { d with routes := ← (best.map Prod.snd).foldlM insertRoute d.routes }

/-- The topology with all that OSPF computes computed anew. -/
def recomputeOspf (t : Topology) : Except Fault Topology := do
  let cleared := { t with devices := t.devices.mapValues fun _ d => clearOspf d }
  let routers ← t.ospfRouters
  if routers.isEmpty then return cleared
  let ordered := sortBy (keyLe OspfRouter.key) routers
  let found ← ordered.mapM fun r => do return (r, ← t.adjacencies routers r)
  let stubs ← routers.mapM fun r => do return (r.key, ← advertised r)
  let edges : EdgeTable := found.map fun e => (e.1.key, e.2.map Prod.snd)
  let met := found.foldl (fun (t : Topology) e =>
    t.modifyDevice e.1.key fun d => { d with ospfNeighbors := e.2.map Prod.fst }) cleared
  ordered.foldlM (fun (t : Topology) r => do
    let d ← installRoutes edges stubs r (← t.entry r.key)
    return t.modifyDevice r.key fun _ => d) met

end Topology

end NetRack
