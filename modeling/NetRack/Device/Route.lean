import NetRack.Ipv4.Network
import NetRack.Order

/-!
# Routes

A route leads to a network through a next hop, an interface or both.  A table lists its routes by
network, then by mask, distance, next hop and interface.
-/

namespace NetRack

/-- Where a route comes from. -/
inductive RouteSource where
  | connected
  | static
  | ospf
deriving DecidableEq, Repr, Inhabited

instance : Vocabulary RouteSource where
  words := [.connected, .static, .ospf]
  spelling
    | .connected => "connected"
    | .static => "static"
    | .ospf => "ospf"

instance : Vocabulary.Lawful RouteSource := ⟨fun w => by cases w <;> decide +kernel⟩

/-- A route to a network. -/
structure Route where
  network : String
  mask : String
  source : Stored RouteSource
  distance : Int
  nextHop : Option String := none
  interface : Option String := none
  metric : Int := 0
deriving DecidableEq

/-- What routes are ordered by. -/
structure RouteKey where
  base : Nat
  length : Nat
  distance : Int
  nextHop : String
  interface : String
deriving DecidableEq, Repr

instance : Ord RouteKey where
  compare a b :=
    (compare a.base b.base).then <| (compare a.length b.length).then <|
      (compare a.distance b.distance).then <| (compare a.nextHop b.nextHop).then <|
        compare a.interface b.interface

namespace Route

/-- The network that a route leads to. -/
def destination (r : Route) : Except Fault Network := Network.read r.network r.mask

/-- The letter of a route's source. -/
def code (r : Route) : String :=
  match r.source with
  | .known .connected => "C"
  | .known .static => "S"
  | .known .ospf => "O"
  | .foreign _ _ => "?"

/-- Whether a route comes from a source. -/
def isFrom (r : Route) (source : RouteSource) : Bool := r.source.holds source

/-- What a route is ordered by. -/
def sortKey (r : Route) : Except Fault RouteKey := do
  let n ← r.destination
  return ⟨n.base.toNat, n.length, r.distance, r.nextHop.getD "", r.interface.getD ""⟩

/-- Whether two routes agree in source, network and way. -/
def sameWay (a b : Route) : Bool :=
  a.source = b.source && a.network = b.network && a.mask = b.mask && a.nextHop = b.nextHop &&
    a.interface = b.interface

end Route

/-- Routes in the order of a table. -/
def sortRoutes (routes : List Route) : Except Fault (List Route) := do
  let keyed ← routes.mapM fun r => do return (← r.sortKey, r)
  return (sortBy (keyLe Prod.fst) keyed).map Prod.snd

/-- The table with a route put in its place; a route that is there already is not put again. -/
def insertRoute (routes : List Route) (route : Route) : Except Fault (List Route) :=
  if route ∈ routes then .ok routes else sortRoutes (routes ++ [route])

/-- The better of a route found so far and one more that leads to the address: a longer mask wins,
then a smaller distance, then the route found first. -/
def betterRoute (a : Address) (best : Option (Network × Route)) (route : Route) :
    Except Fault (Option (Network × Route)) := do
  let n ← route.destination
  if n.contains a then
    match best with
    | none => return some (n, route)
    | some (m, r) =>
      if m.length < n.length || (m.length = n.length && route.distance < r.distance) then
        return some (n, route)
      else return best
  else return best

/-- The route that packets to an address take. -/
def lookupRoute (routes : List Route) (a : Address) : Except Fault (Option Route) := do
  return (← routes.foldlM (betterRoute a) none).map Prod.snd

end NetRack
