import NetRack.Device.AccessList

/-!
# Routing processes

What is configured for OSPF and RIP on a router, and the neighbors that OSPF has found.
-/

namespace NetRack

/-- The routing protocols that a console configures. -/
inductive RouterProtocol where
  | ospf
  | rip
deriving DecidableEq, Repr, Inhabited

instance : Vocabulary RouterProtocol where
  words := [.ospf, .rip]
  spelling
    | .ospf => "ospf"
    | .rip => "rip"

instance : Vocabulary.Lawful RouterProtocol := ⟨fun w => by cases w <;> decide +kernel⟩

/-- A statement that puts the interfaces with matching addresses into an area. -/
structure OspfNetwork where
  network : String
  wildcard : String
  area : Int := 0
deriving DecidableEq

/-- Whether a statement covers an address. -/
def OspfNetwork.covers (n : OspfNetwork) (ip : String) : Except Fault Bool :=
  matchesWildcard n.network n.wildcard ip

/-- The OSPF process of a router. -/
structure OspfConfig where
  processId : Int := 1
  routerId : Option String := none
  networks : List OspfNetwork := []
  passiveInterfaces : List String := []
deriving DecidableEq

/-- The area of the first statement that covers an address. -/
def areaIn (ip : String) : List OspfNetwork → Except Fault (Option Int)
  | [] => .ok none
  | n :: rest => do
    if ← n.covers ip then return some n.area
    areaIn ip rest

/-- The area that an address is in. -/
def OspfConfig.areaFor (c : OspfConfig) (ip : String) : Except Fault (Option Int) :=
  areaIn ip c.networks

/-- A router on the other side of an interface. -/
structure OspfNeighbor where
  neighborId : String
  address : String
  interface : String
  state : String := "FULL"
deriving DecidableEq

/-- The RIP process of a router. -/
structure RipConfig where
  version : Int := 1
  networks : List String := []
  autoSummary : Bool := true
  passiveInterfaces : List String := []
deriving DecidableEq

end NetRack
