import NetRack.Table
import NetRack.Vocabulary

/-!
# Services of a device

Terminal lines, address pools, address translation and the spanning tree.
-/

namespace NetRack

/-- How users of a line prove who they are. -/
inductive LoginMethod where
  | password
  | account
deriving DecidableEq, Repr, Inhabited

instance : Vocabulary LoginMethod where
  words := [.password, .account]
  spelling
    | .password => "login"
    | .account => "local"

instance : Vocabulary.Lawful LoginMethod := ⟨fun w => by cases w <;> decide⟩

/-- The protocols by which a line may be reached. -/
inductive Transport where
  | ssh
  | telnet
  | all
  | none
deriving DecidableEq, Repr, Inhabited

instance : Vocabulary Transport where
  words := [.ssh, .telnet, .all, .none]
  spelling
    | .ssh => "ssh"
    | .telnet => "telnet"
    | .all => "all"
    | .none => "none"

instance : Vocabulary.Lawful Transport := ⟨fun w => by cases w <;> decide⟩

/-- The variants of the spanning tree protocol. -/
inductive StpMode where
  | pvst
  | rapidPvst
  | mst
deriving DecidableEq, Repr, Inhabited

instance : Vocabulary StpMode where
  words := [.pvst, .rapidPvst, .mst]
  spelling
    | .pvst => "pvst"
    | .rapidPvst => "rapid-pvst"
    | .mst => "mst"

instance : Vocabulary.Lawful StpMode := ⟨fun w => by cases w <;> decide⟩

/-- The configuration of a terminal line. -/
structure LineConfig where
  name : String
  password : Option String := none
  login : Option (Stored LoginMethod) := none
  transport : Option (Stored Transport) := none
  /-- Minutes and seconds. -/
  execTimeout : Option (Int × Int) := none
  loggingSynchronous : Bool := false
deriving DecidableEq

/-- A pool of addresses to be leased. -/
structure DhcpPool where
  name : String
  network : Option String := none
  mask : Option String := none
  defaultRouter : Option String := none
  dnsServers : List String := []
  domainName : Option String := none
  leaseDays : Option Int := none
deriving DecidableEq

/-- A fixed translation of one address. -/
structure NatStatic where
  localAddress : String
  globalAddress : String
deriving DecidableEq

/-- A range of addresses to translate to. -/
structure NatPool where
  name : String
  first : String
  last : String
  netmask : String
deriving DecidableEq

/-- A translation of the addresses that an access list permits. -/
structure NatDynamic where
  acl : String
  interface : Option String := none
  pool : Option String := none
  overload : Bool := false
deriving DecidableEq

/-- The address translation of a device. -/
structure NatConfig where
  statics : List NatStatic := []
  pools : Table String NatPool := ∅
  dynamics : List NatDynamic := []
deriving DecidableEq

/-- The spanning tree of a switch. -/
structure StpConfig where
  mode : Stored StpMode := .known .pvst
  vlanPriority : Table Int Int := ∅
deriving DecidableEq

end NetRack
