import NetRack.Ipv4.Address
import NetRack.Vocabulary

/-!
# Access lists

An access list decides on a packet by the first of its rules that matches.  A list without rules
lets everything pass; otherwise a packet that no rule matches is dropped.
-/

namespace NetRack

/-- What a rule does with a packet. -/
inductive RuleAction where
  | permit
  | deny
deriving DecidableEq, Repr, Inhabited

instance : Vocabulary RuleAction where
  words := [.permit, .deny]
  spelling
    | .permit => "permit"
    | .deny => "deny"

instance : Vocabulary.Lawful RuleAction := ⟨fun w => by cases w <;> decide⟩

/-- The protocols that a rule can name; `ip` stands for all. -/
inductive Protocol where
  | ip
  | icmp
  | tcp
  | udp
deriving DecidableEq, Repr, Inhabited

instance : Vocabulary Protocol where
  words := [.ip, .icmp, .tcp, .udp]
  spelling
    | .ip => "ip"
    | .icmp => "icmp"
    | .tcp => "tcp"
    | .udp => "udp"

instance : Vocabulary.Lawful Protocol := ⟨fun w => by cases w <;> decide⟩

/-- Whether a list looks at sources only or at whole packets. -/
inductive AclKind where
  | standard
  | extended
deriving DecidableEq, Repr, Inhabited

instance : Vocabulary AclKind where
  words := [.standard, .extended]
  spelling
    | .standard => "standard"
    | .extended => "extended"

instance : Vocabulary.Lawful AclKind := ⟨fun w => by cases w <;> decide⟩

/-- A rule of an access list. -/
structure AclRule where
  action : Stored RuleAction
  source : String := "0.0.0.0"
  sourceWildcard : String := "255.255.255.255"
  protocol : Stored Protocol := .known .ip
  destination : String := "0.0.0.0"
  destinationWildcard : String := "255.255.255.255"
  hits : Int := 0
deriving DecidableEq

/-- An access list. -/
structure AccessList where
  name : String
  kind : Stored AclKind := .known .extended
  rules : List AclRule := []
deriving DecidableEq

/-- Whether an address matches a pattern: it agrees with the base in every bit that the wildcard
leaves at zero. -/
def matchesWildcard (base wildcard ip : String) : Except Fault Bool := do
  let w ← Address.read wildcard
  let b ← Address.read base
  let a ← Address.read ip
  return Address.agree w b a

namespace AclRule

/-- Whether a rule applies to packets of a protocol. -/
def coversProtocol (r : AclRule) (protocol : Stored Protocol) : Bool :=
  r.protocol.holds .ip || r.protocol = protocol

/-- Whether a rule matches a packet. -/
def matchesPacket (r : AclRule) (protocol : Stored Protocol) (source destination : String) :
    Except Fault Bool := do
  if !r.coversProtocol protocol then return false
  if !(← matchesWildcard r.source r.sourceWildcard source) then return false
  matchesWildcard r.destination r.destinationWildcard destination

end AclRule

/-- What the first matching rule says, or a refusal if there is none. -/
def decideByRules (protocol : Stored Protocol) (source destination : String) :
    List AclRule → Except Fault Bool
  | [] => .ok false
  | r :: rest => do
    if ← r.matchesPacket protocol source destination then return r.action.holds .permit
    decideByRules protocol source destination rest

/-- Whether a list lets a packet pass. -/
def AccessList.permits (l : AccessList) (protocol : Stored Protocol) (source destination : String) :
    Except Fault Bool :=
  if l.rules.isEmpty then .ok true else decideByRules protocol source destination l.rules

end NetRack
