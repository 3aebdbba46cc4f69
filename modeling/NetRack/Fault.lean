import NetRack.Mode

/-!
# Faults

A fault is the cause for which an operation of the lab gives no result at all.  A command that a
device merely refuses is no fault; refusals are the console's business.
-/

namespace NetRack

/-- A way in which devices and links contradict each other. -/
inductive Inconsistency where
  /-- A link ends at a port that does not exist. -/
  | unknownEnd (link device port : String)
  /-- Two link ends share a port. -/
  | sharedPort (device port : String)
  /-- A link's state differs from what its ends are set to. -/
  | linkState (link : String) (up : Bool)
  /-- A port works although it is shut down. -/
  | portState (device port : String)
  /-- A mode configures an object that is not there. -/
  | lostObject (mode : Mode)
deriving DecidableEq, Repr

/-- What is wrong, in words. -/
def Inconsistency.message : Inconsistency → String
  | unknownEnd link device port => s!"link {link} references unknown endpoint {device}:{port}"
  | sharedPort device port => s!"port {device}:{port} appears in more than one link"
  | linkState link up =>
    s!"link {link} is " ++ (if up then "up" else "down") ++ " against endpoint admin state"
  | portState device port => s!"{device} {port} is operationally up while shut down"
  | lostObject mode => mode.text ++ " mode without a valid object to configure"

/-- Why devices and cables cannot be changed as asked. -/
inductive EditRefusal where
  | unknownType (text : String)
  | emptyId
  | duplicateId (id : String)
  | noPhysicalPort (device port : String)
  | selfLink
  | alreadyConnected (device port : String)
  | notConnected (device port : String)
deriving DecidableEq, Repr

/-- The refusal in words. -/
def EditRefusal.message : EditRefusal → String
  | unknownType text => s!"Unknown device type: {text}"
  | emptyId => "Device id must not be empty"
  | duplicateId id => s!"Device already exists: {id}"
  | noPhysicalPort device port => s!"{device} has no physical port {port}"
  | selfLink => "Cannot connect a port to itself"
  | alreadyConnected device port => s!"{device} {port} is already connected"
  | notConnected device port => s!"{device} {port} is not connected"

/-- Why an operation gives no result. -/
inductive Fault where
  /-- A text is no address. -/
  | badAddress
  /-- A text is no mask. -/
  | badMask
  /-- An address has bits set outside its mask. -/
  | hostBits
  /-- A text is no number, or one with too many digits. -/
  | badNumber
  /-- No device has the name. -/
  | unknownDevice (name : String)
  /-- A table has no entry for the key. -/
  | noEntry (key : String)
  /-- A device has no port where one is needed. -/
  | noPort
  /-- A console configures no routing process where one is needed. -/
  | noProcess
  /-- A value is no text where one is needed. -/
  | notText
  /-- A change of devices or cables is refused. -/
  | edit (cause : EditRefusal)
  /-- The lab is inconsistent. -/
  | inconsistent (cause : Inconsistency)
  /-- A mode finds no room on the stack of modes. -/
  | stackOverflow (mode : Mode)
  /-- The stack of modes is empty. -/
  | stackUnderflow
deriving DecidableEq, Repr

namespace Fault

/-- The fault in words, where it has any. -/
def message? : Fault → Option String
  | unknownDevice name => some s!"Unknown device: {name}"
  | noEntry key => some key
  | edit cause => some cause.message
  | inconsistent cause => some cause.message
  | stackOverflow mode => some ("mode stack overflow pushing " ++ mode.text)
  | stackUnderflow => some "mode stack underflow"
  | _ => none

/-- Whether the fault means that the lab itself went wrong. -/
def isInternal : Fault → Bool
  | inconsistent _ => true
  | stackOverflow _ => true
  | stackUnderflow => true
  | _ => false

end Fault

/-- The value that must be there, or the fault of a missing entry. -/
def need (key : String) : Option α → Except Fault α
  | some v => .ok v
  | none => .error (.noEntry key)

/-- The number that must be readable. -/
def needNumber : Option α → Except Fault α
  | some v => .ok v
  | none => .error .badNumber

end NetRack
