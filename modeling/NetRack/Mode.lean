import NetRack.Vocabulary

/-!
# Console modes

The mode of a console decides which commands it reads.  A configuration mode is left towards the
mode that the console's stack of modes holds on top; a submode configures one object.
-/

namespace NetRack

/-- The modes of a console. -/
inductive Mode where
  | user
  | privileged
  | globalConfig
  | interfaceConfig
  | routerConfig
  | lineConfig
  | vlanConfig
  | dhcpConfig
  | aclConfig
deriving DecidableEq, Repr, Inhabited

namespace Mode

instance : Vocabulary Mode where
  words := [.user, .privileged, .globalConfig, .interfaceConfig, .routerConfig, .lineConfig,
    .vlanConfig, .dhcpConfig, .aclConfig]
  spelling
    | .user => "user"
    | .privileged => "privileged"
    | .globalConfig => "global_config"
    | .interfaceConfig => "interface_config"
    | .routerConfig => "router_config"
    | .lineConfig => "line_config"
    | .vlanConfig => "vlan_config"
    | .dhcpConfig => "dhcp_config"
    | .aclConfig => "acl_config"

instance : Vocabulary.Lawful Mode := ⟨fun w => by cases w <;> decide +kernel⟩

/-- All modes. -/
def all : List Mode := Vocabulary.words

/-- The name of a mode. -/
def text (m : Mode) : String := Vocabulary.spelling m

/-- What the prompt of a mode shows after the host name. -/
def promptMark : Mode → String
  | user => ">"
  | privileged => "#"
  | globalConfig => "(config)#"
  | interfaceConfig => "(config-if)#"
  | routerConfig => "(config-router)#"
  | lineConfig => "(config-line)#"
  | vlanConfig => "(config-vlan)#"
  | dhcpConfig => "(dhcp-config)#"
  | aclConfig => "(config-ext-nacl)#"

/-- Whether commands of the mode change the configuration. -/
def isConfig (m : Mode) : Bool := m ≠ user && m ≠ privileged

/-- Whether the mode configures one object. -/
def isSubmode (m : Mode) : Bool := m.isConfig && m ≠ globalConfig

end Mode

end NetRack
