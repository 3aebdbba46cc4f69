import NetRack.Proofs.Settings.Line

/-!
# Interfaces that are mentioned

The configuration of a device mentions interfaces by name: the console may have one under configuration, static
routes leave by them, routing processes keep silent on them, ports belong to port channels, and addresses are
translated to theirs.  A line can name an interface that is still to be made, so whatever takes a name down has
to see to it that the interface is there.  All do but the translation of addresses, which takes down what it is
given.  This is the only way in which a name is mentioned that no interface goes by.
-/

namespace NetRack

open Console Outcome

namespace Device

/-- The configuration of a device refers to an interface, other than to translate addresses to its own. -/
inductive Refers (d : Device) : String → Prop where
  | context {name : String} (focus : d.context.interface = some name) : d.Refers name
  | route {r : Route} {name : String} (hr : r ∈ d.routes) (static : r.isFrom .static = true)
      (exit : r.interface = some name) : d.Refers name
  | ospf {config : OspfConfig} {name : String} (hc : d.ospf = some config)
      (silent : name ∈ config.passiveInterfaces) : d.Refers name
  | rip {config : RipConfig} {name : String} (hc : d.rip = some config)
      (silent : name ∈ config.passiveInterfaces) : d.Refers name
  | channel {key : String} {i : Interface} {group : Int} (hi : d.interfaces.get? key = some i)
      (member : i.channelGroup = some group) : d.Refers (InterfaceName.ofGroup group)

/-- Addresses of an access list are translated to that of an interface. -/
def TranslatesTo (d : Device) (name : String) : Prop := ∃ e ∈ d.nat.dynamics, e.interface = some name

/-- A name is mentioned that no interface goes by. -/
def Dangles (d : Device) : Prop :=
  ∃ name, (d.Refers name ∨ d.TranslatesTo name) ∧ d.interfaces.contains name = false

/-- The interface under configuration is there. -/
theorem Seated.context_known {d : Device} (h : d.Seated) {name : String}
    (focus : d.context.interface = some name) : name ∈ d.interfaces.keys := by
  have object := h.object
  have focused := h.focused
  unfold Focused at focused
  rw [focused] at focus
  unfold HasObject at object
  cases hm : d.mode with
  | interfaceConfig =>
    simp only [hm] at object
    obtain ⟨key, i, hkey, hi⟩ := object
    rw [hm] at focus
    obtain rfl : key = name := Option.some.inj (hkey.symm.trans focus)
    exact Table.mem_keys_of_get? hi
  | _ =>
    rw [hm] at focus
    cases focus

end Device

theorem mem_settings_iff {d : Device} {name : String} :
    name ∈ d.settings.ports.keys ↔ d.interfaces.contains name = true := by
  rw [show d.settings.ports = d.features from rfl, Device.keys_features]
  exact Table.contains_iff.symm

/-! ## What steps keep -/

/-- Interfaces that settings refer to are there. -/
structure Settings.Refer (s : Settings) : Prop where
  exits : ∀ r ∈ s.routes, ∀ name, r.interface = some name → name ∈ s.ports.keys
  ospf : ∀ config, s.ospf = some config → ∀ name ∈ config.passiveInterfaces, name ∈ s.ports.keys
  rip : ∀ config, s.rip = some config → ∀ name ∈ config.passiveInterfaces, name ∈ s.ports.keys
  channels : ∀ k f group, s.ports.get? k = some f → f.group = some group →
    InterfaceName.ofGroup group ∈ s.ports.keys

/-- Interfaces whose addresses settings translate to are there. -/
def Settings.Translate (s : Settings) : Prop :=
  ∀ e ∈ s.nat.dynamics, ∀ name, e.interface = some name → name ∈ s.ports.keys

/-- A change of features puts an interface into no group. -/
theorem PortFeatures.Change.group {f g : PortFeatures} {c : Command} (change : f.Change c g) {group : Int}
    (member : g.group = some group) : f.group = some group := by
  cases change with
  | leave => cases member
  | _ => exact member

/-- The port channel that a port joins is there from then on. -/
theorem PortStep.has_channel {t t' : Table String PortFeatures} {group : Int} {mode : ChannelMode}
    (step : PortStep t (.interface (.channelGroup group mode)) t') : InterfaceName.ofGroup group ∈ t'.keys := by
  cases step with
  | join hf agree => exact (keys_join ..).2 (Or.inr rfl)
  | change hf change => cases change

section Parts

variable {d : Device} {c : Command} {name : String}

/-- A static route leaves by an interface that one left by before, or by one of the device. -/
theorem RouteStep.exit {routes routes' : List Route} (step : RouteStep routes c routes') (bounded : c.Bounded d)
    {r : Route} (hr : r ∈ routes') (exit : r.interface = some name) :
    (∃ x ∈ routes, x.interface = some name) ∨ d.interfaces.contains name = true := by
  cases step with
  | drop mem => exact Or.inl ⟨r, mem r hr, exit⟩
  | put configures mem =>
    rcases mem r hr with rfl | ⟨hr, -⟩
    · cases configures with
      | gateway gateway => cases exit
      | route n target distance =>
        cases target with
        | hop a => cases exit
        | exit out =>
          obtain rfl : out = name := Option.some.inj exit
          exact Or.inr (bounded.1 out rfl)
    · exact Or.inl ⟨r, hr, exit⟩

/-- OSPF keeps silent where it did before, or on an interface that is there. -/
theorem OspfStep.silent {names : List String} {o : Option OspfConfig} {config : OspfConfig}
    (step : OspfStep names o c (some config)) (silent : name ∈ config.passiveInterfaces) :
    (∃ earlier, o = some earlier ∧ name ∈ earlier.passiveInterfaces) ∨ name ∈ names := by
  generalize hc : some config = o' at step
  cases step with
  | start process =>
    cases hc
    cases ho : o with
    | none =>
      rw [ho] at silent
      cases silent
    | some earlier =>
      rw [ho] at silent
      exact Or.inl ⟨earlier, rfl, silent⟩
  | stop process => cases hc
  | statement ho _ => cases hc; exact Or.inl ⟨_, ho, silent⟩
  | noStatement entry ho => cases hc; exact Or.inl ⟨_, ho, silent⟩
  | identify ho => cases hc; exact Or.inl ⟨_, ho, silent⟩
  | silence ho known =>
    cases hc
    rcases mem_addOnce silent with silent | rfl
    · exact Or.inl ⟨_, ho, silent⟩
    · exact Or.inr known

/-- RIP keeps silent where it did before, or on an interface that is there. -/
theorem RipStep.silent {names : List String} {o : Option RipConfig} {config : RipConfig}
    (step : RipStep names o c (some config)) (silent : name ∈ config.passiveInterfaces) :
    (∃ earlier, o = some earlier ∧ name ∈ earlier.passiveInterfaces) ∨ name ∈ names := by
  generalize hc : some config = o' at step
  cases step with
  | start =>
    cases hc
    cases ho : o with
    | none =>
      rw [ho] at silent
      cases silent
    | some earlier =>
      rw [ho] at silent
      exact Or.inl ⟨earlier, rfl, silent⟩
  | stop => cases hc
  | change ho same => cases hc; exact Or.inl ⟨_, ho, same ▸ silent⟩
  | silence ho known =>
    cases hc
    rcases mem_addOnce silent with silent | rfl
    · exact Or.inl ⟨_, ho, silent⟩
    · exact Or.inr known

/-- A port belongs to a group that a port belonged to before, or to one whose port channel is there. -/
theorem PortStep.member {t t' : Table String PortFeatures} (step : PortStep t c t') {k : String} {f : PortFeatures}
    (hf : t'.get? k = some f) {group : Int} (member : f.group = some group) :
    (∃ j g, t.get? j = some g ∧ g.group = some group) ∨ InterfaceName.ofGroup group ∈ t'.keys := by
  cases step.origin hf with
  | kept hf => exact Or.inl ⟨k, f, hf, member⟩
  | changed hg change => exact Or.inl ⟨k, _, hg, change.group member⟩
  | fresh given same =>
    subst same
    cases member
  | joined given hg same agree =>
    subst same given
    cases member
    exact Or.inr step.has_channel
  | channel given hk new hg same =>
    subst same
    cases member

end Parts

namespace Settings

variable {d : Device} {c : Command} {s s' : Settings}

theorem Refer.factory (type : DeviceType) (hostname id : String) :
    (Device.factory type hostname id).settings.Refer where
  exits := fun _ hr => (List.not_mem_nil hr).elim
  ospf := fun _ none => by cases none
  rip := fun _ none => by cases none
  channels := by
    intro k f group hf member
    cases Device.features_factory hf
    cases member

theorem Refer.step (h : d.settings.Refer) (bounded : c.Bounded d) (step : d.settings.Step c s) : s.Refer := by
  have keeps := step.keeps
  constructor
  · intro r hr name exit
    refine keeps _ ?_
    rcases step.ofRoutes with same | step
    · exact h.exits r (same ▸ hr) name exit
    · rcases step.exit bounded hr exit with ⟨x, hx, exit⟩ | here
      · exact h.exits x hx name exit
      · exact mem_settings_iff.2 here
  · intro config hc name silent
    refine keeps _ ?_
    rcases step.ofOspf with same | step
    · exact h.ospf config (same ▸ hc) name silent
    · rcases (hc ▸ step).silent silent with ⟨earlier, ho, silent⟩ | here
      · exact h.ospf earlier ho name silent
      · exact here
  · intro config hc name silent
    refine keeps _ ?_
    rcases step.ofRip with same | step
    · exact h.rip config (same ▸ hc) name silent
    · rcases (hc ▸ step).silent silent with ⟨earlier, ho, silent⟩ | here
      · exact h.rip earlier ho name silent
      · exact here
  · intro k f group hf member
    rcases step.ofPorts with same | step
    · exact keeps _ (h.channels k f group (same ▸ hf) member)
    · rcases step.member hf member with ⟨j, g, hg, member⟩ | here
      · exact keeps _ (h.channels j g group hg member)
      · exact here

/-- What a device refers to is there, if its settings and its console refer to what is. -/
theorem Refer.contains (h : d.settings.Refer) (seated : d.Seated) {name : String} (refers : d.Refers name) :
    d.interfaces.contains name = true := by
  cases refers with
  | context focus => exact Table.contains_iff.2 (seated.context_known focus)
  | route hr static exit => exact mem_settings_iff.1 (h.exits _ (mem_statics.2 ⟨hr, static⟩) _ exit)
  | ospf hc silent => exact mem_settings_iff.1 (h.ospf _ hc _ silent)
  | rip hc silent => exact mem_settings_iff.1 (h.rip _ hc _ silent)
  | channel hi member => exact mem_settings_iff.1 (h.channels _ _ _ (Device.get?_features_of_get? hi) member)

/-- Translations stay in place, unless a line gives one to an interface that is not there. -/
theorem Translate.step (h : s.Translate) (step : s.Step c s')
    (calm : ∀ acl name pool overload, c = .global (.natDynamic acl (some name) pool overload) →
      name ∈ s.ports.keys) : s'.Translate := by
  intro e he name egress
  refine step.keeps _ ?_
  rcases step.ofNat with same | step
  · exact h e (same ▸ he) name egress
  · generalize s'.nat = n at step he
    cases step with
    | fixed free => exact h e he name egress
    | dynamic known =>
      rcases List.mem_append.1 he with he | he
      · exact h e (List.mem_filter.1 he).1 name egress
      · cases List.mem_singleton.1 he
        cases egress
        exact calm _ name _ _ rfl
    | pool ordered => exact h e he name egress

end Settings

/-! ## Histories -/

namespace Topology

/-- A line has addresses translated to that of an interface that its device does not have. -/
inductive Misdirects (t : Topology) : Change → Prop where
  | line {explainer : Option Explainer} {device line acl name : String} {pool : Option String} {overload : Bool}
      {d : Device} (hd : t.device device = .ok d)
      (asks : Asks d line (.global (.natDynamic acl (some name) pool overload)))
      (missing : d.interfaces.contains name = false) : t.Misdirects (.command explainer device line)

/-- Some device mentions an interface that it does not have. -/
def Dangles (t : Topology) : Prop := ∃ k d, t.devices.get? k = some d ∧ d.Dangles

/-- All that devices refer to, other than to translate addresses to it, is there. -/
def Refers (t : Topology) : Prop :=
  ∀ k d, t.devices.get? k = some d → ∀ name, d.Refers name → d.interfaces.contains name = true

/-- The settings of all devices refer and translate to interfaces that are there. -/
def Directed (t : Topology) : Prop :=
  ∀ k d, t.devices.get? k = some d → d.settings.Refer ∧ d.settings.Translate

variable {t : Topology}

theorem Directed.not_dangles (h : t.Directed) (ordered : t.Orderly) : ¬t.Dangles := by
  rintro ⟨k, d, hd, name, mentioned, missing⟩
  obtain ⟨refer, translate⟩ := h k d hd
  refine Bool.eq_false_iff.1 missing ?_
  rcases mentioned with refers | ⟨e, he, egress⟩
  · exact refer.contains (ordered.seated k d hd) refers
  · exact mem_settings_iff.1 (translate e he name egress)

/-- Where nothing is misdirected, translations stay in place. -/
theorem Directed.next (h : t.Directed) (ordered : t.Orderly) {change : Change} (calm : ¬t.Misdirects change) :
    (t.next change).Directed := by
  refine ordered.devices_next (P := fun d => d.settings.Refer ∧ d.settings.Translate)
    (fun type hostname id => ⟨.factory type hostname id, fun e he => (List.not_mem_nil he).elim⟩)
    (fun d d' same h => Device.settings_of_frame same ▸ h) (fun d _ h => h) h change ?_
  intro explainer device line d c o given hd asks done ⟨refer, translate⟩
  have step := (command_settings (ordered.sound.devices _ d (device_eq_ok.1 hd)) t c).value done
  refine ⟨refer.step asks.bounded step, translate.step step fun acl name pool overload hc => ?_⟩
  subst hc
  by_contra missing
  exact calm (given ▸ .line hd asks (Bool.eq_false_iff.2 fun there => missing (mem_settings_iff.2 there)))

/-- What is misdirected dangles. -/
theorem Orderly.dangles_next (h : t.Orderly) {change : Change} (misdirects : t.Misdirects change) :
    (t.next change).Dangles := by
  cases misdirects with
  | @line explainer device line acl name pool overload d hd asks missing =>
    -- The line names no pool, so that nothing stops it.
    obtain rfl : pool = none := asks.bounded.resolve_left fun none => by cases none
    have made : made t d line = { d with nat := { d.nat with
        dynamics := d.nat.dynamics.filter (·.acl ≠ acl) ++ [⟨acl, some name, none, overload⟩] } } := by
      rw [made_command asks]
      rfl
    have frame := next_frame h explainer hd (asks.not_trips trivial)
    rw [made] at frame
    obtain ⟨x, hx, same⟩ := device_of_frame frame.symm (get?_replaced_self (device_eq_ok.1 hd) _)
    have settings := Device.settings_of_frame same
    refine ⟨_, x, hx, name, Or.inr ⟨⟨acl, some name, none, overload⟩, ?_, rfl⟩, ?_⟩
    · rw [show x.nat = _ from (congrArg Settings.nat settings).symm]
      exact List.mem_append_right _ (List.mem_singleton.2 rfl)
    · rw [Bool.eq_false_iff]
      intro there
      have known := mem_settings_iff.2 there
      rw [← settings] at known
      exact Bool.eq_false_iff.1 missing (mem_settings_iff.1 known)

/-- However a lab goes on, what its devices refer to is there. -/
theorem reached_refers (cs : List Change) : (reached cs).Refers := by
  intro k d hd name refers
  have refer : d.settings.Refer :=
    reached_settings Settings.Refer.factory (fun _ _ _ _ _ bounded h s => h.step bounded s) cs hd
  exact refer.contains ((reached_orderly cs).seated k d hd) refers

/-- Whatever else devices refer to is always there.  And no device mentions an interface that it lacks at any
time in the history of a lab, unless a line has addresses translated to such an interface at some time. -/
theorem reached_dangles_iff (cs : List Change) :
    (reached cs).Refers ∧ ((∃ before, before <+: cs ∧ (reached before).Dangles) ↔
      ∃ before c, before ++ [c] <+: cs ∧ (reached before).Misdirects c) := by
  have start : Directed {} := fun k d hd => by cases hd
  refine ⟨reached_refers cs, reached_ever_iff start ?_ ?_ ?_ cs⟩
  · exact fun t c ordered h calm => h.next ordered calm
  · exact fun t h ordered => h.not_dangles ordered
  · exact fun t c ordered misdirects => ordered.dangles_next misdirects

end Topology

end NetRack
