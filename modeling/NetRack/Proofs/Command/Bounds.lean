import NetRack.Proofs.Command.Decode

/-!
# Bounds of what lines ask for

A console makes sure of more than that the arguments of a command are there.  The numbers of VLANs and the
distances of static routes lie within bounds, a route leaves by an interface that the device has, a rule without
a protocol looks at sources only, and addresses are translated to that of an interface or to those of a pool.
-/

namespace NetRack

/-- The numbers that a VLAN can have. -/
def IsVlan (v : Int) : Prop := 1 ≤ v ∧ v ≤ 4094

/-- A rule without a protocol leads anywhere. -/
def RuleEntry.Bounded (e : RuleEntry) : Prop := e.protocol = none → e.destination = .any

/-- The numbers of a change are those of VLANs. -/
def TrunkChange.Bounded : TrunkChange → Prop
  | .set vs | .add vs | .remove vs | .except vs => ∀ v ∈ vs, IsVlan v
  | _ => True

/-- What a console makes sure of about a global command, given the device. -/
def GlobalCommand.Bounded (d : Device) : GlobalCommand → Prop
  | .ipRoute _ _ target distance =>
    (∀ name, target = .exit name → d.interfaces.contains name = true) ∧ 1 ≤ distance ∧ distance ≤ 255
  | .vlan v => IsVlan v
  | .accessListNumbered _ e => e.Bounded
  | .natDynamic _ egress pool _ => egress = none ∨ pool = none
  | .stpVlanPriority v _ => IsVlan v
  | _ => True

/-- What a console makes sure of about an interface command. -/
def InterfaceCommand.Bounded : InterfaceCommand → Prop
  | .switchportAccessVlan v => IsVlan v
  | .trunkAllowed change => change.Bounded
  | .trunkNative v => IsVlan v
  | .encapsulation v => IsVlan v
  | _ => True

/-- What a console makes sure of about a command, given the device. -/
def Command.Bounded (d : Device) : Command → Prop
  | .global c => c.Bounded d
  | .interface c => c.Bounded
  | .aclRule e => e.Bounded
  | _ => True

/-! ## What a line gives -/

section Options

variable {P : α → Prop} {o o' : Option α}

theorem mem_or (ho : ∀ x ∈ o, P x) (ho' : ∀ x ∈ o', P x) : ∀ x ∈ o.or o', P x := by
  cases o with
  | none => exact ho'
  | some y => exact ho

theorem mem_map {P : β → Prop} {f : α → β} (ho : ∀ x ∈ o, P (f x)) : ∀ y ∈ o.map f, P y := by
  intro y hy
  obtain ⟨x, hx, rfl⟩ := Option.map_eq_some_iff.1 hy
  exact ho x hx

theorem mem_getD {a : α} (ho : ∀ x ∈ o, P x) (ha : P a) : P (o.getD a) := by
  cases o with
  | none => exact ha
  | some y => exact ho y rfl

end Options

/-- The verb of a line gives a command, which is of one of the groups of commands. -/
inductive ResolvedCommand.Gives (r : ResolvedCommand) : Command → Prop where
  | exec {c : ExecCommand} (found : r.execCommand? r.verb = some (.ok c)) : r.Gives (.exec c)
  | global {c : GlobalCommand} (found : r.globalCommand? r.verb = some (.ok c)) : r.Gives (.global c)
  | interface {c : InterfaceCommand} (found : r.interfaceCommand? r.verb = some (.ok c)) : r.Gives (.interface c)
  | router {c : RouterCommand} (found : r.routerCommand? r.verb = some (.ok c)) : r.Gives (.router c)
  | line {c : LineCommand} (found : r.lineCommand? r.verb = some (.ok c)) : r.Gives (.line c)
  | pool {c : PoolCommand} (found : r.poolCommand? r.verb = some (.ok c)) : r.Gives (.pool c)
  | other {c : Command} (found : r.otherCommand? r.verb = some (.ok c)) : r.Gives c

theorem ResolvedCommand.gives {r : ResolvedCommand} {c : Command} (h : r.command = .ok c) : r.Gives c := by
  let P (x : Except Fault Command) : Prop := x = .ok c → r.Gives c
  have group {α : Type} {found : Option (Except Fault α)} {f : α → Command}
      (hf : ∀ a, found = some (.ok a) → r.Gives (f a)) : ∀ x ∈ found.map (f <$> ·), P x := mem_map fun x hmem hx => by
    obtain ⟨a, rfl, rfl⟩ := map_eq_ok.1 hx
    exact hf a hmem
  have rest : ∀ x ∈ r.otherCommand? r.verb, P x := fun x hmem hx => .other (hx ▸ hmem)
  revert h
  unfold ResolvedCommand.command
  have groups := mem_or (mem_or (mem_or (mem_or (mem_or (group fun _ => .exec) (group fun _ => .global))
    (group fun _ => .interface)) (group fun _ => .router)) (group fun _ => .line)) (group fun _ => .pool)
  exact mem_getD (P := P) (mem_or groups rest) fun h => by cases h

/-- What a command of every group has, the command has that a resolved line gives. -/
theorem command_returns {P : Command → Prop} {r : ResolvedCommand}
    (exec : ∀ x ∈ r.execCommand? r.verb, Returns (fun c => P (.exec c)) x)
    (global : ∀ x ∈ r.globalCommand? r.verb, Returns (fun c => P (.global c)) x)
    (interface : ∀ x ∈ r.interfaceCommand? r.verb, Returns (fun c => P (.interface c)) x)
    (router : ∀ x ∈ r.routerCommand? r.verb, Returns (fun c => P (.router c)) x)
    (line : ∀ x ∈ r.lineCommand? r.verb, Returns (fun c => P (.line c)) x)
    (pool : ∀ x ∈ r.poolCommand? r.verb, Returns (fun c => P (.pool c)) x)
    (other : ∀ x ∈ r.otherCommand? r.verb, Returns P x) : Returns P r.command := by
  refine .of_value fun c hc => ?_
  cases r.gives hc with
  | exec found => exact exec _ found
  | global found => exact global _ found
  | interface found => exact interface _ found
  | router found => exact router _ found
  | line found => exact line _ found
  | pool found => exact pool _ found
  | other found => exact other _ found

/-- What the commands have that resolved lines give, the command has that a line asks for. -/
theorem Console.request?_returns {P : Command → Prop} {d : Device} {mode : Mode} (line : String) (offset : Int)
    (h : ∀ r : ResolvedCommand, ∀ e ∈ (Grammar.root mode (platform d)).ends [], r.verb = e.1 →
      r.arguments.Follow (some d) e.2 → Returns P r.command) :
    Returns (fun q => ∀ c, q = some (.command c) → P c) (request? d line mode offset) := by
  unfold request?
  cases hr : resolve line (Grammar.root mode (platform d)) (some d) offset with
  | error f => trivial
  | ok x =>
    cases x with
    | none => exact fun c hc => by cases hc
    | some x =>
      cases x with
      | error e => trivial
      | ok r =>
        obtain ⟨e, he, hverb, follow⟩ := resolve_follows hr
        have asked : Returns (fun q => ∀ c, q = .command c → P c) r.request := by
          refine .ite (.after fun _ => fun c hc => by cases hc) ?_
          refine .map ((h r e he hverb follow).imp fun c hc c' same => ?_)
          cases same
          exact hc
        refine asked.lift.bind fun q hq => fun c hc => ?_
        cases hc
        exact hq c rfl

/-! ## What the grammars bound -/

open NodeLabel in
/-- Whether the labels on the way to a verb bound the number of a VLAN, record a destination only beside a
protocol, and not both an interface and a pool. -/
def Verb.isBounded (trail : List NodeLabel) : Verb → Bool
  | .vlan | .stpVlanPriority | .switchportAccessVlan | .trunkNative | .encapsulation =>
    (recorded trail "vlan").any (givesIntWithin 1 4094)
  | .natDynamic => (recorded trail "interface").isNone || (recorded trail "pool").isNone
  | .accessListNumbered | .aclRule => (recorded trail "protocol").isSome || (recorded trail "dst").isNone
  | _ => true

theorem root_bounds {m : Mode} {p : Grammar.Platform} {e : Verb × List NodeLabel}
    (he : e ∈ (Grammar.root m p).ends []) : e.1.isBounded e.2 = true := by
  have modes : ∀ e ∈ (Grammar.ofMode m).ends [], e.1.isBounded e.2 = true := by
    cases m <;> decide +kernel
  have host : ∀ e ∈ Grammar.hostGrammar.ends [], e.1.isBounded e.2 = true := by decide +kernel
  cases p with
  | ios => exact modes e he
  | host => exact host e he

/-! ## Lists of VLANs -/

namespace Argument

theorem readVlan_bounds {cs : List Char} : Returns IsVlan (readVlan cs) := .of_value fun _ read => readInt_bounded read

theorem readVlanPart_bounds (part : List Char) :
    Returns (fun s => ∀ v ∈ s.ids, IsVlan v) (readVlanPart part) := by
  unfold readVlanPart
  refine .ite (readVlan_bounds.bind fun low hlow => readVlan_bounds.bind fun high hhigh => ?_)
    (readVlan_bounds.bind fun v hv => ?_)
  · split
    · intro v hv
      obtain ⟨i, hi, rfl⟩ := List.mem_map.1 hv
      have below := List.mem_range.1 hi
      unfold IsVlan at *
      omega
    · trivial
  · rintro w hw
    rwa [List.mem_singleton.1 hw]

/-- A list of VLANs that has been read has numbers of VLANs only. -/
theorem readVlanSet_bounds (raw : String) : Returns (fun s => ∀ v ∈ s.ids, IsVlan v) (readVlanSet raw) := by
  refine .foldlM (fun v hv => by cases hv) fun set part hset => ?_
  refine (readVlanPart_bounds part).bind fun s hs v hv => ?_
  rcases (mem_mergeIds _ _).1 hv with hv | hv
  · exact hs v hv
  · exact hset v hv

theorem read_vlans_bounds {kind : ArgKind} {low high : Option Int} {device : Option Device} {raw : String}
    {ids : List Int} (h : read kind low high device raw = .ok (.vlans ids)) : ∀ v ∈ ids, IsVlan v := by
  obtain ⟨-, set, hset, rfl⟩ := read_eq_vlans h
  exact (readVlanSet_bounds raw).value hset

end Argument

/-! ## Decoding -/

section Decoding

open NodeLabel

variable {d : Device} {trail : List NodeLabel} {r : ResolvedCommand} {v : Verb}
  (h : r.arguments.Follow (some d) trail)

include h

theorem vlanList_bounds (name : String) : ∀ v ∈ r.vlanList name, IsVlan v := by
  unfold ResolvedCommand.vlanList
  split
  · rename_i ids found
    have follow := h name
    split at follow
    · rename_i l _
      obtain ⟨x, hx, allowed⟩ := follow
      obtain rfl : .vlans ids = x := Option.some.inj (found.symm.trans hx)
      cases l with
      | keyword token binds => cases allowed
      | argument slot kind low high =>
        obtain ⟨raw, read⟩ := allowed
        exact Argument.read_vlans_bounds read
    · rw [follow] at found
      cases found
  · exact fun v hv => by cases hv

theorem trunkChange_bounds : r.trunkChange.Bounded := by
  unfold ResolvedCommand.trunkChange
  dsimp only
  split
  all_goals first
    | trivial
    | exact vlanList_bounds h "vlans"

/-- What no label on the way records is not given. -/
theorem optional_unrecorded {α : Type} {name : String} (hl : (recorded trail name).isNone = true)
    (f : String → Except Fault α) : Returns (· = none) (r.optional name f) := by
  have bare : r.has name = false := by
    rw [has_iff h, ← Option.not_isNone, hl]
    rfl
  unfold ResolvedCommand.optional
  rw [bare]
  rfl

/-- A rule without a protocol has been given no destination. -/
theorem ruleEntry_bounds (hb : ((recorded trail "protocol").isSome || (recorded trail "dst").isNone) = true) :
    Returns RuleEntry.Bounded r.ruleEntry := by
  have absent : (recorded trail "dst").isNone = true → r.pattern "dst" = .any := by
    intro bare
    have unread : r.arguments.get? "dst" = none := by
      rw [← Option.isNone_iff_eq_none, ← Option.not_isSome, ← Table.contains_eq_isSome]
      show (!r.has "dst") = true
      rw [has_iff h, Option.not_isSome]
      exact bare
    unfold ResolvedCommand.pattern
    rw [unread]
  have given : Returns (fun protocol : Option Protocol => protocol = none → (recorded trail "dst").isNone = true)
      (r.optional "protocol" fun name => r.word name Protocol) := by
    unfold ResolvedCommand.optional
    rw [has_iff h]
    refine Meets.ite (fun _ => .map (Returns.always fun _ hp => by cases hp)) fun without _ => ?_
    simpa [without] using hb
  exact .after fun _ => given.bind fun protocol hp bare => absent (hp bare)

theorem globalCommand?_bounds (hs : v.isServed trail = true) (hb : v.isBounded trail = true) :
    ∀ x ∈ r.globalCommand? v, Returns (GlobalCommand.Bounded d) x := by
  intro x hx
  cases v with
  | ipRoute =>
    cases hx
    obtain ⟨hs, hdistance⟩ := Bool.and_eq_true_iff.1 hs
    obtain ⟨-, htarget⟩ := Bool.and_eq_true_iff.1 hs
    have distance := optional_yields h fun (hsome : (recorded trail "distance").isSome = true) =>
      intWithin_yields h (any_of_all hdistance hsome)
    refine Returns.bind distance.anyway fun given hgiven => ?_
    refine .after fun _ => .after fun _ => Returns.bind (target_yields h htarget).anyway fun target known => ⟨known, ?_⟩
    cases given with
    | none => decide
    | some n => exact hgiven n rfl
  | vlan => cases hx; exact .map (intWithin_yields h hb).anyway
  | stpVlanPriority => cases hx; exact Returns.bind (intWithin_yields h hb).anyway fun _ hv => .after fun _ => hv
  | accessListNumbered => cases hx; exact .after fun _ => (ruleEntry_bounds h hb).bind fun _ he => he
  | natDynamic =>
    cases hx
    rcases Bool.or_eq_true_iff.1 hb with bare | bare
    · exact .after fun _ => (optional_unrecorded h bare _).bind fun _ none => .after fun _ => Or.inl none
    · exact .after fun _ => .after fun _ => (optional_unrecorded h bare _).bind fun _ none => Or.inr none
  | _ =>
    cases hx <;> first
      | trivial
      | exact Returns.map (.always fun _ => trivial)
      | repeat refine .after fun _ => ?_
        trivial

theorem interfaceCommand?_bounds (hb : v.isBounded trail = true) :
    ∀ x ∈ r.interfaceCommand? v, Returns InterfaceCommand.Bounded x := by
  intro x hx
  cases v with
  | switchportAccessVlan => cases hx; exact .map (intWithin_yields h hb).anyway
  | trunkNative => cases hx; exact .map (intWithin_yields h hb).anyway
  | encapsulation => cases hx; exact .map (intWithin_yields h hb).anyway
  | trunkAllowed => cases hx; exact trunkChange_bounds h
  | _ =>
    cases hx <;> first
      | trivial
      | exact Returns.map (.always fun _ => trivial)
      | repeat refine .after fun _ => ?_
        trivial

theorem otherCommand?_bounds (hb : v.isBounded trail = true) :
    ∀ x ∈ r.otherCommand? v, Returns (Command.Bounded d) x := by
  intro x hx
  cases v with
  | aclRule => cases hx; exact .map (ruleEntry_bounds h hb)
  | _ =>
    cases hx <;> first
      | trivial
      | exact Returns.map (.always fun _ => trivial)
      | repeat refine .after fun _ => ?_
        trivial

theorem command_bounds (hs : r.verb.isServed trail = true) (hb : r.verb.isBounded trail = true) :
    Returns (Command.Bounded d) r.command := by
  exact command_returns (fun _ _ => .always fun _ => trivial) (globalCommand?_bounds h hs hb)
    (interfaceCommand?_bounds h hb) (fun _ _ => .always fun _ => trivial) (fun _ _ => .always fun _ => trivial)
    (fun _ _ => .always fun _ => trivial) (otherCommand?_bounds h hb)

end Decoding

/-- The command that a line asks for is within bounds. -/
theorem Console.request?_bounds (d : Device) (line : String) (mode : Mode) (offset : Int) :
    Returns (fun q => ∀ c, q = some (.command c) → c.Bounded d) (request? d line mode offset) := by
  refine request?_returns line offset fun r e he hverb follow => ?_
  have served := (root_serves he).1
  have bounded := root_bounds he
  rw [← hverb] at served bounded
  exact command_bounds follow served bounded

end NetRack
