import NetRack.Proofs.Device

/-!
# Where a console stands

The stack of a console holds just the modes around its mode, it has in view just the object that it
configures, which is there, and the console of an end host stays in user mode.  Entering a mode never
finds the stack full and leaving one never finds it empty.
-/

namespace NetRack

/-- The modes around a mode, the one to return to last. -/
def Mode.outer : Mode → List Mode
  | .user => []
  | .privileged => []
  | .globalConfig => [.privileged]
  | _ => [.privileged, .globalConfig]

/-- The mode that a mode is left towards. -/
def Mode.back : Mode → Mode
  | .user => .user
  | .privileged => .user
  | .globalConfig => .privileged
  | _ => .globalConfig

theorem Mode.outer_of_config {m : Mode} (h : m.isConfig = true) : m.outer = m.back.outer ++ [m.back] := by
  revert h
  cases m <;> decide

theorem Mode.outer_of_not_config {m : Mode} (h : m.isConfig = false) : m.outer = [] := by
  revert h
  cases m <;> decide

theorem Mode.length_outer_le (m : Mode) : m.outer.length ≤ 2 := by
  cases m <;> decide

theorem Mode.back_of_not_config {m : Mode} (h : m.isConfig = false) : m.back = .user := by
  revert h
  cases m <;> decide

theorem Mode.back_of_submode {m : Mode} (h : m.isSubmode = true) : m.back = .globalConfig := by
  revert h
  cases m <;> decide

theorem Mode.eq_global {m : Mode} (hc : m.isConfig = true) (hs : m.isSubmode = false) :
    m = .globalConfig := by
  revert hc hs
  cases m <;> decide

theorem Mode.not_submode {m : Mode} (h : m.isConfig = false) : m.isSubmode = false := by
  revert h
  cases m <;> decide

theorem Mode.outer_of_submode {m : Mode} (h : m.isSubmode = true) :
    m.outer = [.privileged, .globalConfig] := by
  revert h
  cases m <;> decide

/-- What a context has in view in a mode, and nothing else. -/
def EditContext.only (c : EditContext) : Mode → EditContext
  | .interfaceConfig => { interface := c.interface }
  | .routerConfig => { router := c.router }
  | .lineConfig => { line := c.line }
  | .vlanConfig => { vlan := c.vlan }
  | .aclConfig => { acl := c.acl }
  | .dhcpConfig => { dhcpPool := c.dhcpPool }
  | _ => {}

theorem EditContext.only_empty (m : Mode) : ({} : EditContext).only m = {} := by
  cases m <;> rfl

/-- Outside of the submodes nothing is in view. -/
theorem EditContext.only_outside (c : EditContext) {m : Mode} (h : m.isSubmode = false) : c.only m = {} := by
  revert h
  cases m <;> simp [only, Mode.isSubmode, Mode.isConfig]

namespace Device

variable {d d' : Device}

/-- The stack of the console holds just the modes around its mode. -/
def Stacked (d : Device) : Prop := d.modeStack = ⟨d.mode.outer, 4⟩

theorem Stacked.few (h : d.Stacked) : d.modeStack.items.length ≤ 2 := by
  unfold Stacked at h
  rw [h]
  exact d.mode.length_outer_le

theorem Stacked.capacity (h : d.Stacked) : d.modeStack.capacity = 4 := by
  unfold Stacked at h
  rw [h]

/-- The console has nothing in view but what its mode is about. -/
def Focused (d : Device) : Prop := d.context = d.context.only d.mode

/-- The object that the console configures is there. -/
def HasObject (d : Device) : Prop :=
  match d.mode with
  | .interfaceConfig => ∃ key i, d.context.interface = some key ∧ d.interfaces.get? key = some i
  | .routerConfig =>
    (d.context.router = some (.known .ospf) ∧ d.ospf.isSome) ∨
      (d.context.router = some (.known .rip) ∧ d.rip.isSome)
  | .lineConfig => ∃ key c, d.context.line = some key ∧ d.lines.get? key = some c
  | .vlanConfig => ∃ vlan, d.context.vlan = some vlan ∧ d.vlans.contains vlan = true
  | .aclConfig => ∃ key l, d.context.acl = some key ∧ d.acls.get? key = some l
  | .dhcpConfig => ∃ key p, d.context.dhcpPool = some key ∧ d.dhcpPools.get? key = some p
  | _ => True

/-- The console is where it can be. -/
structure Seated (d : Device) : Prop where
  stacked : d.Stacked
  focused : d.Focused
  object : d.HasObject
  host : d.isA .pc = true → d.mode = .user

/-- A device keeps the place of its console and all objects that can be configured. -/
structure Keeps (d d' : Device) : Prop where
  mode : d'.mode = d.mode
  stack : d'.modeStack = d.modeStack
  context : d'.context = d.context
  type : d'.type = d.type
  interfaces : ∀ k ∈ d.interfaces.keys, k ∈ d'.interfaces.keys
  ospf : d.ospf.isSome → d'.ospf.isSome
  rip : d.rip.isSome → d'.rip.isSome
  lines : ∀ k ∈ d.lines.keys, k ∈ d'.lines.keys
  vlans : ∀ k ∈ d.vlans.keys, k ∈ d'.vlans.keys
  acls : ∀ k ∈ d.acls.keys, k ∈ d'.acls.keys
  pools : ∀ k ∈ d.dhcpPools.keys, k ∈ d'.dhcpPools.keys

/-- A device that has all of it keeps it. -/
theorem Keeps.of_same (mode : d'.mode = d.mode) (stack : d'.modeStack = d.modeStack)
    (context : d'.context = d.context) (type : d'.type = d.type)
    (interfaces : d'.interfaces.keys = d.interfaces.keys) (ospf : d'.ospf = d.ospf) (rip : d'.rip = d.rip)
    (lines : d'.lines = d.lines) (vlans : d'.vlans = d.vlans) (acls : d'.acls = d.acls)
    (pools : d'.dhcpPools = d.dhcpPools) : d.Keeps d' where
  mode := mode
  stack := stack
  context := context
  type := type
  interfaces := fun _ hk => interfaces ▸ hk
  ospf := fun hsome => ospf ▸ hsome
  rip := fun hsome => rip ▸ hsome
  lines := fun _ hk => lines ▸ hk
  vlans := fun _ hk => vlans ▸ hk
  acls := fun _ hk => acls ▸ hk
  pools := fun _ hk => pools ▸ hk

/-- A device that keeps all of it but the interfaces, and those as well. -/
theorem Keeps.of_interfaces {interfaces : Table String Interface}
    (h : ∀ k ∈ d.interfaces.keys, k ∈ interfaces.keys) : d.Keeps { d with interfaces } where
  mode := rfl
  stack := rfl
  context := rfl
  type := rfl
  interfaces := h
  ospf := fun h => h
  rip := fun h => h
  lines := fun _ h => h
  vlans := fun _ h => h
  acls := fun _ h => h
  pools := fun _ h => h

theorem HasObject.of_keeps (h : d.HasObject) (k : d.Keeps d') : d'.HasObject := by
  have present {κ ν : Type} [DecidableEq κ] {t t' : Table κ ν} (ht : ∀ k ∈ t.keys, k ∈ t'.keys)
      {key : κ} {v : ν} (hv : t.get? key = some v) : ∃ v', t'.get? key = some v' := by
    obtain ⟨v', hv'⟩ := Table.mem_keys.1 (ht key (Table.mem_keys_of_get? hv))
    exact ⟨v', Table.get?_eq_some.2 hv'⟩
  unfold HasObject at h ⊢
  rw [k.mode, k.context]
  split
  · rename_i hm
    rw [hm] at h
    obtain ⟨key, i, hkey, hi⟩ := h
    obtain ⟨i', hi'⟩ := present k.interfaces hi
    exact ⟨key, i', hkey, hi'⟩
  · rename_i hm
    rw [hm] at h
    exact h.imp (And.imp_right k.ospf) (And.imp_right k.rip)
  · rename_i hm
    rw [hm] at h
    obtain ⟨key, c, hkey, hc⟩ := h
    obtain ⟨c', hc'⟩ := present k.lines hc
    exact ⟨key, c', hkey, hc'⟩
  · rename_i hm
    rw [hm] at h
    obtain ⟨vlan, hvlan, hcontains⟩ := h
    exact ⟨vlan, hvlan, Table.contains_iff.2 (k.vlans vlan (Table.contains_iff.1 hcontains))⟩
  · rename_i hm
    rw [hm] at h
    obtain ⟨key, l, hkey, hl⟩ := h
    obtain ⟨l', hl'⟩ := present k.acls hl
    exact ⟨key, l', hkey, hl'⟩
  · rename_i hm
    rw [hm] at h
    obtain ⟨key, p, hkey, hp⟩ := h
    obtain ⟨p', hp'⟩ := present k.pools hp
    exact ⟨key, p', hkey, hp'⟩
  · trivial

theorem Seated.of_keeps (h : d.Seated) (k : d.Keeps d') : d'.Seated where
  stacked := by
    unfold Stacked
    rw [k.stack, k.mode]
    exact h.stacked
  focused := by
    unfold Focused
    rw [k.context, k.mode]
    exact h.focused
  object := h.object.of_keeps k
  host := by
    unfold isA
    rw [k.type, k.mode]
    exact h.host

theorem HasObject.of_no_submode (h : d.mode.isSubmode = false) : d.HasObject := by
  unfold HasObject
  revert h
  cases d.mode <;> simp [Mode.isSubmode, Mode.isConfig]

theorem Focused.context_outside (h : d.Focused) (outside : d.mode.isSubmode = false) : d.context = {} :=
  h.trans (EditContext.only_outside _ outside)

/-! ## Changing the mode -/

/-- Leaving a mode leads to the mode around it. -/
theorem exitMode_eq (h : d.Stacked) : ∃ close, d.exitMode = .ok
    ({ d with mode := d.mode.back, modeStack := ⟨d.mode.back.outer, 4⟩, context := {} }, close) := by
  unfold exitMode
  unfold Stacked at h
  cases hc : d.mode.isConfig with
  | false =>
    refine ⟨true, ?_⟩
    rw [if_neg (by simp), Mode.back_of_not_config hc, h]
    rfl
  | true =>
    refine ⟨false, ?_⟩
    rw [if_pos rfl]
    unfold ModeStack.pop
    simp only [h, Mode.outer_of_config hc, List.getLast?_append, List.getLast?_singleton,
      Option.some_or, List.dropLast_concat, ok_bind, pure_eq_ok]

theorem seated_back (h : d.Seated) :
    ({ d with mode := d.mode.back, modeStack := ⟨d.mode.back.outer, 4⟩, context := {} } : Device).Seated where
  stacked := rfl
  focused := (EditContext.only_empty d.mode.back).symm
  object := by
    refine HasObject.of_no_submode ?_
    show d.mode.back.isSubmode = false
    cases d.mode <;> rfl
  host := by
    intro hpc
    show d.mode.back = .user
    rw [h.host hpc]
    rfl

/-- A submode is entered from any configuration mode, with nothing in view yet. -/
theorem enterMode_eq (h : d.Stacked) (hf : d.Focused) (hc : d.mode.isConfig = true) {m : Mode}
    (hm : m.isSubmode = true) (select : EditContext → EditContext) :
    d.enterMode m select =
      .ok { d with mode := m, modeStack := ⟨m.outer, 4⟩, context := select {} } := by
  have push : ModeStack.push ⟨[.privileged], 4⟩ .globalConfig = .ok ⟨m.outer, 4⟩ := by
    rw [Mode.outer_of_submode hm]
    rfl
  unfold enterMode
  cases hs : d.mode.isSubmode with
  | true =>
    obtain ⟨close, hok⟩ := exitMode_eq h
    rw [if_pos rfl, hok, Mode.back_of_submode hs, map_ok, ok_bind]
    show (ModeStack.push ⟨[.privileged], 4⟩ .globalConfig >>= _) = _
    rw [push, ok_bind]
    rfl
  | false =>
    have hglobal := Mode.eq_global hc hs
    unfold Stacked at h
    rw [hglobal] at h
    rw [if_neg (by simp), pure_eq_ok, ok_bind]
    dsimp only
    rw [h, hglobal, hf.context_outside hs]
    show (ModeStack.push ⟨[.privileged], 4⟩ .globalConfig >>= _) = _
    rw [push, ok_bind]
    rfl

end Device

/-- Configuration begins in privileged mode, also from within another mode that lends its stack. -/
theorem enterGlobal_eq {d : Device} (hm : d.mode = .privileged) (room : d.modeStack.items.length ≤ 2)
    (capacity : d.modeStack.capacity = 4) :
    d.enterMode .globalConfig id = .ok { d with
      mode := .globalConfig, modeStack := ⟨d.modeStack.items ++ [.privileged], 4⟩ } := by
  have push : d.modeStack.push .privileged = .ok ⟨d.modeStack.items ++ [.privileged], 4⟩ := by
    unfold ModeStack.push
    rw [if_neg (by omega), capacity]
  unfold Device.enterMode
  simp only [hm]
  rw [if_neg (by decide), pure_eq_ok, ok_bind, hm, push]
  rfl

theorem factory_seated (type : DeviceType) (hostname id : String) :
    (Device.factory type hostname id).Seated :=
  ⟨rfl, rfl, trivial, fun _ => rfl⟩

end NetRack
