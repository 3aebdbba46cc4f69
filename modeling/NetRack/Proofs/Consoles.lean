import NetRack.Proofs.History

/-!
# Where the consoles of a lab stand

However a lab came about, each of its consoles stands in its mode as one can: the stack holds just the
modes to go back to, and the context names just the object that the mode is about, which is there.  The
console of an end host never leaves user mode.
-/

namespace NetRack

namespace Device

/-- What the stack and the context of a console are like in a mode. -/
def StandsIn (d : Device) : Mode → Prop
  | .user => d.modeStack.items = [] ∧ d.context = {}
  | .privileged => d.modeStack.items = [] ∧ d.context = {}
  | .globalConfig => d.modeStack.items = [.privileged] ∧ d.context = {}
  | .interfaceConfig => d.modeStack.items = [.privileged, .globalConfig] ∧
      ∃ name i, d.context = { interface := some name } ∧ d.interfaces.get? name = some i
  | .routerConfig => d.modeStack.items = [.privileged, .globalConfig] ∧
      ((d.context = { router := some (.known .ospf) } ∧ d.ospf.isSome) ∨
        (d.context = { router := some (.known .rip) } ∧ d.rip.isSome))
  | .lineConfig => d.modeStack.items = [.privileged, .globalConfig] ∧
      ∃ name c, d.context = { line := some name } ∧ d.lines.get? name = some c
  | .vlanConfig => d.modeStack.items = [.privileged, .globalConfig] ∧
      ∃ vlan name, d.context = { vlan := some vlan } ∧ d.vlans.get? vlan = some name
  | .dhcpConfig => d.modeStack.items = [.privileged, .globalConfig] ∧
      ∃ name p, d.context = { dhcpPool := some name } ∧ d.dhcpPools.get? name = some p
  | .aclConfig => d.modeStack.items = [.privileged, .globalConfig] ∧
      ∃ name l, d.context = { acl := some name } ∧ d.acls.get? name = some l

/-- A console that is where it can be stands in its mode as one can. -/
theorem Seated.standsIn {d : Device} (h : d.Seated) : d.StandsIn d.mode := by
  obtain ⟨stacked, focused, object, -⟩ := h
  have items : d.modeStack.items = d.mode.outer := congrArg ModeStack.items stacked
  unfold Focused at focused
  unfold HasObject at object
  cases hm : d.mode with
  | user =>
    rw [hm] at items focused
    exact ⟨items, focused⟩
  | privileged =>
    rw [hm] at items focused
    exact ⟨items, focused⟩
  | globalConfig =>
    rw [hm] at items focused
    exact ⟨items, focused⟩
  | interfaceConfig =>
    rw [hm] at items focused object
    obtain ⟨name, i, hname, hi⟩ := object
    exact ⟨items, name, i, focused.trans (by rw [← hname]; rfl), hi⟩
  | routerConfig =>
    rw [hm] at items focused object
    refine ⟨items, object.imp ?_ ?_⟩
    · exact And.imp_left fun hospf => focused.trans (by rw [← hospf]; rfl)
    · exact And.imp_left fun hrip => focused.trans (by rw [← hrip]; rfl)
  | lineConfig =>
    rw [hm] at items focused object
    obtain ⟨name, c, hname, hc⟩ := object
    exact ⟨items, name, c, focused.trans (by rw [← hname]; rfl), hc⟩
  | vlanConfig =>
    rw [hm] at items focused object
    obtain ⟨vlan, hvlan, known⟩ := object
    obtain ⟨name, hname⟩ := Table.get?_of_contains known
    exact ⟨items, vlan, name, focused.trans (by rw [← hvlan]; rfl), hname⟩
  | dhcpConfig =>
    rw [hm] at items focused object
    obtain ⟨name, p, hname, hp⟩ := object
    exact ⟨items, name, p, focused.trans (by rw [← hname]; rfl), hp⟩
  | aclConfig =>
    rw [hm] at items focused object
    obtain ⟨name, l, hname, hl⟩ := object
    exact ⟨items, name, l, focused.trans (by rw [← hname]; rfl), hl⟩

end Device

namespace Topology

/-- Every console stands in its mode as one can, that of an end host in user mode. -/
structure Attended (t : Topology) : Prop where
  consoles : ∀ key d, t.devices.get? key = some d → d.StandsIn d.mode
  hosts : ∀ key d, t.devices.get? key = some d → d.isA .pc = true → d.mode = .user

/-- Whatever was done to a lab, every console stands in its mode as one can. -/
theorem reached_attended (cs : List Change) : (reached cs).Attended where
  consoles := fun key d hd => ((reached_orderly cs).seated key d hd).standsIn
  hosts := fun key d hd => ((reached_orderly cs).seated key d hd).host

end Topology

end NetRack
