import NetRack.Proofs.AccessList.Decision
import NetRack.Proofs.AccessList.Printed

/-!
# The lists that devices have

A list takes the rule of a clause exactly if the clause is of its kind.  So whatever has been done to a lab, every
list of a device has a name of one word, and rules of clauses of its kind, each once.
-/

namespace NetRack

/-! ## Lists of clauses -/

namespace AccessList

/-- A list has the rules of some clauses, each once, and all of its kind. -/
structure Has (l : AccessList) (kind : AclKind) (clauses : List Clause) : Prop where
  known : l.kind = .known kind
  rules : l.rules = clauses.map fun c => c.entry.rule
  once : l.rules.Nodup
  alike : ∀ c ∈ clauses, c.kind = kind

variable {l l' : AccessList} {kind : AclKind} {clauses : List Clause} {c : Clause} {e : RuleEntry}

theorem append_kind (h : l.append e = .ok l') : l'.kind = l.kind := by
  unfold append at h
  obtain ⟨-, -, h⟩ := bind_eq_ok.1 h
  obtain ⟨-, -, h⟩ := bind_eq_ok.1 h
  cases h
  split <;> rfl

/-- A list takes what is entered exactly if it is of the kind of the list. -/
theorem append_eq_ok_iff (hl : l.kind = .known kind) : (∃ l', l.append c.entry = .ok l') ↔ c.kind = kind := by
  unfold append
  rw [hl]
  cases c <;> cases kind <;> simp [Clause.entry, Clause.kind, Stored.holds, Outcome.refuseIf, Outcome.refuse]

theorem Has.append (h : l.Has kind clauses) (appended : l.append c.entry = .ok l') :
    ∃ clauses', l'.Has kind clauses' := by
  have same : c.kind = kind := (append_eq_ok_iff h.known).1 ⟨l', appended⟩
  have rules := append_rules appended
  split at rules
  · exact ⟨clauses, (append_kind appended).trans h.known, rules.trans h.rules, rules ▸ h.once, h.alike⟩
  · rename_i new
    refine ⟨clauses ++ [c], (append_kind appended).trans h.known, ?_, ?_, ?_⟩
    · rw [rules, h.rules, List.map_append, List.map_singleton]
    · rw [rules]
      exact List.nodup_append.2 ⟨h.once, List.nodup_singleton _, fun r hr r' hr' heq =>
        new (by rwa [← List.mem_singleton.1 hr', ← heq])⟩
    · exact List.forall_mem_append.2 ⟨h.alike, List.forall_mem_singleton.2 same⟩

theorem has_empty (name : String) (kind : AclKind) : Has { name, kind := .known kind } kind [] :=
  ⟨rfl, rfl, List.nodup_nil, nofun⟩

end AccessList

/-! ## Lists of devices -/

/-- Where a list of a device comes from after a command: it was there, it is new, or it has been given a rule. -/
inductive ListOrigin (acls : Table String AccessList) (name : String) (l : AccessList) : Command → Prop where
  | kept {c : Command} (known : acls.get? name = some l) : ListOrigin acls name l c
  | new {kind : AclKind} (empty : l = { name, kind := .known kind }) :
      ListOrigin acls name l (.global (.accessListNamed kind name))
  | numbered {n : Int} {e : RuleEntry} (number : name = Text.intText n)
      (append : ((acls.get? name).getD { name, kind := .known (kindOfNumber n) }).append e = .ok l) :
      ListOrigin acls name l (.global (.accessListNumbered n e))
  | listed {e : RuleEntry} {l₀ : AccessList} (known : acls.get? name = some l₀) (append : l₀.append e = .ok l) :
      ListOrigin acls name l (.aclRule e)

theorem listOrigin_of_command {t : Topology} {d : Device} {c : Command} {o : Outcome} {name : String} {l : AccessList}
    (sound : d.Sound) (done : c.apply t d = .ok o) (hl : o.device.acls.get? name = some l) :
    ListOrigin d.acls name l c := by
  rcases ((command_settings sound t c).value done).ofLists with same | step
  · exact .kept ((congrArg (·.get? name) same).symm.trans hl)
  change ListStep d.acls c o.device.acls at step
  generalize o.device.acls = acls at step hl
  cases step with
  | new kind other =>
    rw [Table.get?_insertIfNew] at hl
    split at hl
    · rename_i same
      subst same
      cases known : d.acls.get? name with
      | none =>
        rw [known] at hl
        exact .new (Option.some.inj hl).symm
      | some l₀ =>
        rw [known] at hl
        exact .kept (known.trans hl)
    · exact .kept hl
  | @numbered n e l' append =>
    rw [Table.get?_insert] at hl
    split at hl
    · rename_i same
      subst same
      cases hl
      exact .numbered rfl append
    · exact .kept hl
  | @named key e l₀ l' known append =>
    rw [Table.get?_modify] at hl
    split at hl
    · rename_i same
      subst same
      rw [known] at hl
      cases hl
      exact .listed known append
    · exact .kept hl
  | remove other =>
    rw [Table.get?_erase] at hl
    split at hl
    · cases hl
    · exact .kept hl

namespace Topology

open Console

/-- Every list that a device comes to have has a name of one word, and rules of clauses of its kind. -/
theorem reached_lists (cs : List Change) {key name : String} {d : Device} {l : AccessList}
    (hd : (reached cs).devices.get? key = some d) (hl : d.acls.get? name = some l) :
    Text.Unbroken name.toList ∧ ∃ kind clauses, l.Has kind clauses := by
  let P (d : Device) : Prop := ∀ name l, d.acls.get? name = some l →
    Text.Unbroken name.toList ∧ ∃ kind clauses, l.Has kind clauses
  have new (type : DeviceType) (hostname id : String) : P (Device.factory type hostname id) := nofun
  have frame (d d' : Device) (same : d'.frame = d.frame) (h : P d) : P d' := by
    have acls : d'.acls = d.acls := congrArg (·.acls) same
    unfold P
    rwa [acls]
  refine reached_devices (P := P) new frame (fun _ _ h => h) (fun t key d line c o ordered hd asks done h => ?_)
    cs hd _ _ hl
  intro name l hl
  cases listOrigin_of_command (ordered.sound.devices key d hd) done hl with
  | kept known => exact h name l known
  | @new kind empty =>
    -- The name is the last word of the line.
    obtain ⟨w, w', w'', w₃, hwords, rfl, -⟩ := asks.named
    have last : Text.words line = [w, w', w''] ++ w₃ :: [] := hwords
    exact ⟨(lineFrom_word last).1, kind, [], empty ▸ AccessList.has_empty _ kind⟩
  | @numbered n e number append =>
    obtain ⟨first, word, rest, clause, -, read, -, rfl⟩ := asks.numbered
    obtain ⟨k, rfl, -⟩ := Argument.readInt_intText read
    refine ⟨number ▸ (Argument.isMarked_natText k).unbroken, ?_⟩
    cases known : d.acls.get? name with
    | none =>
      rw [known] at append
      exact ⟨_, (AccessList.has_empty _ _).append append⟩
    | some l₀ =>
      rw [known] at append
      obtain ⟨-, kind, clauses, has⟩ := h _ l₀ known
      exact ⟨kind, has.append append⟩
  | @listed e l₀ known append =>
    obtain ⟨clause, -, rfl⟩ := asks.clause
    obtain ⟨word, kind, clauses, has⟩ := h _ l₀ known
    exact ⟨word, kind, has.append append⟩

end Topology

end NetRack
