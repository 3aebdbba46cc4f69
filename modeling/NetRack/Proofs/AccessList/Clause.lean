import NetRack.Command.Global
import NetRack.Proofs.Address
import NetRack.Proofs.Order
import NetRack.Proofs.Result

/-!
# What the rules of access lists mean

A clause is a rule as it is entered.  It matches the packets of its protocol from and to the addresses that its
two sides cover.  A list of clauses lets a packet pass exactly if the first clause that matches it permits it,
and a list without clauses lets everything pass.  A list that has each of the rules once, where it was entered
first, decides the same.
-/

namespace NetRack

/-! ## Clauses -/

/-- One side of a clause. -/
inductive Endpoint where
  | any
  | host (address : Address)
  | bare (address : Address)
  | within (base wildcard : Address)
deriving DecidableEq

namespace Endpoint

/-- Whether a side covers an address.  A base covers those that agree with it in every bit that the wildcard
leaves at zero. -/
def Covers (a : Address) : Endpoint → Prop
  | any => True
  | host b => a = b
  | bare b => a = b
  | within base wildcard =>
    ∀ (i : Nat) (_ : i < 32), wildcard.bits[i] = false → a.bits[i] = base.bits[i]

/-- The side as a rule holds it. -/
def pattern : Endpoint → AddressPattern
  | any => .any
  | host b => .host b
  | bare b => .host b
  | within base wildcard => ⟨base, wildcard⟩

end Endpoint

/-- A rule as it is entered. -/
inductive Clause where
  | standard (action : RuleAction) (source : Endpoint)
  | extended (action : RuleAction) (protocol : Protocol) (source destination : Endpoint)
deriving DecidableEq

namespace Clause

/-- What the clause does with the packets that it matches. -/
def action : Clause → RuleAction
  | standard action _ => action
  | extended action _ _ _ => action

/-- Whether the clause matches a packet. -/
def Matches (protocol : Stored Protocol) (source destination : Address) : Clause → Prop
  | standard _ s => s.Covers source
  | extended _ p s d => (p = .ip ∨ .known p = protocol) ∧ s.Covers source ∧ d.Covers destination

/-- The rule that the clause enters. -/
def entry : Clause → RuleEntry
  | standard action s => ⟨action, none, s.pattern, .any⟩
  | extended action p s d => ⟨action, some p, s.pattern, d.pattern⟩

end Clause

/-- Whether clauses let a packet pass: there are none, or the first that matches permits. -/
def Permitted (clauses : List Clause) (protocol : Stored Protocol) (source destination : Address) : Prop :=
  clauses = [] ∨ ∃ before c after, clauses = before ++ c :: after ∧
    (∀ x ∈ before, ¬x.Matches protocol source destination) ∧ c.Matches protocol source destination ∧
    c.action = .permit

/-! ## Rules -/

section Match

variable {protocol : Stored Protocol} {s s' : String} {a b : Address}

theorem Address.agree_iff {wildcard base a : Address} : Address.agree wildcard base a = true ↔
    ∀ (i : Nat) (_ : i < 32), wildcard.bits[i] = false → a.bits[i] = base.bits[i] := by
  unfold Address.agree
  rw [beq_iff_eq]
  constructor
  · intro same i hi zero
    have bit := congrArg (fun x : BitVec 32 => x[i]) same
    simpa [zero] using bit.symm
  · intro same
    refine BitVec.eq_of_getElem_eq fun i hi => ?_
    cases hw : wildcard.bits[i] with
    | true => simp [hw]
    | false => simp [hw, same i hi hw]

theorem Endpoint.agree_pattern (e : Endpoint) (a : Address) :
    Address.agree e.pattern.wildcard e.pattern.base a = true ↔ e.Covers a := by
  have host (b : Address) : Address.agree .zero b a = true ↔ a = b := by
    rw [Address.agree_iff]
    refine ⟨fun same => ?_, fun same i hi _ => by rw [same]⟩
    have bits : a.bits = b.bits := BitVec.eq_of_getElem_eq fun i hi => same i hi (by simp [Address.zero])
    cases a
    cases b
    exact congrArg Address.mk bits
  have any : Address.agree .ones .zero a = true := by
    unfold Address.agree Address.ones
    rw [beq_iff_eq, BitVec.not_allOnes, BitVec.and_zero, BitVec.and_zero]
  cases e with
  | any => exact iff_of_true any trivial
  | host b => exact host b
  | bare b => exact host b
  | within base wildcard => exact Address.agree_iff

/-- Whether the rule that is entered takes a packet. -/
def RuleEntry.takes (e : RuleEntry) (protocol : Stored Protocol) (source destination : Address) : Bool :=
  e.rule.coversProtocol protocol && (Address.agree e.source.wildcard e.source.base source &&
    Address.agree e.destination.wildcard e.destination.base destination)

theorem RuleEntry.matchesPacket_rule (e : RuleEntry) (hs : Address.read? s = some a)
    (hs' : Address.read? s' = some b) : e.rule.matchesPacket protocol s s' = .ok (e.takes protocol a b) := by
  have wildcard (p : AddressPattern) {s : String} {a : Address} (hs : Address.read? s = some a) :
      matchesWildcard p.base.text p.wildcard.text s = .ok (Address.agree p.wildcard p.base a) := by
    unfold matchesWildcard
    rw [Address.read_text, Address.read_text, show Address.read s = .ok a by unfold Address.read; rw [hs]]
    rfl
  unfold AclRule.matchesPacket RuleEntry.takes
  rw [show matchesWildcard e.rule.source e.rule.sourceWildcard s = _ from wildcard e.source hs,
    show matchesWildcard e.rule.destination e.rule.destinationWildcard s' = _ from wildcard e.destination hs']
  cases e.rule.coversProtocol protocol <;> cases Address.agree e.source.wildcard e.source.base a <;> rfl

/-- A packet is taken by the rule of a clause exactly if it matches the clause. -/
theorem Clause.takes_entry (c : Clause) : c.entry.takes protocol a b = true ↔ c.Matches protocol a b := by
  unfold RuleEntry.takes AclRule.coversProtocol Stored.holds RuleEntry.rule
  rw [Bool.and_eq_true, Bool.and_eq_true, Bool.or_eq_true, decide_eq_true_iff, decide_eq_true_iff]
  cases c with
  | standard action source =>
    refine ⟨fun h => source.agree_pattern a |>.1 h.2.1, fun h => ⟨Or.inl rfl, source.agree_pattern a |>.2 h, ?_⟩⟩
    exact (Endpoint.any.agree_pattern b).2 trivial
  | extended action p source destination =>
    refine and_congr (or_congr ?_ Iff.rfl) (and_congr (source.agree_pattern a) (destination.agree_pattern b))
    exact ⟨Stored.known.inj, congrArg Stored.known⟩

/-! ## Lists of rules -/

/-- Rules decide by the first that matches. -/
theorem decideByRules_eq {rs : List AclRule} (m : AclRule → Bool)
    (h : ∀ r ∈ rs, r.matchesPacket protocol s s' = .ok (m r)) :
    decideByRules protocol s s' rs = .ok ((rs.find? m).any (·.action.holds .permit)) := by
  induction rs with
  | nil => rfl
  | cons r rs ih =>
    unfold decideByRules
    rw [h r (by simp), ok_bind, List.find?_cons]
    cases m r with
    | true => rfl
    | false => exact ih fun x hx => h x (by simp [hx])

/-- Rules that are entered decide by the first that takes a packet; what is entered again changes nothing. -/
theorem decideByRules_distinct (es : List RuleEntry) (hs : Address.read? s = some a) (hs' : Address.read? s' = some b) :
    decideByRules protocol s s' (distinct (es.map RuleEntry.rule)) =
      .ok ((es.find? (·.takes protocol a b)).any (·.action = .permit)) := by
  have taken (e : RuleEntry) : ((e.rule.matchesPacket protocol s s').toOption.getD false) = e.takes protocol a b := by
    rw [e.matchesPacket_rule hs hs']
    rfl
  rw [decideByRules_eq fun r => (r.matchesPacket protocol s s').toOption.getD false, find?_distinct, List.find?_map]
  · simp only [Function.comp_def, taken]
    cases es.find? (·.takes protocol a b) with
    | none => rfl
    | some e => simp [Stored.holds, RuleEntry.rule]
  · intro r hr
    obtain ⟨e, -, rfl⟩ := List.mem_map.1 (mem_distinct.1 hr)
    rw [e.matchesPacket_rule hs hs']
    rfl

/-- The first clause that matches is a permit exactly if the first rule that takes the packet is. -/
theorem find?_entries (clauses : List Clause) :
    ((clauses.map Clause.entry).find? (·.takes protocol a b)).any (·.action = .permit) = true ↔
      ∃ before c after, clauses = before ++ c :: after ∧ (∀ x ∈ before, ¬x.Matches protocol a b) ∧
        c.Matches protocol a b ∧ c.action = .permit := by
  have action (c : Clause) : c.entry.action = c.action := by cases c <;> rfl
  rw [List.find?_map, Option.any_eq_true]
  constructor
  · rintro ⟨e, found, permit⟩
    obtain ⟨c, first, rfl⟩ := Option.map_eq_some_iff.1 found
    obtain ⟨taken, before, after, rfl, others⟩ := List.find?_eq_some_iff_append.1 first
    refine ⟨before, c, after, rfl, fun x hx matched => ?_, c.takes_entry.1 taken, ?_⟩
    · have := others x hx
      rw [Function.comp, x.takes_entry.2 matched] at this
      cases this
    · rw [← action]
      simpa using permit
  · rintro ⟨before, c, after, rfl, others, matched, permit⟩
    refine ⟨c.entry, Option.map_eq_some_iff.2 ⟨c, List.find?_eq_some_iff_append.2
      ⟨c.takes_entry.2 matched, before, after, rfl, fun x hx => ?_⟩, rfl⟩, by simpa [action] using permit⟩
    rw [Function.comp, Bool.not_eq_true', ← Bool.not_eq_true, x.takes_entry]
    exact others x hx

/-- A list that has the rules of clauses, each where it was entered first, lets a packet pass exactly if the
clauses do. -/
theorem AccessList.permits_of_rules {l : AccessList} {clauses : List Clause}
    (rules : l.rules = distinct (clauses.map fun c => c.entry.rule)) (hs : Address.read? s = some a)
    (hs' : Address.read? s' = some b) :
    ∃ allowed, l.permits protocol s s' = .ok allowed ∧ (allowed = true ↔ Permitted clauses protocol a b) := by
  unfold AccessList.permits Permitted
  rw [rules]
  cases clauses with
  | nil => exact ⟨true, rfl, iff_of_true rfl (Or.inl rfl)⟩
  | cons c clauses =>
    have some_rule : (distinct ((c :: clauses).map fun c => c.entry.rule)).isEmpty = false := by
      rw [List.isEmpty_eq_false_iff]
      exact List.ne_nil_of_mem (mem_distinct.2 (List.mem_map_of_mem List.mem_cons_self))
    rw [some_rule, show ((c :: clauses).map fun c => c.entry.rule) =
      ((c :: clauses).map Clause.entry).map RuleEntry.rule by rw [List.map_map]; rfl]
    refine ⟨_, decideByRules_distinct _ hs hs', ?_⟩
    rw [find?_entries]
    simp

end Match

end NetRack
