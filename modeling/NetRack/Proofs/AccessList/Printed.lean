import NetRack.Proofs.AccessList.Wording
import NetRack.Show.RunningConfig

/-!
# How rules are printed

A rule is printed as a clause of its kind: every wildcard of ones as any address, every wildcard of zeros as a host,
and anything else as a base with its wildcard.  The clause that is printed matches what the clause matches that was
entered, and its words are those of the printed line.
-/

namespace NetRack

/-! ## What is printed -/

/-- The side that a pattern is printed as. -/
def AddressPattern.side (p : AddressPattern) : Endpoint :=
  if p.wildcard = .ones then .any else if p.wildcard = .zero then .host p.base else .within p.base p.wildcard

namespace Clause

/-- The kind of the lists that take the clause. -/
def kind : Clause → AclKind
  | standard _ _ => .standard
  | extended _ _ _ _ => .extended

/-- The clause that the rule of a clause is printed as. -/
def printed : Clause → Clause
  | standard action source => standard action source.pattern.side
  | extended action protocol source destination =>
    extended action protocol source.pattern.side destination.pattern.side

end Clause

/-- A side in words. -/
def Endpoint.written : Endpoint → List String
  | any => ["any"]
  | host a => ["host", a.text]
  | bare a => [a.text]
  | within a b => [a.text, b.text]

/-- A clause in words. -/
def Clause.written : Clause → List String
  | standard action source => Vocabulary.spelling action :: source.written
  | extended action protocol source destination =>
    Vocabulary.spelling action :: Vocabulary.spelling protocol :: (source.written ++ destination.written)

/-! ## The meaning of what is printed -/

section Meaning

variable {protocol : Stored Protocol} {a b : Address}

/-- What is printed of a side covers what the side covers. -/
theorem Endpoint.covers_side (e : Endpoint) (a : Address) : e.pattern.side.Covers a ↔ e.Covers a := by
  rw [← e.agree_pattern]
  generalize e.pattern = p
  obtain ⟨base, wildcard⟩ := p
  unfold AddressPattern.side
  dsimp only
  split
  · rename_i ones
    refine iff_of_true trivial ?_
    subst ones
    unfold Address.agree Address.ones
    rw [beq_iff_eq, BitVec.not_allOnes, BitVec.and_zero, BitVec.and_zero]
  · split
    · rename_i zero
      subst zero
      exact ((Endpoint.host base).agree_pattern a).symm
    · exact ((Endpoint.within base wildcard).agree_pattern a).symm

theorem Clause.action_printed (c : Clause) : c.printed.action = c.action := by cases c <;> rfl

theorem Clause.matches_printed (c : Clause) : c.printed.Matches protocol a b ↔ c.Matches protocol a b := by
  cases c with
  | standard action source => exact source.covers_side a
  | extended action p source destination =>
    exact and_congr_right fun _ => and_congr (source.covers_side a) (destination.covers_side b)

/-- Clauses decide as what is printed of them. -/
theorem permitted_printed (clauses : List Clause) :
    Permitted (clauses.map Clause.printed) protocol a b ↔ Permitted clauses protocol a b := by
  refine or_congr List.map_eq_nil_iff ⟨?_, ?_⟩
  · rintro ⟨before, c, after, heq, others, matched, permit⟩
    obtain ⟨first, rest, rfl, rfl, heq'⟩ := List.map_eq_append_iff.1 heq
    obtain ⟨c', last, rfl, rfl, rfl⟩ := List.map_eq_cons_iff.1 heq'
    refine ⟨first, c', last, rfl, fun x hx => ?_, c'.matches_printed.1 matched, c'.action_printed ▸ permit⟩
    exact x.matches_printed.not.1 (others _ (List.mem_map_of_mem hx))
  · rintro ⟨before, c, after, rfl, others, matched, permit⟩
    refine ⟨before.map Clause.printed, c.printed, after.map Clause.printed, by simp, fun x hx => ?_,
      c.matches_printed.2 matched, c.action_printed.trans permit⟩
    obtain ⟨y, hy, rfl⟩ := List.mem_map.1 hx
    exact y.matches_printed.not.2 (others y hy)

end Meaning

/-! ## The words of what is printed -/

open Text

/-- The words of unbroken texts with blanks between them. -/
theorem wordsFrom_texts {texts : List String} (unbroken : ∀ s ∈ texts, Unbroken s.toList) (n : Nat) :
    (wordsFrom n [] (spaced (texts.map String.toList))).map (·.text) = texts := by
  induction texts generalizing n with
  | nil => rfl
  | cons s texts ih =>
    rw [List.map_cons, wordsFrom_spaced (unbroken s (by simp)), List.map_cons, ih fun x hx => unbroken x (by simp [hx]),
      String.ofList_toList]

theorem words_intercalate {texts : List String} (unbroken : ∀ s ∈ texts, Unbroken s.toList) :
    (words (" ".intercalate texts)).map (·.text) = texts := by
  unfold words
  rw [toList_intercalate]
  exact wordsFrom_texts unbroken 0

/-- A blank before the words does not matter. -/
theorem words_indented {texts : List String} (unbroken : ∀ s ∈ texts, Unbroken s.toList) :
    (words (" " ++ " ".intercalate texts)).map (·.text) = texts := by
  unfold words
  rw [String.toList_append, toList_intercalate]
  show (wordsFrom 0 [] (' ' :: spaced (texts.map String.toList))).map _ = _
  unfold wordsFrom
  exact wordsFrom_texts unbroken 1

section Written

variable {p : AddressPattern} {c : Clause} {actions : List String}

theorem Endpoint.unbroken_written {e : Endpoint} : ∀ s ∈ e.written, Unbroken s.toList := by
  have any : Unbroken "any".toList := by decide
  have host : Unbroken "host".toList := by decide
  have address (a : Address) := (Argument.isMarked_address a).unbroken
  cases e with
  | any => exact List.forall_mem_singleton.2 any
  | host a => exact List.forall_mem_cons.2 ⟨host, List.forall_mem_singleton.2 (address a)⟩
  | bare a => exact List.forall_mem_singleton.2 (address a)
  | within a b => exact List.forall_mem_cons.2 ⟨address a, List.forall_mem_singleton.2 (address b)⟩

theorem Clause.unbroken_written (c : Clause) : ∀ s ∈ c.written, Unbroken s.toList := by
  have action (a : RuleAction) : Unbroken (Vocabulary.spelling a).toList := by cases a <;> decide
  have protocol (p : Protocol) : Unbroken (Vocabulary.spelling p).toList := by cases p <;> decide
  cases c with
  | standard a source =>
    exact List.forall_mem_cons.2 ⟨action a, Endpoint.unbroken_written⟩
  | extended a p source destination =>
    refine List.forall_mem_cons.2 ⟨action a, List.forall_mem_cons.2 ⟨protocol p, fun s hs => ?_⟩⟩
    rcases List.mem_append.1 hs with hs | hs
    · exact Endpoint.unbroken_written s hs
    · exact Endpoint.unbroken_written s hs

/-- A side is spelled by its words. -/
theorem Endpoint.spelledBy_written {keywords : List String} (sub : sideWords ⊆ keywords) (e : Endpoint) :
    e.SpelledBy keywords e.written := by
  have full {token : String} (mem : token ∈ sideWords) (lower : Text.lower token = token) :
      Chooses keywords token token := .of_lower (sub mem) lower
  cases e with
  | any => exact .any (full (by decide) (by decide))
  | host a => exact .host (full (by decide) (by decide)) (Address.read?_text a)
  | bare a => exact .bare (Address.read?_text a)
  | within a b => exact .within (Address.read?_text a) (Address.read?_text b)

theorem AddressPattern.isBare_side (p : AddressPattern) : p.side.isBare = false := by
  unfold side
  split
  · rfl
  · split <;> rfl

/-- What is printed is spelled by its words. -/
theorem Clause.spelledBy_written (mem : ∀ a : RuleAction, Vocabulary.spelling a ∈ actions) (c : Clause) :
    c.printed.SpelledBy actions c.printed.written := by
  have action (a : RuleAction) : Chooses actions (Vocabulary.spelling a) (Vocabulary.spelling a) :=
    .of_lower (mem a) (by cases a <;> decide)
  have protocol (p : Protocol) : Chooses bodyWords (Vocabulary.spelling p) (Vocabulary.spelling p) := by
    refine .of_lower ?_ (by cases p <;> decide)
    cases p <;> decide
  cases c with
  | standard a source => exact .standard (action a) (Endpoint.spelledBy_written (by decide) _)
  | extended a p source destination =>
    exact .extended (action a) (protocol p) (Endpoint.spelledBy_written (by decide) _)
      (Endpoint.spelledBy_written (by decide) _) ⟨AddressPattern.isBare_side _, AddressPattern.isBare_side _⟩

/-! ## Printed lines -/

theorem Address.text_inj {a b : Address} (h : a.text = b.text) : a = b := by
  have read := Address.read?_text a
  rw [h, Address.read?_text b] at read
  exact (Option.some.inj read).symm

theorem addressPattern_eq (p : AddressPattern) :
    Show.addressPattern p.base.text p.wildcard.text = " ".intercalate p.side.written := by
  have ones : p.wildcard.text = "255.255.255.255" ↔ p.wildcard = .ones := by
    rw [show "255.255.255.255" = Address.ones.text by decide]
    exact ⟨Address.text_inj, congrArg _⟩
  have zero : p.wildcard.text = "0.0.0.0" ↔ p.wildcard = .zero := by
    rw [show "0.0.0.0" = Address.zero.text by decide]
    exact ⟨Address.text_inj, congrArg _⟩
  unfold Show.addressPattern AddressPattern.side
  simp only [ones, zero]
  split
  · rfl
  · split <;> rfl

theorem Endpoint.written_ne_nil (e : Endpoint) : e.written ≠ [] := by cases e <;> exact List.cons_ne_nil _ _

/-- The rule of a clause is printed in the words of what is printed. -/
theorem aclRule_eq (c : Clause) :
    Show.aclRule c.entry.rule (.known c.kind) = " ".intercalate c.printed.written := by
  unfold Show.aclRule
  dsimp only
  cases c with
  | standard action source =>
    rw [if_pos (by rfl)]
    show (Stored.known action).text ++ " " ++
      Show.addressPattern source.pattern.base.text source.pattern.wildcard.text = _
    rw [addressPattern_eq]
    exact (String.intercalate_cons_of_ne_nil (Endpoint.written_ne_nil _)).symm
  | extended action protocol source destination =>
    rw [if_neg (by exact Bool.false_ne_true)]
    show (Stored.known action).text ++ " " ++ (Stored.known protocol).text ++ " " ++
      Show.addressPattern source.pattern.base.text source.pattern.wildcard.text ++ " " ++
      Show.addressPattern destination.pattern.base.text destination.pattern.wildcard.text = _
    rw [addressPattern_eq, addressPattern_eq]
    show _ = " ".intercalate (_ :: _ :: (source.pattern.side.written ++ destination.pattern.side.written))
    rw [String.intercalate_cons_cons, String.intercalate_cons_of_ne_nil (by simp [Endpoint.written_ne_nil]),
      String.intercalate_append_of_ne_nil (Endpoint.written_ne_nil _) (Endpoint.written_ne_nil _)]
    simp only [String.append_assoc]
    rfl

theorem Clause.written_ne_nil (c : Clause) : c.written ≠ [] := by cases c <;> exact List.cons_ne_nil _ _

/-- The words of a line of a numbered list. -/
theorem words_numbered {name : String} (word : Unbroken name.toList) :
    (words ("access-list " ++ name ++ " " ++ " ".intercalate c.written)).map (·.text) =
      "access-list" :: name :: c.written := by
  have line : "access-list " ++ name ++ " " ++ " ".intercalate c.written =
      " ".intercalate ("access-list" :: name :: c.written) := by
    rw [String.intercalate_cons_cons, String.intercalate_cons_of_ne_nil c.written_ne_nil]
    simp only [String.append_assoc]
    rfl
  have first : Unbroken "access-list".toList := by decide
  rw [line]
  exact words_intercalate (List.forall_mem_cons.2 ⟨first, List.forall_mem_cons.2 ⟨word, c.unbroken_written⟩⟩)

/-- The words of the first line of a named list. -/
theorem words_named {name : String} (word : Unbroken name.toList) (kind : AclKind) :
    (words ("ip access-list " ++ (Stored.known kind).text ++ " " ++ name)).map (·.text) =
      ["ip", "access-list", Vocabulary.spelling kind, name] := by
  have line : "ip access-list " ++ (Stored.known kind).text ++ " " ++ name =
      " ".intercalate ["ip", "access-list", Vocabulary.spelling kind, name] := by
    simp only [String.intercalate_cons_cons, String.intercalate_singleton, String.append_assoc]
    rfl
  have known : ∀ s ∈ ["ip", "access-list", Vocabulary.spelling kind], Unbroken s.toList := by
    cases kind <;> decide
  have all : ∀ s ∈ ["ip", "access-list", Vocabulary.spelling kind] ++ [name], Unbroken s.toList :=
    List.forall_mem_append.2 ⟨known, List.forall_mem_singleton.2 word⟩
  rw [line]
  exact words_intercalate all

end Written

/-! ## The order of lists -/

instance : Std.TransOrd Show.AclOrder :=
  inferInstanceAs <| Std.TransCmp <| compareLex (compareOn Show.AclOrder.named) <|
    compareLex (compareOn Show.AclOrder.number) <| compareOn Show.AclOrder.name

theorem aclOrder_named {name : String} {o : Show.AclOrder} (h : Show.aclOrder name = .ok o) :
    o.named = !Show.isNumbered name := by
  unfold Show.aclOrder at h
  split at h
  · rename_i numbered
    obtain ⟨n, -, h⟩ := bind_eq_ok.1 h
    cases h
    rw [numbered]
    rfl
  · rename_i named
    cases h
    rw [Bool.eq_false_iff.2 named]
    rfl

/-- The lists are put in order with the numbered ones first. -/
theorem sortedAcls_eq_ok {d : Device} {entries : List (String × AccessList)} (h : Show.sortedAcls d = .ok entries) :
    entries.Perm d.acls.entries ∧
      entries.Pairwise fun e e' => Show.isNumbered e'.1 = true → Show.isNumbered e.1 = true := by
  obtain ⟨keyed, hkeyed, heq⟩ := bind_eq_ok.1 h
  cases heq
  obtain ⟨same, keys⟩ := keyed_eq_ok hkeyed
  have perm := sortBy_perm (keyLe Prod.fst) keyed
  have sorted := sortBy_pairwise (keyLe_total Prod.fst) (keyLe_trans Prod.fst) keyed
  refine ⟨same ▸ perm.map _, List.pairwise_map.2 (sorted.imp_of_mem fun {k k'} hk hk' le numbered => ?_)⟩
  have first := aclOrder_named (keys k (perm.mem_iff.1 hk))
  have second := aclOrder_named (keys k' (perm.mem_iff.1 hk'))
  rw [numbered] at second
  unfold keyLe at le
  cases named : Show.isNumbered k.2.1 with
  | true => rfl
  | false =>
    rw [named] at first
    change ((compare k.1.named k'.1.named).then _).isLE = true at le
    rw [first, second] at le
    cases le

end NetRack
