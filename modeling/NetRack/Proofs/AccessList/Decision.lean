import NetRack.Proofs.AccessList.Entry
import NetRack.Proofs.Failures
import NetRack.Proofs.Pings
import NetRack.Proofs.Settings.Line

/-!
# What access lists decide

The rules of a list are those of the clauses that were entered into it, each where it was entered first.  So a list
decides by the clauses in the order in which they were entered, whatever else was done at the consoles in between,
and it does not matter that a rule is not entered twice.
-/

namespace NetRack

/-! ## Lines of lists -/

namespace Console

/-- A line enters a rule into a list of a device, in some words: those of the line in the configuration of the
list, and those after the number of the list in global configuration. -/
inductive EntersRule (d : Device) (line name : String) : List String → Prop where
  | listed {e : RuleEntry} (asks : Asks d line (.aclRule e)) (current : d.context.acl = some name) :
      EntersRule d line name ((Text.words line).map (·.text))
  | numbered {n : Int} {e : RuleEntry} (asks : Asks d line (.global (.accessListNumbered n e)))
      (number : Text.intText n = name) : EntersRule d line name (((Text.words line).drop 2).map (·.text))

/-- A line neither enters a rule into a list of a device nor takes the list away. -/
def Spares (d : Device) (line name : String) : Prop :=
  (∀ words, ¬EntersRule d line name words) ∧ ¬Asks d line (.global (.noAccessList name))

/-- A line is accepted. -/
def Accepts (explainer : Option Explainer) (t : Topology) (device line : String) : Prop :=
  ∃ r, execute explainer t device line = .ok r ∧ r.valid = true

end Console

open Console

theorem Clause.SpelledBy.of_subset {c : Clause} {actions more words : List String} (h : c.SpelledBy more words)
    (sub : actions ⊆ more) (mem : ∀ a : RuleAction, Vocabulary.spelling a ∈ actions) : c.SpelledBy actions words := by
  cases h with
  | standard chosen ofSource => exact .standard (chosen.of_subset sub (mem _)) ofSource
  | extended chosen ofProtocol ofSource ofDestination full =>
    exact .extended (chosen.of_subset sub (mem _)) ofProtocol ofSource ofDestination full

/-! ## What commands make of a list -/

section Lists

variable {d : Device} {line name : String} {c : Command} {o : Outcome} {words : List String} {t : Topology}

/-- The rules of a list, none if there is no list. -/
def Device.rulesOf (d : Device) (name : String) : List AclRule := ((d.acls.get? name).map (·.rules)).getD []

theorem AccessList.append_rules {l l' : AccessList} {e : RuleEntry} (h : l.append e = .ok l') :
    l'.rules = if e.rule ∈ l.rules then l.rules else l.rules ++ [e.rule] := by
  unfold AccessList.append at h
  obtain ⟨-, -, h⟩ := bind_eq_ok.1 h
  obtain ⟨-, -, h⟩ := bind_eq_ok.1 h
  cases h
  split <;> rfl

theorem addNumberedRule_eq_ok {n : Int} {e : RuleEntry} (h : addNumberedRule d n e = .ok o) :
    ∃ l l' : AccessList, l.rules = d.rulesOf (Text.intText n) ∧ l.append e = .ok l' ∧
      o.device.acls = d.acls.insert (Text.intText n) l' := by
  obtain ⟨l', hl', h⟩ := bind_eq_ok.1 h
  cases h
  refine ⟨_, l', ?_, hl', rfl⟩
  unfold Device.rulesOf
  cases d.acls.get? (Text.intText n) <;> rfl

theorem addRule_eq_ok {e : RuleEntry} (h : addRule d e = .ok o) : ∃ key l l', d.context.acl = some key ∧
    d.acls.get? key = some l ∧ l.append e = .ok l' ∧ o.device.acls = d.acls.modify key fun _ => l' := by
  unfold addRule at h
  split at h
  · cases h
  · rename_i key l found
    obtain ⟨key', current, found⟩ := Option.bind_eq_some_iff.1 found
    obtain ⟨l, hl, same⟩ := Option.map_eq_some_iff.1 found
    cases same
    obtain ⟨l', hl', h⟩ := bind_eq_ok.1 h
    cases h
    exact ⟨key, _, l', current, hl, hl', rfl⟩

/-- What is entered spells a clause, whose rule the list then has. -/
theorem Console.EntersRule.clause (enters : EntersRule d line name words) (asks : Asks d line c)
    (done : c.apply t d = .ok o) : ∃ clause : Clause, clause.SpelledBy actionWords words ∧
      ∃ l, o.device.acls.get? name = some l ∧ l.rules = if clause.entry.rule ∈ d.rulesOf name then d.rulesOf name
        else d.rulesOf name ++ [clause.entry.rule] := by
  have same {c' : Command} (asks' : Asks d line c') : c' = c := by
    unfold Asks at asks asks'
    rw [asks] at asks'
    cases asks'
    rfl
  cases enters with
  | listed asks' current =>
    obtain rfl := same asks'
    obtain ⟨clause, spelled, rfl⟩ := asks'.clause
    obtain ⟨key, l, l', current', hl, append, acls⟩ := addRule_eq_ok done
    obtain rfl := Option.some.inj (current.symm.trans current')
    refine ⟨clause, spelled.of_subset ?_ fun a => by cases a <;> decide, l', ?_, ?_⟩
    · intro k hk
      revert k
      unfold actionWords
      decide
    · rw [acls, Table.get?_modify_self, hl]
      rfl
    · unfold Device.rulesOf
      rw [hl]
      exact AccessList.append_rules append
  | numbered asks' number =>
    obtain rfl := same asks'
    obtain ⟨first, word, rest, clause, hwords, -, spelled, rfl⟩ := asks'.numbered
    obtain ⟨l, l', rules, append, acls⟩ := addNumberedRule_eq_ok done
    rw [number] at rules acls
    refine ⟨clause, ?_, l', ?_, ?_⟩
    · rw [hwords]
      exact spelled
    · rw [acls, Table.get?_insert_self]
    · rw [← rules]
      exact AccessList.append_rules append

/-- What spares a list leaves it, or makes it without rules. -/
theorem Console.Spares.list (spares : Spares d line name) (h : d.Sound) (asks : Asks d line c)
    (done : c.apply t d = .ok o) : o.device.acls.get? name = d.acls.get? name ∨
      d.acls.get? name = none ∧ ∃ l, o.device.acls.get? name = some l ∧ l.rules = [] := by
  rcases ((command_settings h t c).value done).ofLists with same | step
  · exact Or.inl (congrArg (·.get? name) same)
  · change ListStep d.acls c o.device.acls at step
    generalize hacls : o.device.acls = acls at step ⊢
    cases step with
    | new kind other =>
      rw [Table.get?_insertIfNew]
      by_cases this : name = other
      · subst this
        rw [if_pos rfl]
        cases d.acls.get? name with
        | none => exact Or.inr ⟨rfl, _, rfl, rfl⟩
        | some l => exact Or.inl rfl
      · exact Or.inl (if_neg this)
    | @numbered n e l append =>
      have apart : name ≠ Text.intText n := fun this => spares.1 _ (.numbered asks this.symm)
      exact Or.inl (by rw [Table.get?_insert, if_neg apart])
    | named =>
      -- The rule is entered into the list under configuration, which is another one.
      obtain ⟨key, l, l', current, -, -, same⟩ := addRule_eq_ok done
      rw [← hacls, same]
      exact Or.inl (Table.get?_modify_of_ne fun this => spares.1 _ (.listed asks (this ▸ current)))
    | remove other =>
      have apart : name ≠ other := fun this => spares.2 (this ▸ asks)
      exact Or.inl (by rw [Table.get?_erase, if_neg apart])

end Lists

/-! ## What lines make of a list -/

namespace Topology

variable {t : Topology} {key device line name : String} {d : Device} {explainer : Option Explainer} {c : Command}
  {words : List String}

/-- A line that is not accepted changes nothing. -/
theorem next_refused (refused : ¬Accepts explainer t device line) : t.next (.command explainer device line) = t := by
  unfold next perform
  dsimp only
  cases hr : execute explainer t device line with
  | error f => rfl
  | ok r =>
    refine execute_rejected hr ?_
    rw [← Bool.not_eq_true]
    exact fun valid => refused ⟨r, hr, valid⟩

/-- A line that is accepted leaves the access lists of all devices but its own, and makes something of those. -/
theorem Orderly.next_lists (h : t.Orderly) (hd : t.devices.get? key = some d)
    (accepted : Accepts explainer t device line) :
    ∃ d', (t.next (.command explainer device line)).devices.get? key = some d' ∧
      d'.acls = (if deviceKey device = key then made t d line else d).acls := by
  obtain ⟨r, hr, -⟩ := accepted
  obtain ⟨x, hx, -⟩ := bind_eq_ok.1 hr
  have hget := device_eq_ok.1 hx
  have ht : ¬Trips x line 0 := fun ht => by
    rw [execute_trips h explainer hx ht] at hr
    cases hr
  have same : (t.next (.command explainer device line)).frame =
      (t.replaced (deviceKey device) (made t x line)).frame := by
    rw [next_command h explainer hx, attempted_frame h hget ht, frame_replaced]
  have found : (t.replaced (deviceKey device) (made t x line)).devices.get? key =
      some (if deviceKey device = key then made t d line else d) := by
    by_cases hk : deviceKey device = key
    · subst hk
      obtain rfl := Option.some.inj (hget.symm.trans hd)
      rw [if_pos rfl, get?_replaced_self hget]
    · rw [if_neg hk, get?_replaced_of_ne (Ne.symm hk), hd]
  obtain ⟨d', hd', frame⟩ := device_of_frame same.symm found
  refine ⟨d', hd', ?_⟩
  show d'.frame.acls = _
  rw [← frame]
  rfl

/-- A line that is accepted and asks for a command leaves the access lists that the command makes. -/
theorem Orderly.next_asked (h : t.Orderly) (hd : t.device device = .ok d) (asks : Asks d line c)
    (accepted : Accepts explainer t device line) : ∃ o, c.apply t d = .ok o ∧
      ∃ d', (t.next (.command explainer device line)).devices.get? (deviceKey device) = some d' ∧
        d'.acls = o.device.acls := by
  obtain ⟨d', hd', acls⟩ := h.next_lists (device_eq_ok.1 hd) accepted
  obtain ⟨r, hr, valid⟩ := accepted
  obtain ⟨x, o, hx, ran, -⟩ := execute_ran hr valid
  obtain rfl := Except.ok.inj (hd.symm.trans hx)
  rw [run_command asks] at ran
  obtain ⟨o, done, -⟩ := map_eq_ok.1 ran
  rw [if_pos rfl, made_command asks, done] at acls
  exact ⟨o, done, d', hd', acls⟩

/-! ## Sessions -/

/-- Lines lead from a lab to another.  Those that are accepted and enter rules into a list of a device do so in some
words, and the others spare the list if they are accepted. -/
inductive Entered (key name : String) (t : Topology) : List (List String) → Topology → Prop where
  | start : Entered key name t [] t
  | entry {u : Topology} {texts : List (List String)} {words : List String} {explainer : Option Explainer}
      {device line : String} {d : Device} (before : Entered key name t texts u) (given : deviceKey device = key)
      (hd : u.device device = .ok d) (enters : EntersRule d line name words)
      (accepted : Accepts explainer u device line) :
      Entered key name t (texts ++ [words]) (u.next (.command explainer device line))
  | between {u : Topology} {texts : List (List String)} {explainer : Option Explainer} {device line : String}
      (before : Entered key name t texts u)
      (spares : Accepts explainer u device line → deviceKey device = key → ∀ d, u.device device = .ok d →
        Spares d line name) : Entered key name t texts (u.next (.command explainer device line))

/-- A list of a device has the rules of some clauses, each where it was entered first.  There may be no list if there
are no clauses. -/
structure HasClauses (t : Topology) (key name : String) (clauses : List Clause) (d : Device) : Prop where
  device : t.devices.get? key = some d
  rules : d.rulesOf name = distinct (clauses.map fun c => c.entry.rule)
  listed : clauses ≠ [] → ∃ l, d.acls.get? name = some l

variable {u : Topology} {clauses : List Clause}

theorem HasClauses.entry (has : u.HasClauses key name clauses d) (h : u.Orderly) (given : deviceKey device = key)
    (enters : EntersRule d line name words) (accepted : Accepts explainer u device line) :
    ∃ clause : Clause, clause.SpelledBy actionWords words ∧
      ∃ d', (u.next (.command explainer device line)).HasClauses key name (clauses ++ [clause]) d' := by
  subst given
  have hd := device_eq_ok.2 has.device
  obtain ⟨c, asks⟩ : ∃ c, Asks d line c := by
    cases enters with
    | listed asks => exact ⟨_, asks⟩
    | numbered asks => exact ⟨_, asks⟩
  obtain ⟨o, done, d', hd', acls⟩ := h.next_asked hd asks accepted
  obtain ⟨clause, spelled, l, hl, rules⟩ := enters.clause asks done
  rw [← acls] at hl
  refine ⟨clause, spelled, d', hd', ?_, fun _ => ⟨l, hl⟩⟩
  unfold Device.rulesOf
  rw [hl, List.map_append, List.map_singleton, distinct_concat, ← has.rules]
  exact rules

theorem HasClauses.between (has : u.HasClauses key name clauses d) (h : u.Orderly)
    (spares : Accepts explainer u device line → deviceKey device = key → ∀ d, u.device device = .ok d →
      Spares d line name) : ∃ d', (u.next (.command explainer device line)).HasClauses key name clauses d' := by
  by_cases accepted : Accepts explainer u device line
  · obtain ⟨d', hd', acls⟩ := h.next_lists has.device accepted
    have kept (same : d'.acls.get? name = d.acls.get? name ∨
        d.acls.get? name = none ∧ ∃ l, d'.acls.get? name = some l ∧ l.rules = []) :
        (u.next (.command explainer device line)).HasClauses key name clauses d' := by
      rcases same with same | ⟨none, l, hl, empty⟩
      · refine ⟨hd', ?_, same ▸ has.listed⟩
        unfold Device.rulesOf
        rw [same]
        exact has.rules
      · refine ⟨hd', ?_, fun _ => ⟨l, hl⟩⟩
        rw [← has.rules]
        unfold Device.rulesOf
        rw [hl, none]
        exact empty
    refine ⟨d', kept ?_⟩
    rw [acls]
    split
    · rename_i given
      subst given
      rcases made_cases h has.device line with made | ⟨startupConfig, made⟩ | ⟨c, o, asks, done, made⟩
      · exact Or.inl (by rw [made])
      · exact Or.inl (by rw [made])
      · rw [made]
        exact (spares accepted rfl d (device_eq_ok.2 has.device)).list (h.sound.devices _ _ has.device) asks done
    · exact Or.inl rfl
  · rw [next_refused accepted]
    exact ⟨d, has⟩

/-- What was entered into a list spells clauses, whose rules the list has. -/
theorem Entered.has_clauses {t u : Topology} {texts : List (List String)} (entered : Entered key name t texts u)
    (h : t.Orderly) (hd : t.devices.get? key = some d) (absent : d.acls.get? name = none) :
    u.Orderly ∧ ∃ clauses, List.Forall₂ (Clause.SpelledBy actionWords) clauses texts ∧
      ∃ d', u.HasClauses key name clauses d' := by
  induction entered with
  | start =>
    refine ⟨h, [], .nil, d, hd, ?_, fun some => absurd rfl some⟩
    unfold Device.rulesOf
    rw [absent]
    rfl
  | entry before given hx enters accepted ih =>
    obtain ⟨orderly, clauses, spelled, d', has⟩ := ih
    have hd' := has.device
    rw [← given] at hd'
    obtain rfl := Except.ok.inj (hx.symm.trans (device_eq_ok.2 hd'))
    obtain ⟨clause, spells, d', has⟩ := has.entry orderly given enters accepted
    exact ⟨orderly.next _, clauses ++ [clause], List.rel_append spelled (.cons spells .nil), d', has⟩
  | between before spares ih =>
    obtain ⟨orderly, clauses, spelled, d', has⟩ := ih
    obtain ⟨d', has⟩ := has.between orderly spares
    exact ⟨orderly.next _, clauses, spelled, d', has⟩

/-- Rules that are entered into a list that was not there spell clauses, one list of clauses only, and whatever else
the consoles were used for, the list decides by the first of the clauses that matches: it lets a packet pass exactly
if that clause is a permit, and everything if there are no clauses. -/
theorem entered_decides (cs : List Change) (hd : (reached cs).devices.get? key = some d)
    (absent : d.acls.get? name = none) {texts : List (List String)} {u : Topology}
    (entered : Entered key name (reached cs) texts u) :
    ∃ clauses, (∀ others, List.Forall₂ (Clause.SpelledBy actionWords) others texts ↔ others = clauses) ∧
      ∃ d', u.devices.get? key = some d' ∧
        (texts = [] ∧ d'.acls.get? name = none ∨ ∃ l, d'.acls.get? name = some l ∧
          ∀ (protocol : Stored Protocol) (source destination : String) (a b : Address),
            Address.read? source = some a → Address.read? destination = some b →
            ∃ allowed, l.permits protocol source destination = .ok allowed ∧
              (allowed = true ↔ Permitted clauses protocol a b)) := by
  obtain ⟨-, clauses, spelled, d', has⟩ := entered.has_clauses (reached_orderly cs) hd absent
  refine ⟨clauses, fun others => ⟨fun spelled' => ?_, fun same => same ▸ spelled⟩, d', has.device, ?_⟩
  · exact List.left_unique_forall₂' (fun _ _ _ h h' => h.unique h') spelled' spelled
  · cases hl : d'.acls.get? name with
    | none =>
      refine Or.inl ⟨?_, rfl⟩
      by_contra some_rule
      have entries : clauses ≠ [] := fun none => some_rule (List.forall₂_nil_left_iff.1 (none ▸ spelled))
      obtain ⟨l, found⟩ := has.listed entries
      rw [hl] at found
      cases found
    | some l =>
      refine Or.inr ⟨l, rfl, fun protocol source destination a b hsource hdestination => ?_⟩
      have rules := has.rules
      unfold Device.rulesOf at rules
      rw [hl] at rules
      exact AccessList.permits_of_rules rules hsource hdestination

/-- A router that is about to be configured. -/
def configuredRouter : List Change :=
  [.addDevice "R1" "router" none, .command none "R1" "enable", .command none "R1" "configure terminal"]

/-- One host is kept out of a network that is let in, in abbreviated keywords. -/
theorem configuredRouter_decides : ∃ d u, (reached configuredRouter).devices.get? "R1" = some d ∧
    d.acls.get? "10" = none ∧
    Entered "R1" "10" (reached configuredRouter) [["DENY", "h", "10.0.0.1"], ["perm", "10.0.0.0", "0.0.0.255"]] u ∧
    ∃ clauses, (∀ others, List.Forall₂ (Clause.SpelledBy actionWords) others
        [["DENY", "h", "10.0.0.1"], ["perm", "10.0.0.0", "0.0.0.255"]] ↔ others = clauses) ∧
      ∃ d' l, u.devices.get? "R1" = some d' ∧ d'.acls.get? "10" = some l ∧
        ∀ (protocol : Stored Protocol) (source destination : String) (a b : Address),
          Address.read? source = some a → Address.read? destination = some b →
          ∃ allowed, l.permits protocol source destination = .ok allowed ∧
            (allowed = true ↔ Permitted clauses protocol a b) := by
  have first : ((reached configuredRouter).devices.get? "R1").any (fun d => (d.acls.get? "10").isNone &&
        decide ((request? d "access-list 10 DENY h 10.0.0.1" d.mode 0).toOption = some (some (.command
          (.global (.accessListNumbered 10 ⟨.deny, none, .host ⟨0x0A000001⟩, .any⟩)))))) = true ∧
      (execute none (reached configuredRouter) "R1" "access-list 10 DENY h 10.0.0.1").toOption.any (·.valid) =
        true := by
    decide +kernel
  have second : ((reached (configuredRouter ++ [.command none "R1" "access-list 10 DENY h 10.0.0.1"])).devices.get?
        "R1").any (fun d => decide ((request? d "acc 010 perm 10.0.0.0 0.0.0.255" d.mode 0).toOption =
          some (some (.command (.global
            (.accessListNumbered 10 ⟨.permit, none, ⟨⟨0x0A000000⟩, ⟨0xFF⟩⟩, .any⟩)))))) = true ∧
      (execute none (reached (configuredRouter ++ [.command none "R1" "access-list 10 DENY h 10.0.0.1"])) "R1"
        "acc 010 perm 10.0.0.0 0.0.0.255").toOption.any (·.valid) = true := by
    decide +kernel
  have key : deviceKey "R1" = "R1" := by decide
  have words : ((Text.words "access-list 10 DENY h 10.0.0.1").drop 2).map (·.text) = ["DENY", "h", "10.0.0.1"] ∧
      ((Text.words "acc 010 perm 10.0.0.0 0.0.0.255").drop 2).map (·.text) = ["perm", "10.0.0.0", "0.0.0.255"] := by
    decide
  have number : Text.intText 10 = "10" := by decide
  have accepts {t : Topology} {line : String} (h : (execute none t "R1" line).toOption.any (·.valid) = true) :
      Accepts none t "R1" line := by
    obtain ⟨r, hr, valid⟩ := (Option.any_eq_true ..).1 h
    exact ⟨r, toOption_eq_some.1 hr, valid⟩
  have known {t : Topology} {d : Device} (hd : t.devices.get? "R1" = some d) : t.device "R1" = .ok d :=
    device_eq_ok.2 (key.symm ▸ hd)
  rw [reached_concat] at second
  generalize configuredRouter = cs at first second ⊢
  obtain ⟨asked, accepted⟩ := first
  obtain ⟨asked', accepted'⟩ := second
  obtain ⟨d, hd, asks⟩ := (Option.any_eq_true ..).1 asked
  obtain ⟨d₁, hd₁, asks₁⟩ := (Option.any_eq_true ..).1 asked'
  simp only [Bool.and_eq_true, decide_eq_true_eq, Option.isNone_iff_eq_none] at asks asks₁
  obtain ⟨absent, asks⟩ := asks
  have one : Entered "R1" "10" (reached cs) ([] ++ [["DENY", "h", "10.0.0.1"]]) _ :=
    .entry .start key (known hd) (words.1 ▸ .numbered (toOption_eq_some.1 asks) number) (accepts accepted)
  have two : Entered "R1" "10" (reached cs)
      (([] ++ [["DENY", "h", "10.0.0.1"]]) ++ [["perm", "10.0.0.0", "0.0.0.255"]]) _ :=
    .entry one key (known hd₁) (words.2 ▸ .numbered (toOption_eq_some.1 asks₁) number) (accepts accepted')
  obtain ⟨clauses, spelled, d', hd', decides⟩ := entered_decides cs hd absent two
  obtain ⟨l, hl, permits⟩ := decides.resolve_left fun none => by cases none.1
  exact ⟨d, _, hd, absent, two, clauses, spelled, d', l, hd', hl, permits⟩

end Topology

end NetRack
