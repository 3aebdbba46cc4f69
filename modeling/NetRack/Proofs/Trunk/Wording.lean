import NetRack.Proofs.AccessList.Entry
import NetRack.Proofs.Trunk.Runs

/-!
# How the VLANs of a trunk are worded

The VLANs that a trunk carries are given as all or none of them, or as a list, before which there may be a word that
says what becomes of the VLANs listed.  A line asks for a change of them exactly if its words spell the change after
those of the command, each of which may be abbreviated.
-/

namespace NetRack

/-! ## Words of a change -/

/-- The keywords that may come where the VLANs of a trunk are given. -/
def changeWords : List String := ["all", "none", "add", "remove", "except"]

/-- The keywords that may come after `switchport`. -/
def switchportWords : List String := ["mode", "access", "trunk", "port-security"]

namespace TrunkChange

/-- The keyword of a change. -/
def keyword? : TrunkChange → Option String
  | all => some "all"
  | none => some "none"
  | set _ => Option.none
  | add _ => some "add"
  | remove _ => some "remove"
  | except _ => some "except"

/-- The VLANs that a change lists. -/
def listed? : TrunkChange → Option (List Int)
  | all => Option.none
  | none => Option.none
  | set vlans => some vlans
  | add vlans => some vlans
  | remove vlans => some vlans
  | except vlans => some vlans

/-- Words spell a change of the VLANs of a trunk: its keyword, if it has one, and what lists its VLANs. -/
inductive SpelledBy (c : TrunkChange) : List String → Prop where
  | word {w token : String} (keyword : c.keyword? = some token) (alone : c.listed? = Option.none)
      (chosen : Chooses changeWords w token) : SpelledBy c [w]
  | listed {w t token : String} {s : VlanSet} (keyword : c.keyword? = some token) (vlans : c.listed? = some s.ids)
      (chosen : Chooses changeWords w token) (lists : Argument.Lists t s) : SpelledBy c [w, t]
  | list {t : String} {s : VlanSet} (bare : c.keyword? = Option.none) (vlans : c.listed? = some s.ids)
      (passed : Passes changeWords t) (lists : Argument.Lists t s) : SpelledBy c [t]

/-- The words of a line are those of a change of the VLANs of a trunk. -/
inductive WordedBy (c : TrunkChange) (line : String) : Prop where
  | intro {w₁ w₂ w₃ w₄ : String} {rest : List String}
      (words : (Text.words line).map (·.text) = w₁ :: w₂ :: w₃ :: w₄ :: rest)
      (switchport : Chooses Grammar.interfaceGrammar.rivals w₁ "switchport")
      (trunk : Chooses switchportWords w₂ "trunk") (allowed : Chooses ["allowed", "native"] w₃ "allowed")
      (vlan : Chooses ["vlan"] w₄ "vlan") (spelled : c.SpelledBy rest)

/-! ## Courses -/

/-- Where VLANs are listed. -/
def listSlot : NodeLabel := .argument "vlans" .vlanList Option.none Option.none

/-- The course of a change through the grammar. -/
def turns (c : TrunkChange) : List Turn :=
  match c.keyword?, c.listed? with
  | some token, Option.none => [⟨changeWords, .keyword token (some "op")⟩]
  | some token, some _ => [⟨changeWords, .keyword token (some "op")⟩, ⟨[], listSlot⟩]
  | Option.none, _ => [⟨changeWords, listSlot⟩]

/-- The steps that take a change. -/
def steps (c : TrunkChange) : List Step :=
  (c.keyword?.map fun token => ⟨.keyword token (some "op"), .text token⟩).toList ++
    (c.listed?.map fun vlans => ⟨listSlot, .vlans vlans⟩).toList

/-- The course from the first word of a line to the words of a change. -/
def allowing : List Turn := [
  ⟨Grammar.interfaceGrammar.rivals, .keyword "switchport" Option.none⟩,
  ⟨switchportWords, .keyword "trunk" Option.none⟩,
  ⟨["allowed", "native"], .keyword "allowed" Option.none⟩,
  ⟨["vlan"], .keyword "vlan" Option.none⟩]

/-- The steps that take the words ahead of a change. -/
def allowingSteps : List Step := [
  ⟨.keyword "switchport" Option.none, .text "switchport"⟩,
  ⟨.keyword "trunk" Option.none, .text "trunk"⟩,
  ⟨.keyword "allowed" Option.none, .text "allowed"⟩,
  ⟨.keyword "vlan" Option.none, .text "vlan"⟩]

/-- The changes, but for the VLANs that they list. -/
def shapes : List TrunkChange := [all, none, add [], remove [], except [], set []]

theorem coursesTo_trunkAllowed :
    Grammar.interfaceGrammar.coursesTo .trunkAllowed = shapes.map fun c => allowing ++ c.turns := by
  decide +kernel

section Words

variable {c : TrunkChange} {line : List Char} {device : Option Device} {words rest : List Text.Word}
  {steps' : List Step}

/-- A change has the course of one of the shapes. -/
theorem turns_mem_shapes (c : TrunkChange) : c.turns ∈ shapes.map turns := by
  cases c <;> simp [shapes, turns, keyword?, listed?]

/-- Where VLANs are listed, a word that passes the keywords is taken for what it lists. -/
theorem follows_listSlot {rivals : List String} :
    Follows line device [⟨rivals, listSlot⟩] words steps' ↔ ∃ word s, words = [word] ∧ Passes rivals word.text ∧
      Argument.Lists word.text s ∧ steps' = [⟨listSlot, .vlans s.ids⟩] := by
  unfold listSlot
  rw [follows_argument (by decide) (by decide)]
  constructor
  · rintro ⟨word, rest, v, later, rfl, passed, accepted, rfl, last⟩
    obtain ⟨rfl, rfl⟩ := follows_nil.1 last
    obtain ⟨s, read, rfl⟩ := map_eq_ok.1 accepted
    exact ⟨word, s, rfl, passed, Argument.readVlanSet_eq_ok_iff.1 read, rfl⟩
  · rintro ⟨word, s, rfl, passed, lists, rfl⟩
    have read := Argument.readVlanSet_eq_ok_iff.2 lists
    exact ⟨word, [], _, [], rfl, passed, map_eq_ok.2 ⟨s, read, rfl⟩, rfl, .done⟩

/-- The words that follow the course of a change spell a change. -/
theorem exists_of_follows (h : Follows line device c.turns words steps') :
    ∃ c' : TrunkChange, c'.SpelledBy (words.map (·.text)) ∧ steps' = c'.steps := by
  have alone {token : String} (h : Follows line device [⟨changeWords, .keyword token (some "op")⟩] words steps') :
      ∃ word, words = [word] ∧ Chooses changeWords word.text token ∧
        steps' = [⟨.keyword token (some "op"), .text token⟩] := by
    obtain ⟨word, _, _, rfl, chosen, rfl, last⟩ := follows_keyword.1 h
    obtain ⟨rfl, rfl⟩ := follows_nil.1 last
    exact ⟨word, rfl, chosen, rfl⟩
  have pair {token : String}
      (h : Follows line device [⟨changeWords, .keyword token (some "op")⟩, ⟨[], listSlot⟩] words steps') :
      ∃ word list s, words = [word, list] ∧ Chooses changeWords word.text token ∧
        Argument.Lists list.text s ∧
        steps' = [⟨.keyword token (some "op"), .text token⟩, ⟨listSlot, .vlans s.ids⟩] := by
    obtain ⟨word, _, _, rfl, chosen, rfl, last⟩ := follows_keyword.1 h
    obtain ⟨list, s, rfl, -, lists, rfl⟩ := follows_listSlot.1 last
    exact ⟨word, list, s, rfl, chosen, lists, rfl⟩
  cases c with
  | all =>
    obtain ⟨word, rfl, chosen, rfl⟩ := alone h
    exact ⟨all, .word rfl rfl chosen, rfl⟩
  | none =>
    obtain ⟨word, rfl, chosen, rfl⟩ := alone h
    exact ⟨none, .word rfl rfl chosen, rfl⟩
  | set vlans =>
    obtain ⟨word, s, rfl, passed, lists, rfl⟩ := follows_listSlot.1 h
    exact ⟨set s.ids, .list rfl rfl passed lists, rfl⟩
  | add vlans =>
    obtain ⟨word, list, s, rfl, chosen, lists, rfl⟩ := pair h
    exact ⟨add s.ids, .listed rfl rfl chosen lists, rfl⟩
  | remove vlans =>
    obtain ⟨word, list, s, rfl, chosen, lists, rfl⟩ := pair h
    exact ⟨remove s.ids, .listed rfl rfl chosen lists, rfl⟩
  | except vlans =>
    obtain ⟨word, list, s, rfl, chosen, lists, rfl⟩ := pair h
    exact ⟨except s.ids, .listed rfl rfl chosen lists, rfl⟩

/-- The words that spell a change follow its course. -/
theorem SpelledBy.follows {texts : List String} (h : c.SpelledBy texts) (same : words.map (·.text) = texts) :
    Follows line device c.turns words c.steps := by
  unfold turns steps
  cases h with
  | word keyword alone chosen =>
    obtain ⟨w, rfl, rfl⟩ := List.map_eq_singleton_iff.1 same
    rw [keyword, alone]
    exact .keyword chosen .done
  | listed keyword vlans chosen lists =>
    obtain ⟨w, _, rfl, rfl, after⟩ := List.map_eq_cons_iff.1 same
    obtain ⟨t, rfl, rfl⟩ := List.map_eq_singleton_iff.1 after
    rw [keyword, vlans]
    exact .keyword chosen (follows_listSlot.2 ⟨t, _, rfl, passes_nil _, lists, rfl⟩)
  | list bare vlans passed lists =>
    obtain ⟨t, rfl, rfl⟩ := List.map_eq_singleton_iff.1 same
    rw [bare, vlans]
    exact follows_listSlot.2 ⟨t, _, rfl, passed, lists, rfl⟩

end Words

/-- The change is recorded by its steps. -/
theorem trunkChange_eq {r : ResolvedCommand} {c : TrunkChange} {verb : Verb}
    (h : r.Gathers ∅ [] (allowingSteps ++ c.steps) verb) : r.trunkChange = c := by
  have op : (r.text "op").toOption = c.keyword? := by
    unfold ResolvedCommand.text
    rw [h.get?]
    cases c <;> rfl
  have vlans : r.vlanList "vlans" = c.listed?.getD [] := by
    unfold ResolvedCommand.vlanList
    rw [h.get?]
    cases c <;> rfl
  unfold ResolvedCommand.trunkChange
  rw [op, vlans]
  cases c <;> rfl

end TrunkChange

/-! ## Lines -/

theorem verb_of_trunkAllowed {r : ResolvedCommand} {c : TrunkChange}
    (h : r.command = .ok (.interface (.trunkAllowed c))) : r.verb = .trunkAllowed ∧ r.trunkChange = c := by
  have found := interfaceCommand?_of_command h
  generalize r.verb = v at found ⊢
  cases v with
  | trunkAllowed =>
    cases found
    exact ⟨rfl, rfl⟩
  | _ => simp [ResolvedCommand.interfaceCommand?, bind_eq_ok, map_eq_ok] at found

namespace Console

variable {d : Device} {line : String} {c : TrunkChange}

/-- In the configuration of an interface a line asks for a change of the VLANs of a trunk exactly if its words are
those of the change. -/
theorem asks_trunkAllowed_iff (mode : d.mode = .interfaceConfig) (ios : d.isA .pc = false) :
    Asks d line (.interface (.trunkAllowed c)) ↔ c.WordedBy line := by
  have courses : (Grammar.root d.mode (platform d)).coursesTo .trunkAllowed =
      TrunkChange.shapes.map fun c => TrunkChange.allowing ++ c.turns := by
    rw [root_of_ios mode ios]
    exact TrunkChange.coursesTo_trunkAllowed
  constructor
  · intro asks
    obtain ⟨steps, turns, r, hturns, follows, gathers, -, command⟩ := asks.follows
    obtain ⟨verb, rfl⟩ := verb_of_trunkAllowed command
    rw [verb, ← Node.mem_coursesTo, courses] at hturns
    obtain ⟨shape, -, rfl⟩ := List.mem_map.1 hturns
    obtain ⟨w₁, _, _, hwords, switchport, rfl, after₁⟩ := follows_keyword.1 follows
    obtain ⟨w₂, _, _, rfl, trunk, rfl, after₂⟩ := follows_keyword.1 after₁
    obtain ⟨w₃, _, _, rfl, allowed, rfl, after₃⟩ := follows_keyword.1 after₂
    obtain ⟨w₄, _, _, rfl, vlan, rfl, after₄⟩ := follows_keyword.1 after₃
    obtain ⟨c, spelled, rfl⟩ := TrunkChange.exists_of_follows after₄
    rw [TrunkChange.trunkChange_eq gathers]
    exact .intro (by rw [hwords]; rfl) switchport trunk allowed vlan spelled
  · rintro ⟨words, switchport, trunk, allowed, vlan, spelled⟩
    obtain ⟨w₁, _, hwords, rfl, texts₁⟩ := List.map_eq_cons_iff.1 words
    obtain ⟨w₂, _, rfl, rfl, texts₂⟩ := List.map_eq_cons_iff.1 texts₁
    obtain ⟨w₃, _, rfl, rfl, texts₃⟩ := List.map_eq_cons_iff.1 texts₂
    obtain ⟨w₄, _, rfl, rfl, texts₄⟩ := List.map_eq_cons_iff.1 texts₃
    have course : TrunkChange.allowing ++ c.turns ∈ (Grammar.root d.mode (platform d)).coursesTo .trunkAllowed := by
      rw [courses]
      obtain ⟨shape, hshape, same⟩ := List.mem_map.1 c.turns_mem_shapes
      exact List.mem_map.2 ⟨shape, hshape, congrArg _ same⟩
    have follows : Follows line.toList (some d) (TrunkChange.allowing ++ c.turns) (Text.words line)
        (TrunkChange.allowingSteps ++ c.steps) := by
      rw [hwords]
      exact .keyword switchport (.keyword trunk (.keyword allowed (.keyword vlan (spelled.follows texts₄))))
    refine asks_of_follows (Node.mem_coursesTo.1 course) (by simp [hwords]) follows (by decide) fun r gathers => ?_
    unfold ResolvedCommand.command
    rw [gathers.verb]
    show Except.ok (Command.interface (.trunkAllowed r.trunkChange)) = _
    rw [TrunkChange.trunkChange_eq gathers]

end Console

end NetRack
