import NetRack.Proofs.AccessList.Lists

/-!
# Entering printed lists

Lines that are entered one after the other at the console of a device lead from lab to lab as long as each of them is
accepted.  A printed line is accepted where its command can be carried out, and what it makes of the access lists does
not depend on what the line ripples through.
-/

namespace NetRack

namespace Console

/-- Lines that are given to a device one after the other are all accepted, and lead from a lab to another. -/
inductive EntersAll (explainer : Option Explainer) (device : String) : Topology → List String → Topology → Prop where
  | nil (t : Topology) : EntersAll explainer device t [] t
  | cons {t u : Topology} {line : String} {lines : List String} (accepted : Accepts explainer t device line)
      (rest : EntersAll explainer device (t.next (.command explainer device line)) lines u) :
      EntersAll explainer device t (line :: lines) u

variable {explainer : Option Explainer} {device line : String} {t u v : Topology} {lines lines' : List String}

theorem EntersAll.single (accepted : Accepts explainer t device line) :
    EntersAll explainer device t [line] (t.next (.command explainer device line)) :=
  .cons accepted (.nil _)

theorem EntersAll.append (h : EntersAll explainer device t lines u) (h' : EntersAll explainer device u lines' v) :
    EntersAll explainer device t (lines ++ lines') v := by
  induction h with
  | nil t => exact h'
  | cons accepted rest ih => exact .cons accepted (ih h')

theorem EntersAll.orderly (h : EntersAll explainer device t lines u) (ordered : t.Orderly) : u.Orderly := by
  induction h with
  | nil t => exact ordered
  | cons accepted rest ih => exact ih (ordered.next _)

/-- Before each of the lines some lines have been entered, and the line is accepted then. -/
theorem EntersAll.split (h : EntersAll explainer device t (lines ++ line :: lines') u) :
    ∃ v, EntersAll explainer device t lines v ∧ Accepts explainer v device line ∧
      EntersAll explainer device (v.next (.command explainer device line)) lines' u := by
  induction lines generalizing t with
  | nil =>
    cases h with
    | cons accepted rest => exact ⟨t, .nil t, accepted, rest⟩
  | cons first lines ih =>
    cases h with
    | cons accepted rest =>
      obtain ⟨v, before, accepted', after⟩ := ih rest
      exact ⟨v, .cons accepted before, accepted', after⟩

/-- Lines that are given to a device one after the other are all accepted, and leave a device that something holds
of. -/
def LeadTo (explainer : Option Explainer) (device : String) (t : Topology) (lines : List String) (P : Device → Prop) :
    Prop :=
  ∃ u d, EntersAll explainer device t lines u ∧ u.device device = .ok d ∧ P d

variable {P Q : Device → Prop}

theorem LeadTo.imp (h : LeadTo explainer device t lines P) (weaker : ∀ d, P d → Q d) :
    LeadTo explainer device t lines Q := by
  obtain ⟨u, d, entered, hd, holds⟩ := h
  exact ⟨u, d, entered, hd, weaker d holds⟩

theorem LeadTo.append (h : LeadTo explainer device t lines P) (ordered : t.Orderly)
    (next : ∀ u d, u.Orderly → u.device device = .ok d → P d → LeadTo explainer device u lines' Q) :
    LeadTo explainer device t (lines ++ lines') Q := by
  obtain ⟨u, d, entered, hd, holds⟩ := h
  obtain ⟨v, d', entered', hd', holds'⟩ := next u d (entered.orderly ordered) hd holds
  exact ⟨v, d', entered.append entered', hd', holds'⟩

/-- Lines for each of some things are entered if those for the next can be after those for the things before. -/
theorem leadTo_flatMap {α : Type} {d : Device} (P : List α → Device → Prop) (linesOf : α → List String) (xs : List α)
    (step : ∀ (before : List α) (x : α) (after : List α), xs = before ++ x :: after →
      ∀ (t : Topology) (d : Device), t.Orderly → t.device device = .ok d → P before d →
      LeadTo explainer device t (linesOf x) (P (before ++ [x])))
    (ordered : t.Orderly) (hd : t.device device = .ok d) (start : P [] d) :
    LeadTo explainer device t (xs.flatMap linesOf) (P xs) := by
  have onwards (after : List α) : ∀ (before : List α), xs = before ++ after → ∀ (t : Topology) (d : Device), t.Orderly →
      t.device device = .ok d → P before d → LeadTo explainer device t (after.flatMap linesOf) (P xs) := by
    induction after with
    | nil =>
      intro before heq t d ordered hd holds
      rw [List.append_nil] at heq
      exact ⟨t, d, .nil t, hd, heq ▸ holds⟩
    | cons x after ih =>
      intro before heq t d ordered hd holds
      rw [List.flatMap_cons]
      refine (step before x after heq t d ordered hd holds).append ordered (ih (before ++ [x]) ?_)
      rw [heq, List.append_assoc]
      rfl
  exact onwards xs [] rfl t d ordered hd start

end Console

open Console

namespace Topology

variable {explainer : Option Explainer} {device line name : String} {t : Topology} {d : Device} {c : Command}
  {o : Outcome}

/-- A line is accepted that asks for a plain command that can be carried out, and leaves the frame that the command
makes. -/
theorem Orderly.next_done (h : t.Orderly) (hd : t.device device = .ok d) (asks : Asks d line c) (plain : c.Plain)
    (done : c.apply t d = .ok o) : Accepts explainer t device line ∧
      ∃ d', (t.next (.command explainer device line)).device device = .ok d' ∧ d'.frame = o.device.frame := by
  have hget := device_eq_ok.1 hd
  have ht := asks.not_trips plain
  have ran : run t d line = .ok (some o) := by
    rw [run_command asks]
    exact map_eq_ok.2 ⟨o, done, rfl⟩
  constructor
  · have delivers := (run_answers h hget ht).value ran o rfl
    obtain ⟨⟨u, x⟩, settled, carried⟩ := (settle_yields h hget delivers).exists_ok
    have sound := carried.orderly.sound.devices _ _ carried.device
    obtain ⟨r, hr, -⟩ := (doneResult_yields d o u sound).exists_ok
    have attempted : attempt t (deviceKey device) d line = .ok (some (o, u, x)) := by
      unfold attempt
      rw [ran, ok_bind]
      dsimp only
      rw [settled]
      rfl
    refine ⟨r, ?_, ?_⟩
    · unfold execute
      rw [hd, ok_bind, attempted]
      exact hr
    · obtain ⟨notices, -, hr⟩ := bind_eq_ok.1 hr
      cases hr
      rfl
  · have same := next_frame h explainer hd ht
    rw [made_command asks, done] at same
    obtain ⟨d', hd', frame⟩ := device_of_frame same.symm (get?_replaced_self hget o.device)
    exact ⟨d', device_eq_ok.2 hd', frame.symm⟩

/-- The console of a device configures one of its lists, or none in global configuration, and the lists are these. -/
structure Configures (d : Device) (list : Option String) (acls : Table String AccessList) : Prop where
  mode : d.mode = if list.isSome then .aclConfig else .globalConfig
  current : d.context.acl = list
  acls : d.acls = acls

variable {list : Option String} {acls : Table String AccessList} {l' : AccessList} {clause : Clause} {kind : AclKind}

/-- A line is entered that asks for a plain command that can be carried out. -/
theorem Configures.entered (after : Configures o.device list acls) (ordered : t.Orderly) (hd : t.device device = .ok d)
    (asks : Asks d line c) (plain : c.Plain) (done : c.apply t d = .ok o) :
    LeadTo explainer device t [line] (Configures · list acls) := by
  obtain ⟨accepted, d', hd', frame⟩ := ordered.next_done hd asks plain done
  exact ⟨_, d', .single accepted, hd', (congrArg (·.mode) frame).trans after.mode,
    (congrArg (·.context.acl) frame).trans after.current, (congrArg (·.acls) frame).trans after.acls⟩

theorem Configures.not_host (h : Configures d list acls) (seated : d.Seated) : d.isA .pc = false := by
  refine Console.not_host seated ?_
  rw [h.mode]
  cases list <;> rfl

/-- A line of a numbered list adds its rule to the list. -/
theorem Configures.next_numbered (h : Configures d none acls) (ordered : t.Orderly) (hd : t.device device = .ok d)
    {n : Int} (read : Argument.readInt (some 1) (some 199) (Text.intText n).toList = .ok n)
    (append : ((acls.get? (Text.intText n)).getD { name := Text.intText n, kind := .known (kindOfNumber n) }).append
      clause.printed.entry = .ok l') :
    LeadTo explainer device t ["access-list " ++ Text.intText n ++ " " ++ " ".intercalate clause.printed.written]
      (Configures · none (acls.insert (Text.intText n) l')) := by
  have ios := h.not_host (ordered.seated _ _ (device_eq_ok.1 hd))
  obtain ⟨k, rfl, -⟩ := Argument.readInt_intText read
  have texts := words_numbered (c := clause.printed) (Argument.isMarked_natText k).unbroken
  obtain ⟨first, _, hwords, hfirst, texts⟩ := List.map_eq_cons_iff.1 texts
  obtain ⟨number, rest, rfl, hnumber, texts⟩ := List.map_eq_cons_iff.1 texts
  have asks := asks_accessListNumbered h.mode ios hwords hfirst (by rwa [hnumber])
    (texts.symm ▸ Clause.spelledBy_written (fun a => by cases a <;> decide) clause)
  have done : addNumberedRule d k clause.printed.entry =
      .ok (.ofDevice { d with acls := d.acls.insert (Text.intText k) l' }) := by
    unfold addNumberedRule
    rw [h.acls]
    exact bind_eq_ok.2 ⟨l', append, rfl⟩
  have after : Configures { d with acls := d.acls.insert (Text.intText k) l' } none (acls.insert (Text.intText k) l') :=
    ⟨h.mode, h.current, by rw [h.acls]⟩
  exact after.entered ordered hd asks trivial done

/-- The first line of a named list makes the list and configures it. -/
theorem Configures.next_named (h : Configures d list acls) (ordered : t.Orderly) (hd : t.device device = .ok d)
    (word : Text.Unbroken name.toList) (absent : acls.get? name = none) (kind : AclKind) :
    LeadTo explainer device t ["ip access-list " ++ (Stored.known kind).text ++ " " ++ name]
      (Configures · (some name) (acls.insertIfNew name { name, kind := .known kind })) := by
  have seated := ordered.seated _ _ (device_eq_ok.1 hd)
  have config : d.mode.isConfig = true := by
    rw [h.mode]
    cases list <;> rfl
  have mode : d.mode = .globalConfig ∨ d.mode = .aclConfig := by
    rw [h.mode]
    cases list
    · exact Or.inl rfl
    · exact Or.inr rfl
  obtain ⟨w, _, hwords, hw, texts⟩ := List.map_eq_cons_iff.1 (words_named word kind)
  obtain ⟨w', _, rfl, hw', texts⟩ := List.map_eq_cons_iff.1 texts
  obtain ⟨w'', _, rfl, hw'', texts⟩ := List.map_eq_cons_iff.1 texts
  obtain ⟨w₃, rfl, rfl⟩ := List.map_eq_singleton_iff.1 texts
  have asks := asks_accessListNamed mode (h.not_host seated) hwords hw hw' hw''
  let made : Device := { d with acls := d.acls.insertIfNew w₃.text { name := w₃.text, kind := .known kind } }
  have stacked : made.Stacked := seated.stacked
  have focused : made.Focused := seated.focused
  have entered : made.enterMode .aclConfig (fun c => { c with acl := some w₃.text }) = .ok { made with
      mode := .aclConfig, modeStack := ⟨Mode.outer .aclConfig, 4⟩, context := { acl := some w₃.text } } :=
    Device.enterMode_eq stacked focused config rfl _
  have done : configureList d kind w₃.text = .ok (.ofDevice { made with
      mode := .aclConfig, modeStack := ⟨Mode.outer .aclConfig, 4⟩, context := { acl := some w₃.text } }) := by
    unfold configureList
    rw [h.acls, absent, ← h.acls]
    show (liftM (made.enterMode .aclConfig _) >>= _) = _
    rw [entered]
    rfl
  have acls_made : made.acls = acls.insertIfNew w₃.text { name := w₃.text, kind := .known kind } := by
    rw [← h.acls]
  exact Configures.entered ⟨rfl, rfl, acls_made⟩ ordered hd asks trivial done

/-- A line of a list that is configured adds its rule to the list. -/
theorem Configures.next_listed (h : Configures d (some name) acls) (ordered : t.Orderly)
    (hd : t.device device = .ok d) {l : AccessList} (hl : acls.get? name = some l)
    (append : l.append clause.printed.entry = .ok l') :
    LeadTo explainer device t [" " ++ " ".intercalate clause.printed.written]
      (Configures · (some name) (acls.modify name fun _ => l')) := by
  have ios := h.not_host (ordered.seated _ _ (device_eq_ok.1 hd))
  have texts := words_indented clause.printed.unbroken_written
  have asks := asks_aclRule h.mode ios (texts.symm ▸ Clause.spelledBy_written (fun a => by cases a <;> decide) clause)
  have done : addRule d clause.printed.entry =
      .ok (.ofDevice { d with acls := d.acls.modify name fun _ => l' }) := by
    unfold addRule
    rw [h.current, h.acls, Option.bind_some, hl]
    exact bind_eq_ok.2 ⟨l', append, rfl⟩
  have after : Configures { d with acls := d.acls.modify name fun _ => l' } (some name)
      (acls.modify name fun _ => l') :=
    ⟨h.mode, h.current, by rw [h.acls]⟩
  exact after.entered ordered hd asks trivial done

end Topology

end NetRack
