import NetRack.Proofs.Name
import NetRack.Proofs.Resolver.Reading
import NetRack.Proofs.Table

/-!
# Numerals in arguments

A word that is no argument of the kind that is asked for is refused.  There is one exception: a
numeral with too many digits cannot even be looked at, whether it is a number, part of a list of VLANs,
or the number of a subinterface that a device does not have.  Nothing else about a word fails.
-/

namespace NetRack.Argument

/-- A numeral with too many digits. -/
def IsLong (cs : List Char) : Prop := Text.arePlainDigits cs = true ∧ Text.numeralLimit < cs.length

/-- A part of a list of VLANs in which a numeral has too many digits; the second numeral of an interval
is looked at only after the first. -/
def IsLongPart (part : List Char) : Prop :=
  if part.contains '-' then
    IsLong (part.takeWhile (· ≠ '-')) ∨
      ((∃ n, readVlan (part.takeWhile (· ≠ '-')) = .ok n) ∧ IsLong ((part.dropWhile (· ≠ '-')).drop 1))
  else IsLong part

/-- A word with a numeral that has too many digits where an argument of a kind looks at it. -/
def Overlong (kind : ArgKind) (device : Option Device) (raw : String) : Prop :=
  match kind with
  | .int => IsLong raw.toList
  | .vlanList => ∃ before part after, Address.splitChars ',' [] raw.toList = before ++ part :: after ∧
      (∀ p ∈ before, ∃ s, readVlanPart p = .ok s) ∧ IsLongPart part
  | .interface => ∃ name d digits, InterfaceName.normalize? raw = some name ∧ device = some d ∧
      d.interfaces.contains name = false ∧ d.isA .pc = false ∧
      (InterfaceName.splitDigits name).2 = some digits ∧ Text.numeralLimit < digits.length
  | _ => False

variable {low high : Option Int} {cs : List Char} {f : Fault}

theorem accept_ne_fault {α : Type} (x : Option α) : accept x ≠ .error (.fault f) := by
  cases x with
  | none => exact fun h => by cases h
  | some a => exact fun h => by cases h

theorem lift_eq_fault {α : Type} {x : Except Fault α} : lift x = .error (.fault f) ↔ x = .error f := by
  cases x with
  | ok a => simp [lift]
  | error g => simp [lift]

theorem readInt_fault_iff : readInt low high cs = .error (.fault f) ↔ IsLong cs ∧ f = .badNumber := by
  unfold IsLong
  by_cases hdigits : Text.arePlainDigits cs = true
  · rw [readInt_of_digits hdigits]
    unfold Text.readDigits?
    by_cases hlong : cs.length ≤ Text.numeralLimit
    · rw [if_pos hlong]
      constructor
      · intro h
        dsimp only at h
        split at h <;> cases h
      · rintro ⟨⟨-, h⟩, -⟩
        omega
    · rw [if_neg hlong]
      constructor
      · intro h
        cases h
        exact ⟨⟨hdigits, by omega⟩, rfl⟩
      · rintro ⟨-, rfl⟩
        rfl
  · unfold readInt
    rw [if_neg hdigits]
    constructor
    · intro h
      cases h
    · exact fun h => absurd h.1.1 hdigits

theorem readMask_ne_fault (raw : String) : readMask raw ≠ .error (.fault f) := by
  unfold readMask readAddress
  cases Address.read? raw with
  | none => exact fun h => by cases h
  | some a =>
    simp only [accept, ok_bind]
    split <;> exact fun h => by cases h

theorem readStation_ne_fault (raw : String) : readStation raw ≠ .error (.fault f) := by
  unfold readStation
  dsimp only
  split <;> split <;> exact fun h => by cases h

theorem readNextHop_ne_fault (device : Option Device) (raw : String) :
    readNextHop device raw ≠ .error (.fault f) := by
  unfold readNextHop
  cases Address.read? raw with
  | some a => exact fun h => by cases h
  | none =>
    cases InterfaceName.normalize? raw with
    | none => exact fun h => by cases h
    | some name =>
      simp only [accept, ok_bind]
      split <;> exact fun h => by cases h

/-! ## Lists of VLANs -/

theorem readVlanPart_fault_iff {part : List Char} :
    readVlanPart part = .error (.fault f) ↔ IsLongPart part ∧ f = .badNumber := by
  unfold readVlanPart IsLongPart
  split
  · generalize part.takeWhile (· ≠ '-') = first
    generalize (part.dropWhile (· ≠ '-')).drop 1 = second
    rw [bind_eq_error]
    unfold readVlan
    rw [readInt_fault_iff]
    have rest (n : Int) : (do
        let high ← readInt (some 1) (some 4094) second
        if n ≤ high then return VlanSet.interval n (high - n + 1).toNat else .error .refused) =
          (.error (.fault f) : Except ArgumentFault VlanSet) ↔ IsLong second ∧ f = .badNumber := by
      rw [bind_eq_error, readInt_fault_iff]
      refine or_iff_left ?_
      rintro ⟨m, -, h⟩
      split at h <;> cases h
    constructor
    · rintro (h | ⟨n, hn, h⟩)
      · exact ⟨Or.inl h.1, h.2⟩
      · obtain ⟨hlong, hf⟩ := (rest n).1 h
        exact ⟨Or.inr ⟨⟨n, hn⟩, hlong⟩, hf⟩
    · rintro ⟨hlong | ⟨⟨n, hn⟩, hlong⟩, hf⟩
      · exact Or.inl ⟨hlong, hf⟩
      · exact Or.inr ⟨n, hn, (rest n).2 ⟨hlong, hf⟩⟩
  · rw [bind_eq_error]
    unfold readVlan
    rw [readInt_fault_iff]
    refine or_iff_left ?_
    rintro ⟨n, -, h⟩
    cases h

/-- The first element of a list that there is something about is the head, or that of the rest. -/
theorem exists_split_cons {α : Type} {P Q : α → Prop} {x : α} {xs : List α} :
    (∃ before y after, x :: xs = before ++ y :: after ∧ (∀ z ∈ before, P z) ∧ Q y) ↔
      Q x ∨ P x ∧ ∃ before y after, xs = before ++ y :: after ∧ (∀ z ∈ before, P z) ∧ Q y := by
  constructor
  · rintro ⟨before, y, after, heq, hP, hy⟩
    cases before with
    | nil =>
      obtain ⟨rfl, -⟩ := List.cons.inj heq
      exact Or.inl hy
    | cons z zs =>
      obtain ⟨rfl, rfl⟩ := List.cons.inj heq
      obtain ⟨hx, hP⟩ := List.forall_mem_cons.1 hP
      exact Or.inr ⟨hx, zs, y, after, rfl, hP, hy⟩
  · rintro (hx | ⟨hx, before, y, after, rfl, hP, hy⟩)
    · exact ⟨[], x, xs, rfl, fun z hz => (List.not_mem_nil hz).elim, hx⟩
    · exact ⟨x :: before, y, after, rfl, List.forall_mem_cons.2 ⟨hx, hP⟩, hy⟩

/-- A loop fails with a cause exactly if a step does so and no step before it fails. -/
theorem foldlM_eq_error {α β γ ε : Type} {read : α → Except ε β} {add : γ → β → γ} {e : ε} (xs : List α)
    (c : γ) : xs.foldlM (fun c x => do return add c (← read x)) c = .error e ↔
      ∃ before x after, xs = before ++ x :: after ∧ (∀ y ∈ before, ∃ b, read y = .ok b) ∧
        read x = .error e := by
  induction xs generalizing c with
  | nil => simp
  | cons x xs ih =>
    rw [List.foldlM_cons, exists_split_cons]
    cases hx : read x with
    | error e' => simp
    | ok b =>
      rw [ok_bind, pure_eq_ok, ok_bind, ih]
      simp

/-! ## Names of interfaces -/

theorem split_fault_iff {name : String} : InterfaceName.split name = .error f ↔
    (∃ digits, (InterfaceName.splitDigits name).2 = some digits ∧ Text.numeralLimit < digits.length) ∧
      f = .badNumber := by
  unfold InterfaceName.split
  cases h : InterfaceName.splitDigits name with
  | mk parent digits? =>
    cases digits? with
    | none => simp
    | some digits =>
      simp only [Text.readDigits?]
      split
      · simp only [needNumber, ok_bind, pure_eq_ok]
        constructor
        · intro hf
          cases hf
        · rintro ⟨⟨digits', hd, hlong⟩, -⟩
          cases hd
          omega
      · simp only [needNumber, error_bind, Except.error.injEq]
        constructor
        · rintro rfl
          exact ⟨⟨digits, rfl, by omega⟩, rfl⟩
        · exact fun hf => hf.2.symm

theorem isPossibleInterface_fault_iff {d : Device} {name : String} :
    isPossibleInterface d name = .error f ↔
      d.interfaces.contains name = false ∧ d.isA .pc = false ∧ InterfaceName.split name = .error f := by
  unfold isPossibleInterface
  cases hcontains : d.interfaces.contains name with
  | true => simp
  | false =>
    cases hpc : d.isA .pc with
    | true => simp
    | false =>
      simp only [Bool.false_eq_true, if_false, true_and]
      cases hs : InterfaceName.split name with
      | error g =>
        unfold InterfaceName.kind
        rw [hs]
        simp
      | ok p =>
        rw [InterfaceName.kind_eq_of_split hs, ok_bind]
        constructor
        · intro h
          cases hk : InterfaceName.kindOf name with
          | subinterface =>
            simp only [hk, (InterfaceName.split_meets name).value hs, InterfaceName.kind_parentOf, ok_bind] at h
            split at h <;> cases h
          | _ =>
            rw [hk] at h
            cases h
        · intro h
          cases h

/-! ## All kinds -/

/-- Looking at a word fails exactly if a numeral in it has too many digits. -/
theorem read_fault_iff {kind : ArgKind} {device : Option Device} {raw : String} :
    read kind low high device raw = .error (.fault f) ↔ Overlong kind device raw ∧ f = .badNumber := by
  have none_fails {x : Except ArgumentFault ArgValue} (hx : x ≠ .error (.fault f)) :
      x = .error (.fault f) ↔ False ∧ f = .badNumber :=
    ⟨fun h => absurd h hx, fun h => h.1.elim⟩
  unfold read
  cases kind with
  | word => exact none_fails fun h => by cases h
  | line => exact none_fails fun h => by cases h
  | int => exact map_eq_error.trans readInt_fault_iff
  | ipv4 => exact none_fails fun h => accept_ne_fault _ (map_eq_error.1 h)
  | wildcard => exact none_fails fun h => accept_ne_fault _ (map_eq_error.1 h)
  | mask => exact none_fails fun h => readMask_ne_fault _ (map_eq_error.1 h)
  | mac => exact none_fails fun h => readStation_ne_fault _ (map_eq_error.1 h)
  | nextHop => exact none_fails (readNextHop_ne_fault device raw)
  | vlanList =>
    refine map_eq_error.trans ((foldlM_eq_error _ _).trans ?_)
    constructor
    · rintro ⟨before, part, after, heq, hok, hpart⟩
      obtain ⟨hlong, hf⟩ := readVlanPart_fault_iff.1 hpart
      exact ⟨⟨before, part, after, heq, hok, hlong⟩, hf⟩
    · rintro ⟨⟨before, part, after, heq, hok, hlong⟩, hf⟩
      exact ⟨before, part, after, heq, hok, readVlanPart_fault_iff.2 ⟨hlong, hf⟩⟩
  | interface =>
    refine map_eq_error.trans ?_
    unfold readInterface
    rw [bind_eq_error]
    constructor
    · rintro (h | ⟨name, hname, h⟩)
      · exact absurd h (accept_ne_fault _)
      · have hnorm := accept_eq_ok.1 hname
        cases device with
        | none => cases h
        | some d =>
          have hpossible : isPossibleInterface d name = .error f := by
            rcases bind_eq_error.1 h with h | ⟨b, -, h⟩
            · exact lift_eq_fault.1 h
            · split at h <;> cases h
          obtain ⟨hnew, hpc, hsplit⟩ := isPossibleInterface_fault_iff.1 hpossible
          obtain ⟨⟨digits, hdigits, hlong⟩, hf⟩ := split_fault_iff.1 hsplit
          exact ⟨⟨name, d, digits, hnorm, rfl, hnew, hpc, hdigits, hlong⟩, hf⟩
    · rintro ⟨⟨name, d, digits, hnorm, rfl, hnew, hpc, hdigits, hlong⟩, rfl⟩
      have hpossible := isPossibleInterface_fault_iff.2
        ⟨hnew, hpc, split_fault_iff.2 ⟨⟨digits, hdigits, hlong⟩, rfl⟩⟩
      refine Or.inr ⟨name, accept_eq_ok.2 hnorm, ?_⟩
      simp only [hpossible, lift, error_bind]

end NetRack.Argument
