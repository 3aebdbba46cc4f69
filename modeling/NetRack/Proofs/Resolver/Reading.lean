import NetRack.Proofs.Result
import NetRack.Resolver.Argument

/-!
# What words are read as

A word that is accepted as an argument is read as a value of the kind that is asked for.  Here is what that says
of the word and of the value: which words are numbers, masks, names of interfaces and next hops, and which kinds
give which values.
-/

namespace NetRack.Argument

variable {kind : ArgKind} {low high : Option Int} {device : Option Device} {raw : String} {cs : List Char} {n : Int}

/-! ## Numbers -/

theorem readInt_of_digits (h : Text.arePlainDigits cs = true) : readInt low high cs =
    match Text.readDigits? cs with
    | some n => if withinBounds low high n then .ok (n : Int) else .error .refused
    | none => .error (.fault .badNumber) := by
  unfold readInt
  rw [if_pos h]
  cases Text.readDigits? cs <;> rfl

/-- A number is read from digits, and is within bounds. -/
theorem readInt_eq_ok_iff : readInt low high cs = .ok n ↔ Text.arePlainDigits cs = true ∧
    ∃ k : Nat, Text.readDigits? cs = some k ∧ withinBounds low high k = true ∧ n = k := by
  by_cases digits : Text.arePlainDigits cs = true
  · rw [readInt_of_digits digits]
    cases Text.readDigits? cs with
    | none => simp
    | some k =>
      dsimp only
      split
      · rename_i within
        constructor
        · intro h
          cases h
          exact ⟨digits, k, rfl, within, rfl⟩
        · rintro ⟨-, _, same, -, rfl⟩
          cases same
          rfl
      · rename_i without
        constructor
        · intro h
          cases h
        · rintro ⟨-, _, same, within, -⟩
          cases same
          exact absurd within without
  · unfold readInt
    simp [digits]

/-- A number that has bounds is between them. -/
theorem readInt_bounded {least most : Int} (h : readInt (some least) (some most) cs = .ok n) :
    least ≤ n ∧ n ≤ most := by
  obtain ⟨-, k, -, within, rfl⟩ := readInt_eq_ok_iff.1 h
  simpa [withinBounds] using within

/-! ## Masks and interfaces -/

theorem accept_eq_ok {α : Type} {x : Option α} {a : α} : accept x = .ok a ↔ x = some a := by
  cases x <;> simp [accept]

theorem lift_eq_ok {α : Type} {x : Except Fault α} {a : α} : lift x = .ok a ↔ x = .ok a := by
  cases x <;> simp [lift]

/-- A mask is an address that is one. -/
theorem readMask_eq_ok {a : Address} : readMask raw = .ok a ↔ readAddress raw = .ok a ∧ a.isNetmask = true := by
  unfold readMask
  rw [bind_eq_ok]
  constructor
  · rintro ⟨b, hb, checked⟩
    split at checked
    · rename_i mask
      cases checked
      exact ⟨hb, mask⟩
    · cases checked
  · rintro ⟨ha, mask⟩
    exact ⟨a, ha, if_pos mask⟩

/-- The name of an interface is the full one, of an interface that the device may have. -/
theorem readInterface_eq_ok {name : String} : readInterface device raw = .ok name ↔
    InterfaceName.normalize? raw = some name ∧ ∀ d, device = some d → isPossibleInterface d name = .ok true := by
  unfold readInterface
  rw [bind_eq_ok]
  cases device with
  | none =>
    constructor
    · rintro ⟨full, accepted, same⟩
      cases same
      exact ⟨accept_eq_ok.1 accepted, fun d none => by cases none⟩
    · rintro ⟨normal, -⟩
      exact ⟨name, accept_eq_ok.2 normal, rfl⟩
  | some d =>
    constructor
    · rintro ⟨full, accepted, checked⟩
      obtain ⟨possible, known, given⟩ := bind_eq_ok.1 checked
      split at given
      · rename_i may
        cases given
        rw [may] at known
        refine ⟨accept_eq_ok.1 accepted, fun d' same => ?_⟩
        cases same
        exact lift_eq_ok.1 known
      · cases given
    · rintro ⟨normal, possible⟩
      exact ⟨name, accept_eq_ok.2 normal, bind_eq_ok.2 ⟨true, lift_eq_ok.2 (possible d rfl), rfl⟩⟩

/-! ## Next hops -/

/-- A next hop is an address or the name of an interface that the device has. -/
theorem readNextHop_eq_ok {v : ArgValue} (h : readNextHop device raw = .ok v) : (∃ a, v = .address a) ∨
    ∃ name, v = .text name ∧ InterfaceName.normalize? raw = some name ∧
      device.all (fun d => d.interfaces.contains name) = true := by
  unfold readNextHop at h
  split at h
  · rename_i a _
    cases h
    exact Or.inl ⟨a, rfl⟩
  · obtain ⟨name, accepted, checked⟩ := bind_eq_ok.1 h
    split at checked
    · rename_i known
      cases checked
      exact Or.inr ⟨name, rfl, accept_eq_ok.1 accepted, known⟩
    · cases checked

/-! ## Kinds of values -/

/-- Only lists of VLANs are read as such. -/
theorem read_eq_vlans {ids : List Int} (h : read kind low high device raw = .ok (.vlans ids)) :
    kind = .vlanList ∧ ∃ set, readVlanSet raw = .ok set ∧ set.ids = ids := by
  unfold read at h
  cases kind with
  | vlanList =>
    obtain ⟨set, hset, same⟩ := map_eq_ok.1 h
    cases same
    exact ⟨rfl, set, hset, rfl⟩
  | word | line => cases h
  | int | ipv4 | wildcard | mask | mac | interface =>
    obtain ⟨_, -, value⟩ := map_eq_ok.1 h
    cases value
  | nextHop => rcases readNextHop_eq_ok h with ⟨a, value⟩ | ⟨name, value, -⟩ <;> cases value

end NetRack.Argument
