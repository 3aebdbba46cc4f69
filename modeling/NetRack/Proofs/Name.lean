import NetRack.InterfaceName
import NetRack.Proofs.Result
import Mathlib.Data.List.TakeWhile

/-!
# Names that can be read

The name of an interface is readable if its numbers can be read: those it is sorted by, the number of
a subinterface, and the VLAN or group that a virtual interface is named after.  What is said here
about the kind, the parent and the number of a readable name needs no case for a fault.
-/

namespace NetRack.InterfaceName

/-- What an interface is, by its name, whatever its numbers. -/
def kindOf (name : String) : PortKind :=
  if (splitDigits name).2.isSome then .subinterface else plainKind name

/-- The name before the number of a subinterface; the name itself if there is none. -/
def parentOf (name : String) : String := (splitDigits name).1

/-- The number of a subinterface. -/
def subOf (name : String) : Option Nat := (splitDigits name).2.map Text.digitsValue

/-- The VLAN that a name is of, if it is readable. -/
def vlanNumber (name : String) : Int := (vlanOf name).toOption.getD 0

/-- The channel group that a name is of, if it is readable. -/
def groupNumber (name : String) : Int := (groupOf name).toOption.getD 0

/-- Whether every number in a name that something depends on can be read. -/
def isReadable (name : String) : Bool :=
  isSortable name &&
    match kind name with
    | .ok .svi => (vlanOf name).isOk
    | .ok .portChannel => (groupOf name).isOk
    | .ok _ => true
    | .error _ => false

theorem split_meets (name : String) :
    Meets (· = .badNumber) (fun p => p = (parentOf name, subOf name)) (split name) := by
  unfold split parentOf subOf
  cases h : splitDigits name with
  | mk parent digits? =>
    cases digits? with
    | none => rfl
    | some digits =>
      simp only [Text.readDigits?]
      split
      · rfl
      · rfl

theorem kind_meets (name : String) : Meets (· = .badNumber) (fun k => k = kindOf name) (kind name) := by
  unfold kind
  refine (split_meets name).bind fun p hp => ?_
  subst hp
  unfold kindOf subOf
  cases (splitDigits name).2 <;> rfl

theorem numberAfter_meets (length : Nat) (name : String) :
    Meets (· = .badNumber) (fun _ => True) (numberAfter length name) := by
  unfold numberAfter needNumber
  split <;> trivial

theorem kind_eq_of_split {name : String} {p : String × Option Nat} (h : split name = .ok p) :
    kind name = .ok (kindOf name) := by
  have hp := (split_meets name).value h
  subst hp
  unfold kind
  rw [h, ok_bind]
  unfold kindOf subOf
  cases (splitDigits name).2 <;> rfl

theorem split_eq_of_kind {name : String} {k : PortKind} (h : kind name = .ok k) :
    split name = .ok (parentOf name, subOf name) := by
  unfold kind at h
  obtain ⟨p, hp, -⟩ := bind_eq_ok.1 h
  rw [hp, (split_meets name).value hp]

theorem kindOf_eq {name : String} {k : PortKind} (h : kind name = .ok k) : kindOf name = k :=
  ((kind_meets name).value h).symm

theorem splitDigits_cases (name : String) :
    splitDigits name = (name, none) ∨
      ∃ digits, splitDigits name = (String.ofList (name.toList.takeWhile (· ≠ '.')), some digits) := by
  unfold splitDigits
  dsimp only
  split
  · split
    · exact Or.inr ⟨_, rfl⟩
    · exact Or.inl rfl
  · exact Or.inl rfl

theorem plainKind_ne (name : String) : plainKind name ≠ .subinterface := by
  unfold plainKind
  repeat' split
  all_goals decide

/-- A name has the number of a subinterface exactly if it is that of one. -/
theorem kindOf_cases (name : String) :
    (kindOf name ≠ .subinterface ∧ splitDigits name = (name, none)) ∨
      (kindOf name = .subinterface ∧ ∃ digits,
        splitDigits name = (String.ofList (name.toList.takeWhile (· ≠ '.')), some digits)) := by
  unfold kindOf
  rcases splitDigits_cases name with h | ⟨digits, h⟩
  · rw [h]
    exact Or.inl ⟨plainKind_ne name, rfl⟩
  · rw [h]
    exact Or.inr ⟨rfl, digits, rfl⟩

theorem subOf_isSome (name : String) : (subOf name).isSome = decide (kindOf name = .subinterface) := by
  unfold subOf
  rcases kindOf_cases name with ⟨hk, h⟩ | ⟨hk, digits, h⟩
  · simp [h, hk]
  · simp [h, hk]

/-- What is no subinterface is its own parent. -/
theorem parentOf_eq_self {name : String} (h : kindOf name ≠ .subinterface) : parentOf name = name := by
  unfold parentOf
  rcases kindOf_cases name with ⟨-, hs⟩ | ⟨hk, -⟩
  · rw [hs]
  · exact absurd hk h

/-- The parent of a subinterface is no subinterface itself. -/
theorem splitDigits_parentOf (name : String) : splitDigits (parentOf name) = (parentOf name, none) := by
  rcases kindOf_cases name with ⟨hk, h⟩ | ⟨hk, digits, h⟩
  · rw [parentOf_eq_self hk, h]
  · have cut : parentOf name = String.ofList (name.toList.takeWhile (· ≠ '.')) := by
      unfold parentOf
      rw [h]
    have none_left : (parentOf name).toList.dropWhile (· ≠ '.') = [] := by
      rw [cut, String.toList_ofList, List.dropWhile_eq_nil_iff]
      exact fun c hc => List.mem_takeWhile_imp (p := (· ≠ '.')) hc
    simp only [splitDigits, none_left]

theorem kind_parentOf (name : String) : kind (parentOf name) = .ok (kindOf (parentOf name)) := by
  refine kind_eq_of_split (p := (parentOf name, none)) ?_
  unfold split
  rw [splitDigits_parentOf]

section Readable

variable {name : String} (h : isReadable name = true)

include h

theorem sortable_of_readable : isSortable name = true := by
  unfold isReadable at h
  exact (Bool.and_eq_true_iff.1 h).1

theorem kind_of_readable : kind name = .ok (kindOf name) := by
  cases hk : kind name with
  | ok k => rw [kindOf_eq hk]
  | error f =>
    unfold isReadable at h
    rw [hk] at h
    simp at h

theorem split_of_readable : split name = .ok (parentOf name, subOf name) :=
  split_eq_of_kind (kind_of_readable h)

theorem vlanOf_of_readable (hk : kindOf name = .svi) : vlanOf name = .ok (vlanNumber name) := by
  have hread := kind_of_readable h
  rw [hk] at hread
  unfold isReadable at h
  rw [hread] at h
  unfold vlanNumber
  cases hv : vlanOf name with
  | ok v => rfl
  | error f => rw [hv] at h; simp [Except.isOk, Except.toBool] at h

theorem groupOf_of_readable (hk : kindOf name = .portChannel) : groupOf name = .ok (groupNumber name) := by
  have hread := kind_of_readable h
  rw [hk] at hread
  unfold isReadable at h
  rw [hread] at h
  unfold groupNumber
  cases hg : groupOf name with
  | ok g => rfl
  | error f => rw [hg] at h; simp [Except.isOk, Except.toBool] at h

end Readable

/-- The interface of every channel group that can be configured is readable as that of the group. -/
theorem ofGroup_readable {group : Int} (low : 1 ≤ group) (high : group ≤ 64) :
    isReadable (ofGroup group) = true ∧ kindOf (ofGroup group) = .portChannel := by
  have all : ∀ g : Fin 65, isReadable (ofGroup g.val) = true ∧ kindOf (ofGroup g.val) = .portChannel := by
    decide +kernel
  obtain ⟨n, rfl⟩ := Int.eq_ofNat_of_zero_le (by omega : 0 ≤ group)
  exact all ⟨n, by omega⟩

end NetRack.InterfaceName
