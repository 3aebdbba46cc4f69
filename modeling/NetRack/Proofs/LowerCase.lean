import NetRack.Proofs.Address
import NetRack.Text.Case

/-!
# Words in lower case

The lower case of a word begins with the image of its first character.  Blanks, digits and marks are their own
images and digits are the image of nothing else, so the lower case of a word tells whether the word has blanks
and whether it begins with a digit.
-/

namespace NetRack.Text

variable {c : Char} {before cs : List Char}

/-! ## One character -/

/-- The lower case of a character is the character itself, wherever it stands. -/
def IsLower (c : Char) : Prop := lowerChar c = [c] ∧ c.toNat ≠ 0x3A3

instance (c : Char) : Decidable (IsLower c) := inferInstanceAs (Decidable (_ ∧ _))

theorem isLower_of_isBlank (h : isBlank c = true) : IsLower c := by
  have all : ∀ span ∈ blankSpans, ∀ k ∈ List.range (span.2 - span.1 + 1), IsLower (Char.ofNat (span.1 + k)) := by
    decide
  obtain ⟨span, hspan, low, high⟩ := (inSpans_iff _ _).1 h
  have found := all span hspan (c.toNat - span.1) (List.mem_range.2 (by omega))
  rwa [Nat.add_sub_cancel' low, Char.ofNat_toNat] at found

theorem isLower_of_isPlainDigit (h : isPlainDigit c = true) : IsLower c := by
  have all : ∀ d : Fin 10, IsLower (Char.ofNat ('0'.toNat + d)) := by decide
  obtain ⟨d, rfl⟩ := exists_eq_of_isDigit h
  exact all d

/-- No character is moved to a digit. -/
theorem not_isPlainDigit_image {run : CaseRun} (hrun : run ∈ lowerRuns) {n : Nat} (covered : run.covers n = true) :
    isPlainDigit (run.image n) = false := by
  have all : ∀ run ∈ lowerRuns, 0x3A ≤ run.first + run.shift := by decide +kernel
  have beyond := all run hrun
  have low : run.first ≤ n := by
    unfold CaseRun.covers at covered
    simp only [Bool.and_eq_true, decide_eq_true_eq] at covered
    exact covered.1.1
  rw [← Bool.not_eq_true]
  intro digit
  have digits : ∀ d : Fin 10, (Char.ofNat ('0'.toNat + d)).toNat = 0x30 + d := by decide
  obtain ⟨d, hd⟩ := exists_eq_of_isDigit digit
  have value := digits d
  rw [hd] at value
  -- A number that no character has stands for the first character.
  have kept (m : Nat) : (Char.ofNat m).toNat = m ∨ (Char.ofNat m).toNat = 0 := by
    unfold Char.ofNat
    by_cases valid : m.isValidChar
    · rw [dif_pos valid]
      exact Or.inl rfl
    · rw [dif_neg valid]
      exact Or.inr rfl
  rcases kept (Int.toNat (n + run.shift)) with same | zero <;> unfold CaseRun.image at value <;> omega

/-- Where the image of a character begins. -/
theorem lowerChar_eq_cons (c : Char) : ∃ x rest, lowerChar c = x :: rest ∧ (isPlainDigit x = true → x = c) := by
  unfold lowerChar
  split
  · rename_i plain
    refine ⟨c.toLower, [], rfl, fun digit => ?_⟩
    have all : ∀ n ∈ List.range 128, isPlainDigit (Char.ofNat n).toLower = true →
        (Char.ofNat n).toLower = Char.ofNat n := by decide +kernel
    have found := all c.toNat (List.mem_range.2 plain)
    rw [Char.ofNat_toNat] at found
    exact found digit
  · unfold mapCase
    split
    · rename_i e he
      have all : ∀ e ∈ lowerExpansions, ∃ x rest, e.2.map Char.ofNat = x :: rest ∧ isPlainDigit x = false := by
        intro e he
        rw [List.mem_singleton.1 he]
        exact ⟨_, _, rfl, by decide⟩
      obtain ⟨x, rest, heq, no_digit⟩ := all e (List.mem_of_find?_eq_some he)
      exact ⟨x, rest, heq, fun digit => absurd digit (by simp [no_digit])⟩
    · split
      · rename_i run hrun
        have moved := not_isPlainDigit_image (List.mem_of_find?_eq_some hrun) (n := c.toNat)
          (by simpa using List.find?_some hrun)
        exact ⟨_, [], rfl, fun digit => absurd digit (by simp [moved])⟩
      · exact ⟨c, [], rfl, fun _ => rfl⟩

/-! ## Words -/

theorem lower_toList (s : String) : (lower s).toList = lowerChars s.toList := String.toList_ofList

theorem mem_lowerAfter (lower : IsLower c) (hc : c ∈ cs) : c ∈ lowerAfter before cs := by
  induction cs generalizing before with
  | nil => cases hc
  | cons x cs ih =>
    unfold lowerAfter
    rcases List.mem_cons.1 hc with rfl | hc
    · have other : (c.toNat == 0x3A3) = false := by simpa using lower.2
      simp [other, lower.1]
    · exact List.mem_append_right _ (ih hc)

/-- A word in lower case is itself in lower case. -/
theorem lowerAfter_eq_self (lower : ∀ c ∈ cs, IsLower c) : lowerAfter before cs = cs := by
  induction cs generalizing before with
  | nil => rfl
  | cons x cs ih =>
    have hx := lower x (by simp)
    have other : (x.toNat == 0x3A3) = false := by simpa using hx.2
    unfold lowerAfter
    rw [ih fun c hc => lower c (by simp [hc])]
    simp [other, hx.1]

/-- The lower case of a word begins with a digit exactly if the word does, and then with the same digit. -/
theorem lowerChars_cons (c : Char) (cs : List Char) : ∃ x rest, lowerChars (c :: cs) = x :: rest ∧
    isPlainDigit x = isPlainDigit c := by
  unfold lowerChars lowerAfter
  obtain ⟨x, rest, image, digit⟩ := lowerChar_eq_cons c
  cases hc : isPlainDigit c with
  | true =>
    obtain ⟨same, other⟩ := isLower_of_isPlainDigit hc
    refine ⟨c, lowerAfter [c] cs, ?_, hc⟩
    simp [other, same]
  | false =>
    have no_digit : isPlainDigit x = false := by
      rw [← Bool.not_eq_true]
      intro hx
      rw [digit hx, hc] at hx
      cases hx
    split
    · exact ⟨'ς', _, rfl, by decide⟩
    · exact ⟨x, _, by rw [image]; rfl, no_digit⟩

end NetRack.Text
