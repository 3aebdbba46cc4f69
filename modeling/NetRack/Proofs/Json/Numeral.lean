import Mathlib.Data.List.DropRight
import Mathlib.Data.List.Induction
import NetRack.Json.Lenient
import NetRack.Json.Parser
import NetRack.Proofs.Address

/-!
# Printed whole numbers

A whole number has at most as many digits as a numeral may have exactly if it is brief.  A brief
number that is printed is read back, where it stands among other symbols and where it is the text of a
key.  What is read as a whole number from a text is brief.
-/

namespace NetRack

/-! ## Digits of natural numbers -/

namespace Text

variable {k : Nat} {c : Char}

theorem isPlainDigit_of_isDigit (h : c.isDigit = true) : isPlainDigit c = true := by
  simpa [isPlainDigit, Char.isDigit, Char.le_def] using h

theorem isPlainDigit_of_mem_toDigits (h : c ∈ Nat.toDigits 10 k) : isPlainDigit c = true :=
  isPlainDigit_of_isDigit (isDigit_of_mem_toDigits h)

/-- A number other than zero is written without a zero in front. -/
theorem head?_toDigits (h : 0 < k) : (Nat.toDigits 10 k).head? ≠ some '0' := by
  induction k using Nat.strongRecOn with
  | ind k ih =>
    rw [Nat.toDigits_eq_if (by omega)]
    split
    · have digits : ∀ d : Fin 10, 0 < d.val → d.val.digitChar ≠ '0' := by decide
      simpa using digits ⟨k, ‹_›⟩ h
    · have front := ih (k / 10) (by omega) (by omega)
      rwa [List.head?_append, List.head?_eq_some_head Nat.toDigits_ne_nil, Option.some_or,
        ← List.head?_eq_some_head Nat.toDigits_ne_nil]

theorem readDigits?_toDigits (h : k < numeralBound) : readDigits? (Nat.toDigits 10 k) = some k := by
  rw [numeralBound, Nat.pow_eq] at h
  have short : (Nat.toDigits 10 k).length ≤ numeralLimit :=
    (Nat.length_toDigits_le_iff (by omega) (by unfold numeralLimit; omega)).2 h
  rw [readDigits?, if_pos short, digitsValue_eq fun c hc => isDigit_of_mem_toDigits hc,
    Nat.ofDigitChars_ten_toDigits]

/-! ## What few digits spell -/

theorem digitValue?_lt {d : Nat} (h : digitValue? c = some d) : d < 10 := by
  unfold digitValue? at h
  obtain ⟨start, found, rfl⟩ := Option.map_eq_some_iff.1 h
  have := List.find?_some found
  simp only [Bool.and_eq_true, decide_eq_true_eq] at this
  omega

theorem ofDigits_lt {digits : List Nat} (h : ∀ d ∈ digits, d < 10) :
    ofDigits digits < Nat.pow 10 digits.length := by
  induction digits using List.reverseRecOn with
  | nil => decide
  | append_singleton digits d ih =>
    have low : ofDigits digits < Nat.pow 10 digits.length := ih fun e he => h e (by simp [he])
    have last : d < 10 := h d (by simp)
    have step : ofDigits (digits ++ [d]) = 10 * ofDigits digits + d := by
      simp [ofDigits]
    rw [step, List.length_append, List.length_singleton]
    show _ < Nat.pow 10 digits.length * 10
    omega

/-- As many digits as a numeral may have spell a brief number. -/
theorem readDigits?_brief {cs : List Char} {n : Nat} (h : readDigits? cs = some n) :
    n < numeralBound := by
  unfold readDigits? at h
  split at h
  · rename_i short
    cases h
    have few : (cs.filterMap digitValue?).length ≤ numeralLimit :=
      Nat.le_trans (List.length_filterMap_le _ _) short
    have small : ∀ d ∈ cs.filterMap digitValue?, d < 10 := by
      intro d hd
      obtain ⟨c, -, hc⟩ := List.mem_filterMap.1 hd
      exact digitValue?_lt hc
    exact Nat.lt_of_lt_of_le (ofDigits_lt small) (Nat.pow_le_pow_right (by omega) few)
  · cases h

theorem lt_numeralBound (h : k < 1000000000) : k < numeralBound := by
  have limit : 9 ≤ numeralLimit := by decide
  unfold numeralBound
  generalize numeralLimit = m at limit ⊢
  calc k < Nat.pow 10 9 := h
    _ ≤ Nat.pow 10 m := Nat.pow_le_pow_right (by omega) limit

theorem isBrief_natCast : isBrief (k : Int) = true ↔ k < numeralBound := by
  simp [isBrief]

theorem isBrief_neg (n : Int) : isBrief (-n) = isBrief n := by
  simp [isBrief]

/-! ## In front -/

theorem toDigits_front (k : Nat) : ∃ c cs, Nat.toDigits 10 k = c :: cs ∧ c.isDigit = true := by
  obtain ⟨c, cs, digits⟩ := List.exists_cons_of_ne_nil (Nat.toDigits_ne_nil (n := k) (b := 10))
  exact ⟨c, cs, digits, isDigit_of_mem_toDigits (k := k) (by simp [digits])⟩

/-- A whole number is written with a digit or a minus in front. -/
theorem intText_front (n : Int) : ∃ c cs, (intText n).toList = c :: cs ∧ (c.isDigit = true ∨ c = '-') := by
  cases n using sign_cases with
  | natural k =>
    obtain ⟨c, cs, digits, hc⟩ := toDigits_front k
    exact ⟨c, cs, toList_intText_natCast.trans digits, .inl hc⟩
  | negative k hk => exact ⟨'-', _, toList_intText_neg hk, .inr rfl⟩

end Text

namespace Json

open Text

variable {k : Nat} {rest : List Char}

/-! ## Among other symbols -/

/-- Whether a numeral that stands in front of the text ends there. -/
def Stops (rest : List Char) : Prop :=
  ∀ c ∈ rest.head?, isPlainDigit c = false ∧ c ≠ '.' ∧ c ≠ 'e' ∧ c ≠ 'E'

theorem readFraction_of_stops (h : Stops rest) : readFraction rest = ([], rest) := by
  unfold readFraction
  split
  · exact absurd rfl (h '.' rfl).2.1
  · rfl

theorem readExponent_of_stops (h : Stops rest) : readExponent rest = (none, rest) := by
  cases rest with
  | nil => rfl
  | cons c rest =>
    obtain ⟨-, -, small, large⟩ := h c rfl
    simp [readExponent, small, large]

theorem wholeDigits_toDigits (h : Stops rest) :
    wholeDigits (Nat.toDigits 10 k ++ rest) = Nat.toDigits 10 k := by
  rcases Nat.eq_zero_or_pos k with rfl | hk
  · rfl
  · unfold wholeDigits
    split
    · rename_i front
      have := congrArg List.head? front
      rw [List.head?_append, List.head?_eq_some_head Nat.toDigits_ne_nil, Option.some_or,
        ← List.head?_eq_some_head Nat.toDigits_ne_nil] at this
      exact absurd this (head?_toDigits hk)
    · rw [List.takeWhile_append_of_pos fun c hc => isPlainDigit_of_mem_toDigits hc]
      cases rest with
      | nil => simp
      | cons c rest => simp [(h c rfl).1]

theorem readNumber_toDigits (brief : k < numeralBound) (h : Stops rest) (negative : Bool) :
    readNumber negative (Nat.toDigits 10 k ++ rest) =
      .ok (.int (if negative then -(k : Int) else k), rest) := by
  simp [readNumber, wholeDigits_toDigits h, readFraction_of_stops h, readExponent_of_stops h,
    Nat.toDigits_ne_nil, readDigits?_toDigits brief]

theorem readAtom_of_isDigit {c : Char} {cs : List Char} (h : c.isDigit = true) :
    readAtom (c :: cs) = readNumber false (c :: cs) := by
  unfold readAtom
  split
  case h_8 => rfl
  all_goals
    rename_i front
    cases front
    exact absurd h (by decide)

theorem readAtom_minus {c : Char} {cs : List Char} (h : c.isDigit = true) :
    readAtom ('-' :: c :: cs) = readNumber true (c :: cs) := by
  unfold readAtom
  split
  case h_6 _ front =>
    cases front
    exact absurd h (by decide)
  case h_7 _ front =>
    cases front
    rfl
  all_goals simp_all

/-- A brief number in front of other symbols is read back. -/
theorem readAtom_intText {n : Int} (brief : Text.isBrief n = true) (h : Stops rest) :
    readAtom ((intText n).toList ++ rest) = .ok (.int n, rest) := by
  cases n using sign_cases with
  | natural k =>
    have number := readNumber_toDigits (isBrief_natCast.1 brief) h false
    obtain ⟨c, cs, digits, hc⟩ := toDigits_front k
    rw [digits] at number
    rw [toList_intText_natCast, digits, List.cons_append, readAtom_of_isDigit hc]
    exact number
  | negative k hk =>
    have number := readNumber_toDigits (isBrief_natCast.1 (isBrief_neg k ▸ brief)) h true
    obtain ⟨c, cs, digits, hc⟩ := toDigits_front k
    rw [digits] at number
    rw [toList_intText_neg hk, digits, List.cons_append, List.cons_append, readAtom_minus hc]
    exact number

/-! ## In keys -/

theorem stripLeadingZeros_toDigits : stripLeadingZeros (Nat.toDigits 10 k) = some (Nat.toDigits 10 k) := by
  rcases Nat.eq_zero_or_pos k with rfl | hk
  · rfl
  · obtain ⟨c, cs, digits, hc⟩ := toDigits_front k
    have starts : startsNumeral c = true := by
      rw [startsNumeral, isPlainDigit_of_isDigit hc, Bool.or_true]
    have zero : c ≠ '0' := fun hc => head?_toDigits hk (by rw [digits, hc]; rfl)
    rw [digits]
    unfold stripLeadingZeros
    split
    · rename_i front
      exact absurd (List.cons.inj front).1 zero
    · rename_i front
      cases front
      rw [if_pos starts]
    · rename_i front
      cases front

theorem stripZeroFraction_eq_self {cs : List Char} (h : '.' ∉ cs) : stripZeroFraction cs = cs := by
  have whole : cs.dropWhile (· ≠ '.') = [] := by
    rw [List.dropWhile_eq_nil_iff]
    exact fun c hc => decide_eq_true fun point => h (point ▸ hc)
  simp only [stripZeroFraction, whole, List.drop_nil]

theorem hasDoubleLine_eq_false {cs : List Char} (h : '_' ∉ cs) : hasDoubleLine cs = false := by
  induction cs using hasDoubleLine.induct with
  | case1 rest => exact absurd List.mem_cons_self h
  | case2 c rest _ ih =>
    rw [hasDoubleLine]
    · exact ih fun hr => h (List.mem_cons_of_mem _ hr)
    · assumption
  | case3 => rfl

theorem stripLines_eq_self {cs : List Char} (h : '_' ∉ cs) : stripLines cs = some cs := by
  have ends : cs.head? ≠ some '_' ∧ cs.getLast? ≠ some '_' :=
    ⟨fun first => h (List.mem_of_head? first), fun last => h (List.mem_of_getLast? last)⟩
  have kept : cs.filter (· ≠ '_') = cs :=
    List.filter_eq_self.2 fun c hc => decide_eq_true fun line => h (line ▸ hc)
  unfold stripLines
  rw [if_neg (by simp [hasDoubleLine_eq_false h, ends]), kept]

theorem readPlain?_toDigits (brief : k < numeralBound) : readPlain? (Nat.toDigits 10 k) = some k := by
  have digits : arePlainDigits (Nat.toDigits 10 k) = true := by
    rw [arePlainDigits, Bool.and_eq_true, List.all_eq_true]
    exact ⟨by simp [Nat.toDigits_ne_nil], fun c hc => isPlainDigit_of_mem_toDigits hc⟩
  have short : (Nat.toDigits 10 k).length = 1 ∨ (Nat.toDigits 10 k).head? ≠ some '0' := by
    rcases Nat.eq_zero_or_pos k with rfl | hk
    · exact .inl rfl
    · exact .inr (head?_toDigits hk)
  rw [readPlain?, if_pos (by simpa [digits] using short), readDigits?_toDigits brief]

/-- What stands in digits is neither a margin nor a mark. -/
theorem plain_of_mem_toDigits {c : Char} (h : c ∈ Nat.toDigits 10 k) :
    isMargin c = false ∧ c ≠ '-' ∧ c ≠ '+' ∧ c ≠ '_' ∧ c ≠ '.' := by
  obtain ⟨-, margin, minus, plus, line⟩ := plain_of_isDigit (isDigit_of_mem_toDigits h)
  refine ⟨margin, minus, plus, line, ?_⟩
  rintro rfl
  exact absurd (isDigit_of_mem_toDigits h) (by decide)

theorem stripFront_toDigits : stripFront (Nat.toDigits 10 k) = some (Nat.toDigits 10 k) := by
  have front {c : Char} {cs : List Char} (digits : Nat.toDigits 10 k = c :: cs) : c ∈ Nat.toDigits 10 k := by
    simp [digits]
  unfold stripFront
  split
  · rename_i digits
    exact absurd rfl (plain_of_mem_toDigits (front digits)).2.1
  · rename_i digits
    exact absurd rfl (plain_of_mem_toDigits (front digits)).2.2.1
  · rename_i digits
    exact absurd rfl (plain_of_mem_toDigits (front digits)).2.2.1
  · exact stripLeadingZeros_toDigits

theorem readSigned?_toDigits (brief : k < numeralBound) : readSigned? (Nat.toDigits 10 k) = some (k : Int) := by
  unfold readSigned?
  split
  · rename_i digits
    exact absurd rfl (plain_of_mem_toDigits (k := k) (c := '-') (by simp [digits])).2.1
  · rw [readPlain?_toDigits brief]
    rfl

/-- A numeral of digits with at most a sign in front is read as it is. -/
theorem integerOfText?_eq {s : String} (plain : ∀ c ∈ s.toList, isMargin c = false ∧ c ≠ '_' ∧ c ≠ '.')
    (front : stripFront s.toList = some s.toList) : integerOfText? s = readSigned? s.toList := by
  have line : '_' ∉ s.toList := fun h => (plain _ h).2.1 rfl
  have point : '.' ∉ s.toList := fun h => (plain _ h).2.2 rfl
  rw [integerOfText?, trimMargins_eq_self fun c hc => (plain c hc).1, front]
  show (stripLines (stripZeroFraction s.toList)).bind readSigned? = _
  rw [stripZeroFraction_eq_self point, stripLines_eq_self line, Option.bind_some]

/-- A brief number is read back from its text. -/
theorem integerOfText?_intText {n : Int} (brief : Text.isBrief n = true) :
    integerOfText? (intText n) = some n := by
  have plain (k : Nat) : ∀ c ∈ Nat.toDigits 10 k, isMargin c = false ∧ c ≠ '_' ∧ c ≠ '.' := fun c hc =>
    have apart := plain_of_mem_toDigits hc
    ⟨apart.1, apart.2.2.2⟩
  cases n using sign_cases with
  | natural k =>
    have text : (intText (k : Int)).toList = Nat.toDigits 10 k := toList_intText_natCast
    rw [integerOfText?_eq (text ▸ plain k) (text ▸ stripFront_toDigits), text]
    exact readSigned?_toDigits (isBrief_natCast.1 brief)
  | negative k hk =>
    have text : (intText (-(k : Int))).toList = '-' :: Nat.toDigits 10 k := toList_intText_neg hk
    have signed : ∀ c ∈ '-' :: Nat.toDigits 10 k, isMargin c = false ∧ c ≠ '_' ∧ c ≠ '.' :=
      List.forall_mem_cons.2 ⟨by decide, plain k⟩
    have front : stripFront ('-' :: Nat.toDigits 10 k) = some ('-' :: Nat.toDigits 10 k) := by
      rw [stripFront, stripLeadingZeros_toDigits]
      rfl
    rw [integerOfText?_eq (text ▸ signed) (text ▸ front), text, readSigned?,
      readPlain?_toDigits (isBrief_natCast.1 (isBrief_neg k ▸ brief))]
    rfl

/-- Only brief numbers are read from texts. -/
theorem isBrief_of_integerOfText? {s : String} {n : Int} (h : integerOfText? s = some n) :
    Text.isBrief n = true := by
  have plain {cs : List Char} {k : Nat} (hk : readPlain? cs = some k) : Text.isBrief (k : Int) = true := by
    unfold readPlain? at hk
    split at hk
    · exact isBrief_natCast.2 (readDigits?_brief hk)
    · cases hk
  unfold integerOfText? at h
  obtain ⟨numeral, -, h⟩ := Option.bind_eq_some_iff.1 h
  obtain ⟨digits, -, h⟩ := Option.bind_eq_some_iff.1 h
  unfold readSigned? at h
  split at h
  · rename_i body
    cases read : readPlain? body with
    | none => simp [read] at h
    | some k =>
      cases (by simpa [read] using h : -(k : Int) = n)
      rw [isBrief_neg]
      exact plain read
  · cases read : readPlain? digits with
    | none => simp [read] at h
    | some k =>
      cases (by simpa [read] using h : (k : Int) = n)
      exact plain read

end Json

end NetRack
