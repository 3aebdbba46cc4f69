import NetRack.Proofs.Json.Numeral
import NetRack.Proofs.LowerCase
import NetRack.Proofs.Resolver.Words
import NetRack.Proofs.Spelling

/-!
# Written forms

The value of an argument is written in one way, and what is written is read back as the same value: numbers,
addresses, masks, stations and the names of interfaces.  But for free text and lists of VLANs, what is written
is one word, with a digit or a point in it, which no keyword of the same place has.
-/

namespace NetRack

/-! ## Marks -/

namespace Text

/-- Digits and points. -/
def isMark (c : Char) : Bool := isPlainDigit c || c == '.'

theorem isMark_of_isDigit {c : Char} (h : c.isDigit = true) : isMark c = true := by
  unfold isMark
  rw [show isPlainDigit c = true from h]
  rfl

theorem isLower_of_isMark {c : Char} (h : isMark c = true) : IsLower c := by
  rcases Bool.or_eq_true_iff.1 h with digit | point
  · exact isLower_of_isPlainDigit digit
  · rw [eq_of_beq point]
    decide

theorem not_isTypeChar_of_isMark {c : Char} (h : isMark c = true) : InterfaceName.isTypeChar c = false := by
  rcases Bool.or_eq_true_iff.1 h with digit | point
  · exact not_isTypeChar_of_isDigit digit
  · rw [eq_of_beq point]
    decide

theorem not_isBlank_of_isDigit {c : Char} (h : c.isDigit = true) : isBlank c = false := by
  have all : ∀ d : Fin 10, isBlank (Char.ofNat ('0'.toNat + d)) = false := by decide
  obtain ⟨d, rfl⟩ := exists_eq_of_isDigit h
  exact all d

/-- One word, with a digit or a point in it. -/
structure IsMarked (s : String) : Prop where
  unbroken : Unbroken s.toList
  mark : ∃ c ∈ s.toList, isMark c = true

theorem isMarked_of_digit {s : String} (blankless : ∀ c ∈ s.toList, isBlank c = false)
    (digit : ∃ c ∈ s.toList, c.isDigit = true) : IsMarked s := by
  obtain ⟨c, hc, digit⟩ := digit
  exact ⟨⟨List.ne_nil_of_mem hc, blankless⟩, c, hc, isMark_of_isDigit digit⟩

end Text

/-! ## Names of interfaces -/

namespace InterfaceName

open Text

theorem IsSpelled.isMarked {name : String} (h : IsSpelled name) : IsMarked name := by
  obtain ⟨s, valid, rfl⟩ := h
  have blankless : ∀ t ∈ types.map Prod.fst, ∀ c ∈ t.toList, isBlank c = false := by
    have all : ((types.map Prod.fst).all fun t => t.toList.all fun c => !isBlank c) = true := by decide
    intro t ht c hc
    simpa using List.all_eq_true.1 (List.all_eq_true.1 all t ht) c hc
  have chars := Spelling.toList_name s
  refine isMarked_of_digit (fun c hc => ?_) ?_
  · rw [chars] at hc
    rcases List.mem_append.1 hc with hc | hc
    · exact blankless s.type valid.type c hc
    · rcases Spelling.mem_number valid hc with digit | rfl | ⟨rfl, -⟩
      · exact not_isBlank_of_isDigit digit
      · decide
      · decide
  · obtain ⟨c, rest, hnumber, digit⟩ := Spelling.number_eq_cons valid
    exact ⟨c, by rw [chars, hnumber]; simp, digit⟩

/-- What the type of an interface, abbreviated or not, and a number stand for. -/
def joined? (word number : List Char) : Option String :=
  if (word.head?.any isPlainLetter) && isNumberFrom false number then
    match matchingTypes (lowerChars word) with
    | [t] => some (t ++ String.ofList number)
    | _ => none
  else none

/-- What a text stands for is told by the characters of a type that it begins with and by what follows them. -/
theorem normalize?_of_split {text : String} {word rest : List Char} (chars : trimChars text.toList = word ++ rest)
    (letters : ∀ c ∈ word, isTypeChar c = true) (ends : ∀ c ∈ rest.head?, isTypeChar c = false) :
    normalize? text = joined? word (rest.dropWhile isGap) := by
  have stop : rest.takeWhile isTypeChar = [] ∧ rest.dropWhile isTypeChar = rest := by
    cases rest with
    | nil => exact ⟨rfl, rfl⟩
    | cons c rest =>
      have other : ¬isTypeChar c = true := by simp [ends c rfl]
      exact ⟨List.takeWhile_cons_of_neg other, List.dropWhile_cons_of_neg other⟩
  show joined? ((trimChars text.toList).takeWhile isTypeChar)
    (((trimChars text.toList).dropWhile isTypeChar).dropWhile isGap) = _
  rw [chars, List.takeWhile_append_of_pos letters, List.dropWhile_append_of_pos letters, stop.1, stop.2,
    List.append_nil]

/-- The name that stands for what a user wrote stands for itself. -/
theorem normalize?_idem {raw name : String} (h : normalize? raw = some name) : normalize? name = some name := by
  have marked := (isSpelled_of_normalize? h).isMarked
  obtain ⟨t, known, number, rfl, isNumber⟩ := normalize?_eq_some h
  have alone : ∀ t ∈ types.map Prod.fst, matchingTypes (lowerChars t.toList) = [t] ∧
      t.toList.head?.any isPlainLetter = true := by decide
  have letters : ∀ c ∈ t.toList, isTypeChar c = true := fun c hc => (Spelling.types_letters t known c hc).1
  -- The number begins with a digit, which ends the type.
  obtain ⟨c, rest, rfl, digit⟩ : ∃ c rest, number = c :: rest ∧ c.isDigit = true := by
    cases number with
    | nil => cases isNumber
    | cons c rest =>
      rw [isNumberFrom] at isNumber
      split at isNumber
      · exact ⟨c, rest, rfl, ‹_›⟩
      · split at isNumber <;> cases isNumber
  have no_gap : isGap c = false := by
    have all : ∀ d : Fin 10, isGap (Char.ofNat ('0'.toNat + d)) = false := by decide
    obtain ⟨d, rfl⟩ := exists_eq_of_isDigit digit
    exact all d
  have chars : (t ++ String.ofList (c :: rest)).toList = t.toList ++ c :: rest := by simp
  have trimmed : trimChars (t ++ String.ofList (c :: rest)).toList = t.toList ++ c :: rest := by
    rw [trimChars_eq_self marked.unbroken.2, chars]
  rw [normalize?_of_split trimmed letters (by simpa using not_isTypeChar_of_isDigit digit),
    List.dropWhile_cons_of_neg (by simp [no_gap]), joined?, (alone t known).2, isNumber, (alone t known).1]
  rfl

end InterfaceName

namespace Address

theorem splitChars_front (mark : Char) (pending cs : List Char) :
    ∃ more pieces, splitChars mark pending cs = (pending.reverse ++ more) :: pieces := by
  induction cs generalizing pending with
  | nil => exact ⟨[], [], by simp [splitChars]⟩
  | cons c cs ih =>
    unfold splitChars
    split
    · exact ⟨[], _, by rw [List.append_nil]⟩
    · obtain ⟨more, pieces, heq⟩ := ih (c :: pending)
      exact ⟨c :: more, pieces, by rw [heq]; simp⟩

theorem arePlainDigits_of_readOctet? {cs : List Char} {n : Nat} (h : readOctet? cs = some n) :
    Text.arePlainDigits cs = true := by
  unfold readOctet? at h
  split at h
  · cases h
  · rename_i fits
    by_contra no_digits
    exact fits (by simp [no_digits])

/-- A text that spells an address begins with a digit. -/
theorem digit_of_read? {s : String} {a : Address} (h : read? s = some a) :
    ∃ c cs, s.toList = c :: cs ∧ c.isDigit = true := by
  unfold read? readChars? at h
  split at h
  · rename_i first _ _ _ pieces
    obtain ⟨n, hn, -⟩ := Option.bind_eq_some_iff.1 h
    have digits := Text.arePlainDigits_iff.1 (arePlainDigits_of_readOctet? hn)
    cases hs : s.toList with
    | nil =>
      rw [hs] at pieces
      cases pieces
    | cons c cs =>
      refine ⟨c, cs, rfl, ?_⟩
      rw [hs] at pieces
      unfold splitChars at pieces
      split at pieces
      · exact absurd (List.cons.inj pieces).1.symm digits.ne_nil
      · obtain ⟨more, others, front⟩ := splitChars_front '.' [c] cs
        rw [front] at pieces
        rw [← (List.cons.inj pieces).1] at digits
        exact digits.digits c (by simp)
  · cases h

end Address

namespace Argument

open Text

variable {kind : ArgKind} {low high : Option Int} {device : Option Device} {raw : String}

/-! ## Numbers and addresses -/

theorem isMarked_natText (n : Nat) : IsMarked (natText n) := by
  have digits : ∀ c ∈ (natText n).toList, c.isDigit = true := by
    unfold natText
    rw [String.toList_ofList]
    exact fun c => isDigit_of_mem_toDigits
  obtain ⟨c, cs, front, digit⟩ := toDigits_front n
  refine isMarked_of_digit (fun c hc => not_isBlank_of_isDigit (digits c hc)) ⟨c, ?_, digit⟩
  unfold natText
  rw [String.toList_ofList, front]
  exact List.mem_cons_self

theorem isMarked_address (a : Address) : IsMarked a.text := by
  have blankless (n : Nat) := (isMarked_natText n).unbroken.2
  have chars := Address.toList_text a
  refine ⟨⟨?_, fun c hc => ?_⟩, '.', ?_, rfl⟩
  · rw [chars]
    simp
  · have point : isBlank '.' = false := by decide
    simp only [chars, List.mem_append, List.mem_cons] at hc
    rcases hc with hc | rfl | hc | rfl | hc | rfl | hc <;> first | exact point | exact blankless _ c hc
  · rw [chars]
    simp

/-- A number is natural and read back from its digits. -/
theorem readInt_intText {cs : List Char} {n : Int} (h : readInt low high cs = .ok n) :
    ∃ k : Nat, n = k ∧ readInt low high (intText n).toList = .ok n := by
  obtain ⟨-, k, read, within, rfl⟩ := readInt_eq_ok_iff.1 h
  have written : arePlainDigits (Nat.toDigits 10 k) = true := arePlainDigits_iff.2 (.of_toDigits k)
  rw [toList_intText_natCast]
  exact ⟨k, rfl, readInt_eq_ok_iff.2 ⟨written, k, readDigits?_toDigits (readDigits?_brief read), within, rfl⟩⟩

/-- A number within bounds is read back from its digits. -/
theorem readInt_within {least most n : Int} (natural : 0 ≤ n) (lower : least ≤ n) (upper : n ≤ most)
    (few : most < 10 ^ 9) : readInt (some least) (some most) (intText n).toList = .ok n := by
  obtain ⟨k, rfl⟩ := Int.eq_ofNat_of_zero_le natural
  have digits : arePlainDigits (Nat.toDigits 10 k) = true := arePlainDigits_iff.2 (.of_toDigits k)
  have within : withinBounds (some least) (some most) k = true := by simp [withinBounds, lower, upper]
  rw [toList_intText_natCast]
  exact readInt_eq_ok_iff.2 ⟨digits, k, readDigits?_toDigits (lt_numeralBound (by omega)), within, rfl⟩

/-! ## Stations -/

theorem hexDigit_cases {c : Char} (h : isHexDigit c = true) :
    IsLower c ∧ isBlank c = false ∧ c ≠ '\n' ∧ c ≠ '.' ∧ c ≠ ':' ∧ c ≠ '-' := by
  have all : ∀ n ∈ List.range 103, isHexDigit (Char.ofNat n) = true → IsLower (Char.ofNat n) ∧
      isBlank (Char.ofNat n) = false ∧ Char.ofNat n ≠ '\n' ∧ Char.ofNat n ≠ '.' ∧ Char.ofNat n ≠ ':' ∧
      Char.ofNat n ≠ '-' := by decide
  have low : c.toNat < 103 := by
    unfold isHexDigit isPlainDigit at h
    simp only [Bool.or_eq_true, Bool.and_eq_true, decide_eq_true_eq] at h
    rcases h with ⟨-, high⟩ | ⟨-, high⟩
    · exact Nat.lt_of_le_of_lt (show c.toNat ≤ '9'.toNat from high) (by decide)
    · exact Nat.lt_of_le_of_lt (show c.toNat ≤ 'f'.toNat from high) (by decide)
  have found := all c.toNat (List.mem_range.2 low)
  rw [Char.ofNat_toNat] at found
  exact found h

section Groups

variable {size : Nat} {mark : Char → Bool} {count : Nat} {cs : List Char}

theorem areHexGroups_one : areHexGroups size mark 1 cs = (cs.length = size && cs.all isHexDigit) := rfl

theorem areHexGroups_succ : areHexGroups size mark (count + 2) cs =
    ((cs.take size).length = size && (cs.take size).all isHexDigit &&
      match cs.drop size with
      | c :: rest => mark c && areHexGroups size mark (count + 1) rest
      | [] => false) := rfl

/-- Groups of digits with marks between them have so many digits in all. -/
theorem length_filter_of_areHexGroups (apart : ∀ c, mark c = true → isHexDigit c = false)
    (h : areHexGroups size mark count cs = true) : (cs.filter isHexDigit).length = size * count := by
  induction count generalizing cs with
  | zero =>
    unfold areHexGroups at h
    cases h
  | succ count ih =>
    cases count with
    | zero =>
      rw [areHexGroups_one] at h
      obtain ⟨length, digits⟩ := Bool.and_eq_true_iff.1 h
      rw [List.filter_eq_self.2 (List.all_eq_true.1 digits), of_decide_eq_true length, Nat.mul_one]
    | succ count =>
      rw [areHexGroups_succ] at h
      obtain ⟨group, rest⟩ := Bool.and_eq_true_iff.1 h
      obtain ⟨length, digits⟩ := Bool.and_eq_true_iff.1 group
      split at rest
      · rename_i c rest' heq
        obtain ⟨hc, hrest⟩ := Bool.and_eq_true_iff.1 rest
        rw [← List.take_append_drop size cs, heq, List.filter_append,
          List.filter_eq_self.2 (List.all_eq_true.1 digits), List.filter_cons_of_neg (by simp [apart c hc]),
          List.length_append, of_decide_eq_true length, ih hrest]
        ring
      · cases rest

theorem areHexGroups_append {group rest : List Char} (length : group.length = size)
    (digits : ∀ c ∈ group, isHexDigit c = true) {c : Char} (hc : mark c = true) :
    areHexGroups size mark (count + 2) (group ++ c :: rest) = areHexGroups size mark (count + 1) rest := by
  subst length
  rw [areHexGroups_succ, List.take_left, List.drop_left, List.all_eq_true.2 digits]
  simp [hc]

end Groups

/-- Twelve digits in three groups with points between them. -/
def grouped (ds : List Char) : List Char := ds.take 4 ++ ['.'] ++ (ds.drop 4).take 4 ++ ['.'] ++ ds.drop 8

/-- A station has twelve digits and is written as three groups of them. -/
theorem grouped_of_readStation {s : String} (h : readStation raw = .ok s) :
    ∃ ds, ds.length = 12 ∧ (∀ c ∈ ds, isHexDigit c = true) ∧ s = String.ofList (grouped ds) := by
  unfold readStation at h
  dsimp only at h
  generalize hbody : (if (lowerChars raw.toList).getLast? = some '\n' then _ else _) = body at h
  have same : body.filter isHexDigit = (lowerChars raw.toList).filter isHexDigit := by
    rw [← hbody]
    split
    · rename_i last
      obtain ⟨front, heq⟩ := List.getLast?_eq_some_iff.1 last
      rw [heq, List.dropLast_concat, List.filter_append]
      exact (List.append_nil _).symm
    · rfl
  rw [← same] at h
  split at h
  · rename_i groups
    refine ⟨_, ?_, fun c hc => (List.mem_filter.1 hc).2, (Except.ok.inj h).symm⟩
    rcases Bool.or_eq_true_iff.1 groups with groups | groups
    · exact length_filter_of_areHexGroups (fun c hc => by rw [eq_of_beq hc]; decide) groups
    · exact length_filter_of_areHexGroups (fun c hc => by
        rcases Bool.or_eq_true_iff.1 hc with hc | hc <;> rw [eq_of_beq hc] <;> decide) groups
  · cases h

theorem grouped_append {a b c : List Char} (ha : a.length = 4) (hb : b.length = 4) :
    grouped (a ++ (b ++ c)) = a ++ '.' :: (b ++ '.' :: c) := by
  unfold grouped
  rw [show (a ++ (b ++ c)).drop 8 = ((a ++ (b ++ c)).drop 4).drop 4 by rw [List.drop_drop], ← ha, List.take_left,
    List.drop_left, ha, ← hb, List.take_left, List.drop_left]
  simp

/-- A station is read back from its three groups. -/
theorem readStation_grouped {ds : List Char} (length : ds.length = 12) (digits : ∀ c ∈ ds, isHexDigit c = true) :
    readStation (String.ofList (grouped ds)) = .ok (String.ofList (grouped ds)) ∧
      IsMarked (String.ofList (grouped ds)) := by
  obtain ⟨a, b, c, rfl, ha, hb, hc⟩ : ∃ a b c : List Char, ds = a ++ (b ++ c) ∧ a.length = 4 ∧ b.length = 4 ∧
      c.length = 4 := by
    refine ⟨ds.take 4, (ds.drop 4).take 4, ds.drop 8, ?_, by simp [length], by simp [length], by simp [length]⟩
    rw [show ds.drop 8 = (ds.drop 4).drop 4 by simp, List.take_append_drop, List.take_append_drop]
  simp only [List.mem_append] at digits
  have written : ∀ x ∈ grouped (a ++ (b ++ c)), isHexDigit x = true ∨ x = '.' := by
    rw [grouped_append ha hb]
    intro x hx
    simp only [List.mem_append, List.mem_cons] at hx
    rcases hx with hx | rfl | hx | rfl | hx
    · exact Or.inl (digits x (Or.inl hx))
    · exact Or.inr rfl
    · exact Or.inl (digits x (Or.inr (Or.inl hx)))
    · exact Or.inr rfl
    · exact Or.inl (digits x (Or.inr (Or.inr hx)))
  have blankless : ∀ x ∈ grouped (a ++ (b ++ c)), isBlank x = false := fun x hx => by
    rcases written x hx with hx | rfl
    · exact (hexDigit_cases hx).2.1
    · decide
  have lower : lowerChars (grouped (a ++ (b ++ c))) = grouped (a ++ (b ++ c)) :=
    lowerAfter_eq_self fun x hx => by
      rcases written x hx with hx | rfl
      · exact (hexDigit_cases hx).1
      · decide
  have no_line : (grouped (a ++ (b ++ c))).getLast? ≠ some '\n' := fun last => by
    have := blankless _ (List.mem_of_getLast? last)
    revert this
    decide
  have groups : areHexGroups 4 (· == '.') 3 (grouped (a ++ (b ++ c))) = true := by
    rw [grouped_append ha hb, areHexGroups_append ha (fun x hx => digits x (Or.inl hx)) (by decide),
      areHexGroups_append hb (fun x hx => digits x (Or.inr (Or.inl hx))) (by decide)]
    rw [areHexGroups_one, hc, List.all_eq_true.2 fun x hx => digits x (Or.inr (Or.inr hx))]
    rfl
  have kept : (grouped (a ++ (b ++ c))).filter isHexDigit = a ++ (b ++ c) := by
    have point : isHexDigit '.' = false := by decide
    rw [grouped_append ha hb]
    simp only [List.filter_append, List.filter_cons, point, Bool.false_eq_true, if_false]
    rw [List.filter_eq_self.2 fun x hx => digits x (Or.inl hx),
      List.filter_eq_self.2 fun x hx => digits x (Or.inr (Or.inl hx)),
      List.filter_eq_self.2 fun x hx => digits x (Or.inr (Or.inr hx))]
  refine ⟨?_, ⟨?_, ?_⟩, '.', ?_, rfl⟩
  · unfold readStation
    dsimp only
    rw [String.toList_ofList, lower, if_neg no_line, groups, kept]
    rfl
  · rw [String.toList_ofList, grouped_append ha hb]
    simp
  · rw [String.toList_ofList]
    exact blankless
  · rw [String.toList_ofList, grouped_append ha hb]
    simp

/-! ## All kinds -/

/-- The name of an interface spells no address. -/
theorem read?_of_isSpelled {name : String} (h : InterfaceName.IsSpelled name) : Address.read? name = none := by
  obtain ⟨s, valid, rfl⟩ := h
  have letters := InterfaceName.Spelling.types_letters s.type valid.type
  have some_letter : ∀ t ∈ InterfaceName.types.map Prod.fst, t.toList ≠ [] := by decide
  obtain ⟨c, cs, hcs⟩ := List.exists_cons_of_ne_nil (some_letter s.type valid.type)
  cases hread : Address.read? s.name with
  | none => rfl
  | some a =>
    obtain ⟨d, ds, hds, digit⟩ := Address.digit_of_read? hread
    rw [InterfaceName.Spelling.toList_name, hcs] at hds
    obtain ⟨rfl, -⟩ := List.cons.inj hds
    have letter := (letters c (by simp [hcs])).1
    rw [not_isTypeChar_of_isDigit digit] at letter
    cases letter

theorem readNextHop_shown {v : ArgValue} (h : readNextHop device raw = .ok v) :
    readNextHop device v.shown = .ok v ∧ IsMarked v.shown := by
  unfold readNextHop ArgValue.shown
  rcases readNextHop_eq_ok h with ⟨a, rfl⟩ | ⟨name, rfl, hname, known⟩
  · dsimp only
    rw [Address.read?_text]
    exact ⟨rfl, isMarked_address a⟩
  · have spelled := InterfaceName.isSpelled_of_normalize? hname
    dsimp only
    rw [read?_of_isSpelled spelled, InterfaceName.normalize?_idem hname]
    exact ⟨by simp [accept, known], spelled.isMarked⟩

theorem readAddress_text (a : Address) : readAddress a.text = .ok a := by
  unfold readAddress
  rw [Address.read?_text]
  rfl

/-- What is written of a value is read back, and it is marked. -/
theorem read_shown {v : ArgValue} (h : read kind low high device raw = .ok v) (word : kind ≠ .word)
    (line : kind ≠ .line) (list : kind ≠ .vlanList) :
    read kind low high device v.shown = .ok v ∧ IsMarked v.shown := by
  unfold read at h ⊢
  cases kind with
  | word => exact absurd rfl word
  | line => exact absurd rfl line
  | vlanList => exact absurd rfl list
  | int =>
    obtain ⟨n, hn, rfl⟩ := map_eq_ok.1 h
    obtain ⟨k, rfl, written⟩ := readInt_intText hn
    exact ⟨map_eq_ok.2 ⟨_, written, rfl⟩, isMarked_natText k⟩
  | ipv4 =>
    obtain ⟨a, -, rfl⟩ := map_eq_ok.1 h
    exact ⟨map_eq_ok.2 ⟨a, readAddress_text a, rfl⟩, isMarked_address a⟩
  | wildcard =>
    obtain ⟨a, -, rfl⟩ := map_eq_ok.1 h
    exact ⟨map_eq_ok.2 ⟨a, readAddress_text a, rfl⟩, isMarked_address a⟩
  | mask =>
    obtain ⟨a, ha, rfl⟩ := map_eq_ok.1 h
    have written := readMask_eq_ok.2 ⟨readAddress_text a, (readMask_eq_ok.1 ha).2⟩
    exact ⟨map_eq_ok.2 ⟨a, written, rfl⟩, isMarked_address a⟩
  | mac =>
    obtain ⟨s, hs, rfl⟩ := map_eq_ok.1 h
    obtain ⟨ds, length, digits, rfl⟩ := grouped_of_readStation hs
    obtain ⟨written, marked⟩ := readStation_grouped length digits
    exact ⟨map_eq_ok.2 ⟨_, written, rfl⟩, marked⟩
  | interface =>
    obtain ⟨name, hname, rfl⟩ := map_eq_ok.1 h
    obtain ⟨normal, possible⟩ := readInterface_eq_ok.1 hname
    have written := readInterface_eq_ok.2 ⟨InterfaceName.normalize?_idem normal, possible⟩
    exact ⟨map_eq_ok.2 ⟨_, written, rfl⟩, (InterfaceName.isSpelled_of_normalize? normal).isMarked⟩
  | nextHop => exact readNextHop_shown h

end Argument

end NetRack
