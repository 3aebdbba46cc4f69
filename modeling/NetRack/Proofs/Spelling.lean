import NetRack.Proofs.Address
import NetRack.Proofs.Device

/-!
# How names are spelled

The name that stands for what a user wrote is a type followed by groups of digits with slashes between, and
perhaps by a point and the digits of a subinterface.  Names are sorted by their types and the values of these
numbers, so names that differ in needless zeros only are sorted alike.  Without such zeros a name is spelled
canonically.
-/

namespace NetRack

/-! ## Digits -/

namespace Text

variable {c : Char} {g : List Char}

theorem isDecimalDigit_of_isDigit (h : c.isDigit = true) : isDecimalDigit c = true := by
  unfold isDecimalDigit
  rw [(plain_of_isDigit h).1]
  rfl

theorem not_isTypeChar_of_isDigit (h : c.isDigit = true) : InterfaceName.isTypeChar c = false := by
  have all : ∀ d : Fin 10, InterfaceName.isTypeChar (Char.ofNat ('0'.toNat + d)) = false := by decide
  obtain ⟨d, rfl⟩ := exists_eq_of_isDigit h
  exact all d

/-- A row of one or more of the digits `0` to `9`. -/
structure IsNumber (g : List Char) : Prop where
  ne_nil : g ≠ []
  digits : ∀ c ∈ g, c.isDigit = true

theorem arePlainDigits_iff : arePlainDigits g = true ↔ IsNumber g := by
  unfold arePlainDigits
  rw [Bool.and_eq_true, Bool.not_eq_true', List.isEmpty_eq_false_iff, List.all_eq_true]
  exact ⟨fun h => ⟨h.1, h.2⟩, fun h => ⟨h.ne_nil, h.digits⟩⟩

theorem IsNumber.of_toDigits (n : Nat) : IsNumber (Nat.toDigits 10 n) :=
  ⟨List.ne_nil_of_length_pos Nat.length_toDigits_pos, fun _ => isDigit_of_mem_toDigits⟩

/-- A number without needless zeros. -/
def plainNumber (g : List Char) : List Char := Nat.toDigits 10 (digitsValue g)

theorem digitsValue_plainNumber (g : List Char) : digitsValue (plainNumber g) = digitsValue g := by
  rw [plainNumber, digitsValue_eq fun _ => isDigit_of_mem_toDigits, Nat.ofDigitChars_ten_toDigits]

/-- Characters in which every number is without needless zeros, given the digits before them in reverse. -/
def plainChars (pending : List Char) : List Char → List Char
  | [] => if pending.isEmpty then [] else plainNumber pending.reverse
  | c :: rest =>
    if isDecimalDigit c then plainChars (c :: pending) rest
    else if pending.isEmpty then c :: plainChars [] rest
    else plainNumber pending.reverse ++ c :: plainChars [] rest

end Text

namespace InterfaceName

open Text

/-- The name with every number in it written without needless zeros. -/
def canonical (name : String) : String := String.ofList (plainChars [] name.toList)

example : canonical "GigabitEthernet0/01.020" = "GigabitEthernet0/1.20" := by decide

/-! ## Numbers in a text -/

section Runs

variable {pending g : List Char} {c : Char}

theorem digitRuns_digits (hg : ∀ c ∈ g, c.isDigit = true) (pending rest : List Char) :
    digitRuns pending (g ++ rest) = digitRuns (g.reverse ++ pending) rest := by
  induction g generalizing pending with
  | nil => rfl
  | cons c g ih =>
    have digit := isDecimalDigit_of_isDigit (hg c (by simp))
    rw [List.cons_append, digitRuns, if_pos digit, ih fun x hx => hg x (by simp [hx])]
    simp

theorem plainChars_digits (hg : ∀ c ∈ g, c.isDigit = true) (pending rest : List Char) :
    plainChars pending (g ++ rest) = plainChars (g.reverse ++ pending) rest := by
  induction g generalizing pending with
  | nil => rfl
  | cons c g ih =>
    have digit := isDecimalDigit_of_isDigit (hg c (by simp))
    rw [List.cons_append, plainChars, if_pos digit, ih fun x hx => hg x (by simp [hx])]
    simp

theorem digitRuns_number (hg : IsNumber g) : digitRuns [] g = [g] := by
  rw [← List.append_nil g, digitRuns_digits hg.digits, List.append_nil, digitRuns, if_neg (by simp [hg.ne_nil]),
    List.reverse_reverse, List.append_nil]

theorem plainChars_number (hg : IsNumber g) : plainChars [] g = plainNumber g := by
  rw [← List.append_nil g, plainChars_digits hg.digits, List.append_nil, plainChars, if_neg (by simp [hg.ne_nil]),
    List.reverse_reverse, List.append_nil]

theorem plainChars_letters {cs : List Char} (hcs : ∀ c ∈ cs, isDecimalDigit c = false) (rest : List Char) :
    plainChars [] (cs ++ rest) = cs ++ plainChars [] rest := by
  induction cs with
  | nil => rfl
  | cons c cs ih =>
    rw [List.cons_append, plainChars, if_neg (by simp [hcs c (by simp)]), ih fun x hx => hcs x (by simp [hx])]
    rfl

variable (mark : isDecimalDigit c = false)

include mark

theorem digitRuns_mark (some_digit : pending ≠ []) (rest : List Char) :
    digitRuns pending (c :: rest) = pending.reverse :: digitRuns [] rest := by
  rw [digitRuns, if_neg (by simp [mark]), if_neg (by simp [some_digit])]

theorem plainChars_mark (some_digit : pending ≠ []) (rest : List Char) :
    plainChars pending (c :: rest) = plainNumber pending.reverse ++ c :: plainChars [] rest := by
  rw [plainChars, if_neg (by simp [mark]), if_neg (by simp [some_digit])]

end Runs

/-! ## Spellings -/

/-- The parts that the name of an interface is put together from. -/
structure Spelling where
  type : String
  first : List Char
  more : List (List Char) := []
  sub : Option (List Char) := none

namespace Spelling

/-- Groups of digits, each after a slash, and the digits of a subinterface after a point. -/
def tail (more : List (List Char)) (sub : Option (List Char)) : List Char :=
  more.flatMap ('/' :: ·) ++ (sub.map ('.' :: ·)).getD []

/-- What follows the type. -/
def number (s : Spelling) : List Char := s.first ++ tail s.more s.sub

/-- The name that is put together. -/
def name (s : Spelling) : String := s.type ++ String.ofList s.number

/-- The type is one of those that there are, and the numbers are numbers. -/
structure Valid (s : Spelling) : Prop where
  type : s.type ∈ types.map Prod.fst
  first : IsNumber s.first
  more : ∀ g ∈ s.more, IsNumber g
  sub : ∀ g ∈ s.sub, IsNumber g

/-- The numbers, as written. -/
def numerals (s : Spelling) : List (List Char) := s.first :: s.more ++ s.sub.toList

/-- The spelling without needless zeros. -/
def plain (s : Spelling) : Spelling where
  type := s.type
  first := plainNumber s.first
  more := s.more.map plainNumber
  sub := s.sub.map plainNumber

variable {s s' : Spelling}

theorem Valid.plain (h : s.Valid) : s.plain.Valid where
  type := h.type
  first := .of_toDigits _
  more := by
    intro g hg
    obtain ⟨g', -, rfl⟩ := List.mem_map.1 hg
    exact .of_toDigits _
  sub := by
    intro g hg
    obtain ⟨g', -, rfl⟩ := Option.map_eq_some_iff.1 hg
    exact .of_toDigits _

/-! ### The type -/

theorem types_letters :
    ∀ t ∈ types.map Prod.fst, ∀ c ∈ t.toList, isTypeChar c = true ∧ isDecimalDigit c = false := by
  have all : ((types.map Prod.fst).all fun t => t.toList.all fun c => isTypeChar c && !isDecimalDigit c) = true := by
    decide
  intro t ht c hc
  simpa using List.all_eq_true.1 (List.all_eq_true.1 all t ht) c hc

/-- Characters of a number are digits and the marks between them; only a subinterface has a point. -/
theorem mem_number (h : s.Valid) {c : Char} (hc : c ∈ s.number) :
    c.isDigit = true ∨ c = '/' ∨ c = '.' ∧ s.sub ≠ none := by
  unfold number tail at hc
  rcases List.mem_append.1 hc with hc | hc
  · exact Or.inl (h.first.digits c hc)
  rcases List.mem_append.1 hc with hc | hc
  · obtain ⟨g, hg, hc⟩ := List.mem_flatMap.1 hc
    rcases List.mem_cons.1 hc with rfl | hc
    · exact Or.inr (Or.inl rfl)
    · exact Or.inl ((h.more g hg).digits c hc)
  · cases hsub : s.sub with
    | none =>
      rw [hsub] at hc
      cases hc
    | some g =>
      rw [hsub] at hc
      rcases List.mem_cons.1 hc with rfl | hc
      · exact Or.inr (Or.inr ⟨rfl, by simp⟩)
      · exact Or.inl ((h.sub g hsub).digits c hc)

theorem toList_name (s : Spelling) : s.name.toList = s.type.toList ++ s.number := by simp [name]

theorem number_eq_cons (h : s.Valid) : ∃ c rest, s.number = c :: rest ∧ c.isDigit = true := by
  cases hfirst : s.first with
  | nil => exact absurd hfirst h.first.ne_nil
  | cons c rest =>
    refine ⟨c, rest ++ tail s.more s.sub, ?_, h.first.digits c (by simp [hfirst])⟩
    rw [number, hfirst]
    rfl

theorem splitType?_name (h : s.Valid) : splitType? s.name = some (s.type.toList, s.number) := by
  have letters : ∀ c ∈ s.type.toList, isTypeChar c = true := fun c hc => (types_letters s.type h.type c hc).1
  obtain ⟨c, rest, hnumber, hdigit⟩ := number_eq_cons h
  have other := not_isTypeChar_of_isDigit hdigit
  have chars := toList_name s
  have word : s.name.toList.takeWhile isTypeChar = s.type.toList := by
    rw [chars, List.takeWhile_append_of_pos letters, hnumber, List.takeWhile_cons_of_neg (by simp [other]),
      List.append_nil]
  have rest : s.name.toList.dropWhile isTypeChar = s.number := by
    rw [chars, List.dropWhile_append_of_pos letters, hnumber, List.dropWhile_cons_of_neg (by simp [other])]
  have some_letter : s.type.toList ≠ [] := by
    have all : ∀ t ∈ types.map Prod.fst, t.toList ≠ [] := by decide
    exact all s.type h.type
  have no_line : '\n' ∉ s.number := fun hmem => by
    rcases mem_number h hmem with hd | hd | ⟨hd, -⟩ <;> revert hd <;> decide
  have single : singleLine? s.number = some s.number := by
    have last : s.number.getLast? ≠ some '\n' := fun hlast => no_line (List.mem_of_getLast? hlast)
    unfold singleLine?
    rw [if_neg last]
    dsimp only
    rw [if_neg (by simpa using no_line)]
  unfold splitType?
  dsimp only
  rw [word, rest, if_neg (by simpa using some_letter), single]
  rfl

/-! ### The numbers -/

theorem slash_mark : isDecimalDigit '/' = false := by decide

theorem point_mark : isDecimalDigit '.' = false := by decide

section Tail

variable {more : List (List Char)} {sub : Option (List Char)} (hmore : ∀ g ∈ more, IsNumber g)
  (hsub : ∀ g ∈ sub, IsNumber g) {pending : List Char} (some_digit : pending ≠ [])

include hmore hsub some_digit

theorem digitRuns_tail : digitRuns pending (tail more sub) = pending.reverse :: more ++ sub.toList := by
  induction more generalizing pending with
  | nil =>
    cases sub with
    | none =>
      show digitRuns pending [] = _
      rw [digitRuns, if_neg (by simpa using some_digit)]
      rfl
    | some g =>
      show digitRuns pending ('.' :: g) = _
      rw [digitRuns_mark point_mark some_digit, digitRuns_number (hsub g rfl)]
      rfl
  | cons g more ih =>
    have hg := hmore g (by simp)
    have shape : tail (g :: more) sub = '/' :: (g ++ tail more sub) := by simp [tail]
    rw [shape, digitRuns_mark slash_mark some_digit, digitRuns_digits hg.digits, List.append_nil,
      ih (fun x hx => hmore x (by simp [hx])) (by simpa using hg.ne_nil), List.reverse_reverse]
    rfl

theorem plainChars_tail : plainChars pending (tail more sub) =
    plainNumber pending.reverse ++ tail (more.map plainNumber) (sub.map plainNumber) := by
  induction more generalizing pending with
  | nil =>
    cases sub with
    | none =>
      show plainChars pending [] = _
      rw [plainChars, if_neg (by simpa using some_digit)]
      exact (List.append_nil _).symm
    | some g =>
      show plainChars pending ('.' :: g) = _
      rw [plainChars_mark point_mark some_digit, plainChars_number (hsub g rfl)]
      rfl
  | cons g more ih =>
    have hg := hmore g (by simp)
    have shape : tail (g :: more) sub = '/' :: (g ++ tail more sub) := by simp [tail]
    rw [shape, plainChars_mark slash_mark some_digit, plainChars_digits hg.digits, List.append_nil,
      ih (fun x hx => hmore x (by simp [hx])) (by simpa using hg.ne_nil), List.reverse_reverse]
    simp [tail]

end Tail

/-- What a name is sorted by. -/
theorem sortKey_name (h : s.Valid) : sortKey s.name = ⟨s.type, s.numerals.map digitsValue⟩ := by
  have runs : digitRuns [] s.number = s.numerals := by
    unfold number numerals
    rw [digitRuns_digits h.first.digits, List.append_nil,
      digitRuns_tail h.more h.sub (by simpa using h.first.ne_nil), List.reverse_reverse]
  unfold sortKey
  rw [splitType?_name h]
  dsimp only
  rw [runs, String.ofList_toList]

theorem canonical_name (h : s.Valid) : canonical s.name = s.plain.name := by
  have letters : ∀ c ∈ s.type.toList, isDecimalDigit c = false := fun c hc => (types_letters s.type h.type c hc).2
  have chars := toList_name s
  have number : plainChars [] s.number = s.plain.number := by
    unfold Spelling.number
    rw [plainChars_digits h.first.digits, List.append_nil,
      plainChars_tail h.more h.sub (by simpa using h.first.ne_nil), List.reverse_reverse]
    rfl
  unfold canonical
  rw [chars, plainChars_letters letters, number, String.ofList_append, String.ofList_toList]
  rfl

/-- Names that are spelled alike but for needless zeros are sorted alike. -/
theorem sortKey_plain (h : s.Valid) : sortKey s.plain.name = sortKey s.name := by
  have values : s.plain.numerals.map digitsValue = s.numerals.map digitsValue := by
    have each : (digitsValue ∘ plainNumber) = digitsValue := funext digitsValue_plainNumber
    have numerals : s.plain.numerals = s.numerals.map plainNumber := by
      cases hsub : s.sub <;> simp [Spelling.numerals, plain, hsub]
    rw [numerals, List.map_map, each]
  rw [sortKey_name h, sortKey_name h.plain, values]
  rfl

/-- Names that are sorted alike are spelled alike but for needless zeros, if both are names of subinterfaces or
neither is. -/
theorem plain_eq (same : s.type = s'.type) (numbers : s.numerals.map digitsValue = s'.numerals.map digitsValue)
    (sub : s.sub.isSome = s'.sub.isSome) : s.plain = s'.plain := by
  have plain : s.numerals.map plainNumber = s'.numerals.map plainNumber := by
    have each : plainNumber = Nat.toDigits 10 ∘ digitsValue := rfl
    rw [each, ← List.map_map, ← List.map_map, numbers]
  obtain ⟨type, first, more, digits⟩ := s
  obtain ⟨type', first', more', digits'⟩ := s'
  obtain rfl : type = type' := same
  have joined : (plainNumber first :: more.map plainNumber) ++ digits.toList.map plainNumber =
      (plainNumber first' :: more'.map plainNumber) ++ digits'.toList.map plainNumber := by
    simpa [numerals] using plain
  have alike : (digits.toList.map plainNumber).length = (digits'.toList.map plainNumber).length := by
    cases digits <;> cases digits' <;> first | rfl | cases sub
  obtain ⟨groups, last⟩ := List.append_inj' joined alike
  obtain ⟨hfirst, hmore⟩ := List.cons.inj groups
  have hsub : digits.map plainNumber = digits'.map plainNumber := by
    cases digits <;> cases digits' <;> exact congrArg List.head? last
  unfold Spelling.plain
  rw [hfirst, hmore, hsub]

/-! ### Parents -/

/-- The spelling of the port that a subinterface belongs to. -/
def parent (s : Spelling) : Spelling := { s with sub := none }

theorem Valid.parent (h : s.Valid) : s.parent.Valid := ⟨h.type, h.first, h.more, fun _ hg => by cases hg⟩

theorem no_point (h : s.Valid) : ∀ c ∈ s.parent.name.toList, c ≠ '.' := by
  intro c hc
  rw [toList_name] at hc
  rcases List.mem_append.1 hc with hc | hc
  · rintro rfl
    exact absurd (types_letters s.type h.type _ hc).1 (by decide)
  · rcases mem_number h.parent hc with hc | rfl | ⟨-, hsub⟩
    · rintro rfl
      exact absurd hc (by decide)
    · decide
    · exact absurd rfl hsub

/-- What follows the point of a name is the number of a subinterface. -/
theorem splitDigits_name (h : s.Valid) : splitDigits s.name = (s.parent.name, s.sub) := by
  have letters := no_point h
  have kept : ∀ c ∈ s.parent.name.toList, decide (c ≠ '.') = true := fun c hc => by simpa using letters c hc
  cases hsub : s.sub with
  | none =>
    have same : s.parent = s := by
      unfold Spelling.parent
      rw [← hsub]
    rw [same] at kept ⊢
    unfold splitDigits
    dsimp only
    rw [List.dropWhile_eq_nil_iff.2 kept]
  | some g =>
    have hg := h.sub g hsub
    have chars : s.name.toList = s.parent.name.toList ++ '.' :: g := by
      rw [toList_name, toList_name]
      simp [number, tail, Spelling.parent, hsub]
    unfold splitDigits
    dsimp only
    rw [chars, List.dropWhile_append_of_pos kept, List.takeWhile_append_of_pos kept]
    simp [arePlainDigits_iff.2 hg]

theorem kindOf_name (h : s.Valid) : kindOf s.name = .subinterface ↔ s.sub.isSome = true := by
  have some_digit := subOf_isSome s.name
  rw [subOf, splitDigits_name h, Option.isSome_map] at some_digit
  rw [some_digit, decide_eq_true_iff]

theorem parentOf_name (h : s.Valid) : parentOf s.name = s.parent.name := by
  rw [parentOf, splitDigits_name h]

/-! ### Kinds -/

theorem plainKind_append (cs : List Char) :
    ∀ t ∈ types.map Prod.fst, plainKind (t ++ String.ofList cs) = plainKind t := by
  have start (w t : String) : startsWith w (t ++ String.ofList cs) = w.toList.isPrefixOf (t.toList ++ cs) := by
    simp [startsWith]
  intro t ht
  simp only [types, List.map_cons, List.map_nil, List.mem_cons, List.not_mem_nil, or_false] at ht
  simp only [plainKind, start]
  rcases ht with rfl | rfl | rfl | rfl | rfl | rfl | rfl <;> rfl

/-- The kind of an interface that is no subinterface is told by its type. -/
theorem kindOf_of_type (h : s.Valid) (none : s.sub = none) : kindOf s.name = plainKind s.type := by
  unfold kindOf
  rw [splitDigits_name h, none]
  exact plainKind_append s.number s.type h.type

end Spelling

/-! ## Names that are spelled -/

/-- The name is put together from a type and numbers. -/
def IsSpelled (name : String) : Prop := ∃ s : Spelling, s.Valid ∧ s.name = name

theorem number_of_isNumberFrom {inGroup : Bool} {cs : List Char} (h : isNumberFrom inGroup cs = true) :
    ∃ g more sub, (∀ c ∈ g, c.isDigit = true) ∧ (inGroup = false → g ≠ []) ∧ (∀ m ∈ more, IsNumber m) ∧
      (∀ m ∈ sub, IsNumber m) ∧ cs = g ++ Spelling.tail more sub := by
  induction cs generalizing inGroup with
  | nil =>
    refine ⟨[], [], none, by simp, fun hin => ?_, by simp, by simp, rfl⟩
    rw [isNumberFrom, hin] at h
    cases h
  | cons c rest ih =>
    rw [isNumberFrom] at h
    split at h
    · rename_i digit
      obtain ⟨g, more, sub, digits, -, hmore, hsub, rfl⟩ := ih h
      refine ⟨c :: g, more, sub, ?_, fun _ => List.cons_ne_nil _ _, hmore, hsub, rfl⟩
      exact List.forall_mem_cons.2 ⟨digit, digits⟩
    · split at h
      · rename_i slash
        obtain ⟨within, h⟩ := Bool.and_eq_true_iff.1 h
        obtain ⟨g, more, sub, digits, some_digit, hmore, hsub, rfl⟩ := ih h
        refine ⟨[], g :: more, sub, by simp, fun hin => ?_, ?_, hsub, ?_⟩
        · rw [hin] at within
          cases within
        · exact List.forall_mem_cons.2 ⟨⟨some_digit rfl, digits⟩, hmore⟩
        · simp [Spelling.tail, eq_of_beq slash]
      · obtain ⟨within, h⟩ := Bool.and_eq_true_iff.1 h
        rw [isSubNumber.eq_def] at h
        split at h
        · cases ‹_ :: _ = []›
        · rename_i digits heq
          obtain ⟨rfl, rfl⟩ := List.cons.inj heq
          refine ⟨[], [], some rest, by simp, fun hin => ?_, by simp, ?_, rfl⟩
          · rw [hin] at within
            cases within
          · rintro m ⟨⟩
            exact arePlainDigits_iff.1 h
        · cases h

/-- The name that stands for what a user wrote is a type with a number after it. -/
theorem normalize?_eq_some {raw name : String} (h : normalize? raw = some name) :
    ∃ t ∈ types.map Prod.fst, ∃ number, name = t ++ String.ofList number ∧ isNumberFrom false number = true := by
  unfold normalize? at h
  dsimp only at h
  split at h
  · rename_i written
    split at h
    · rename_i t matching
      cases h
      have known : t ∈ types.map Prod.fst := (List.mem_filter.1 (matching ▸ List.mem_singleton_self t)).1
      exact ⟨t, known, _, rfl, (Bool.and_eq_true_iff.1 written).2⟩
    · cases h
  · cases h

/-- The name that stands for what a user wrote is spelled. -/
theorem isSpelled_of_normalize? {raw name : String} (h : normalize? raw = some name) : IsSpelled name := by
  obtain ⟨t, known, number, rfl, written⟩ := normalize?_eq_some h
  obtain ⟨g, more, sub, digits, some_digit, hmore, hsub, hnumber⟩ := number_of_isNumberFrom written
  refine ⟨⟨t, g, more, sub⟩, ⟨known, ⟨some_digit rfl, digits⟩, hmore, hsub⟩, ?_⟩
  rw [hnumber]
  rfl

/-- The ports that devices come with are spelled. -/
theorem isSpelled_factoryPort (type : DeviceType) : ∀ p ∈ Device.factoryPorts type, IsSpelled p.1 := by
  have normal : ∀ p ∈ Device.factoryPorts type, normalize? p.1 = some p.1 := by
    cases type <;> decide
  exact fun p hp => isSpelled_of_normalize? (normal p hp)

theorem isSpelled_ofGroup {group : Int} (low : 1 ≤ group) : IsSpelled (ofGroup group) := by
  obtain ⟨n, rfl⟩ := Int.eq_ofNat_of_zero_le (by omega : 0 ≤ group)
  have known : "Port-channel" ∈ types.map Prod.fst := by decide
  refine ⟨⟨"Port-channel", Nat.toDigits 10 n, [], none⟩, ⟨known, .of_toDigits n, by simp, by simp⟩, ?_⟩
  show "Port-channel" ++ String.ofList (Nat.toDigits 10 n ++ []) = _
  rw [List.append_nil]
  rfl

end InterfaceName

end NetRack
