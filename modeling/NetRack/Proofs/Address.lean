import NetRack.Ipv4.Network

/-!
# Written addresses

Numerals, addresses, masks and networks are read back from what is written for them, so whatever a
console writes into a record can be read by all who look at the record later.
-/

namespace NetRack

/-! ## Numerals -/

namespace Text

theorem isDigit_of_mem_toDigits {k : Nat} {c : Char} (h : c ∈ Nat.toDigits 10 k) : c.isDigit = true :=
  Nat.isDigit_of_mem_toDigits (by omega) (by omega) h

section Signs

variable {k : Nat}

theorem toList_intText_natCast : (intText (k : Int)).toList = Nat.toDigits 10 k := by
  show (natText k).toList = _
  rw [natText, String.toList_ofList]

theorem toList_intText_neg (h : 0 < k) : (intText (-(k : Int))).toList = '-' :: Nat.toDigits 10 k := by
  obtain ⟨m, rfl⟩ := Nat.exists_eq_add_one_of_ne_zero (Nat.ne_of_gt h)
  show ("-" ++ natText (m + 1)).toList = _
  rw [natText, String.toList_append, String.toList_ofList]
  simp

/-- A whole number is a natural number or the negative of a positive one. -/
theorem sign_cases {motive : Int → Prop} (n : Int) (natural : ∀ k : Nat, motive k)
    (negative : ∀ k : Nat, 0 < k → motive (-(k : Int))) : motive n := by
  rcases Int.eq_nat_or_neg n with ⟨k, rfl | rfl⟩
  · exact natural k
  · rcases Nat.eq_zero_or_pos k with rfl | hk
    · exact natural 0
    · exact negative k hk

theorem intText_injective {m n : Int} (h : intText m = intText n) : m = n := by
  have digits {j k : Nat} (hd : Nat.toDigits 10 j = Nat.toDigits 10 k) : j = k := by
    rw [← Nat.ofDigitChars_ten_toDigits (n := j), hd, Nat.ofDigitChars_ten_toDigits]
  have unlike {j k : Nat} (hd : Nat.toDigits 10 j = '-' :: Nat.toDigits 10 k) : False :=
    absurd (isDigit_of_mem_toDigits (c := '-') (k := j) (by simp [hd])) (by decide)
  have chars := congrArg String.toList h
  cases m using sign_cases with
  | natural j =>
    cases n using sign_cases with
    | natural k =>
      rw [toList_intText_natCast, toList_intText_natCast] at chars
      rw [digits chars]
    | negative k hk =>
      rw [toList_intText_natCast, toList_intText_neg hk] at chars
      exact (unlike chars).elim
  | negative j hj =>
    cases n using sign_cases with
    | natural k =>
      rw [toList_intText_neg hj, toList_intText_natCast] at chars
      exact (unlike chars.symm).elim
    | negative k hk =>
      rw [toList_intText_neg hj, toList_intText_neg hk] at chars
      rw [digits (List.cons.inj chars).2]

end Signs

theorem exists_eq_of_isDigit {c : Char} (h : c.isDigit = true) : ∃ d : Fin 10, Char.ofNat ('0'.toNat + d) = c := by
  simp only [Char.isDigit, Bool.and_eq_true, decide_eq_true_eq] at h
  have low : 48 ≤ c.toNat := h.1
  have high : c.toNat ≤ 57 := h.2
  refine ⟨⟨c.toNat - 48, by omega⟩, ?_⟩
  show Char.ofNat (48 + (c.toNat - 48)) = c
  rw [Nat.add_sub_cancel' low, Char.ofNat_toNat]

/-- The digits `0` to `9` are decimal digits of their usual values, and neither margins nor marks. -/
theorem plain_of_isDigit {c : Char} (h : c.isDigit = true) :
    digitValue? c = some (c.toNat - '0'.toNat) ∧ isMargin c = false ∧ c ≠ '-' ∧ c ≠ '+' ∧ c ≠ '_' := by
  have all : ∀ d : Fin 10, let c := Char.ofNat ('0'.toNat + d)
      digitValue? c = some (c.toNat - '0'.toNat) ∧ isMargin c = false ∧ c ≠ '-' ∧ c ≠ '+' ∧ c ≠ '_' := by
    decide
  obtain ⟨d, rfl⟩ := exists_eq_of_isDigit h
  exact all d

theorem trimMargins_eq_self {cs : List Char} (h : ∀ c ∈ cs, isMargin c = false) : trimMargins cs = cs := by
  have untouched {ds : List Char} (hds : ∀ c ∈ ds, isMargin c = false) : ds.dropWhile isMargin = ds := by
    cases ds with
    | nil => rfl
    | cons c rest => exact List.dropWhile_cons_of_neg (by simp [hds c List.mem_cons_self])
  unfold trimMargins
  rw [untouched h, untouched fun c hc => h c (List.mem_reverse.1 hc), List.reverse_reverse]

section Digits

variable {cs : List Char} (h : ∀ c ∈ cs, c.isDigit = true)

include h

theorem digitsValue_eq : digitsValue cs = Nat.ofDigitChars 10 cs 0 := by
  have values : cs.filterMap digitValue? = cs.map fun c => c.toNat - '0'.toNat := by
    induction cs with
    | nil => rfl
    | cons c rest ih =>
      rw [List.filterMap_cons, (plain_of_isDigit (h c (by simp))).1, List.map_cons,
        ih fun d hd => h d (by simp [hd])]
  unfold digitsValue ofDigits
  rw [values, List.foldl_map]
  rfl

end Digits

end Text

namespace Address

/-! ## Octets -/

theorem readOctet?_natText {n : Nat} (h : n < 256) : readOctet? (Text.natText n).toList = some n := by
  have all : ((List.range 256).all fun m => readOctet? (Text.natText m).toList == some m) = true := by
    decide +kernel
  exact eq_of_beq (List.all_eq_true.1 all n (List.mem_range.2 h))

theorem not_mark_of_numeral {n : Nat} {c : Char} (hc : c ∈ (Text.natText n).toList) :
    c ≠ '.' ∧ c ≠ '/' := by
  rw [Text.natText, String.toList_ofList] at hc
  have digit : c.isDigit = true := Text.isDigit_of_mem_toDigits hc
  constructor <;> rintro rfl <;> exact absurd digit (by decide)

theorem octets_lt (a : Address) : ∀ o ∈ a.octets, o < 256 := by
  have hlt : a.toNat < 2 ^ 32 := a.bits.isLt
  intro o ho
  simp only [octets, List.mem_cons, List.not_mem_nil, or_false] at ho
  rcases ho with rfl | rfl | rfl | rfl <;> omega

theorem ofOctets_octets (a : Address) :
    ofOctets (a.toNat / 16777216) (a.toNat / 65536 % 256) (a.toNat / 256 % 256) (a.toNat % 256) = a := by
  have hlt : a.toNat < 2 ^ 32 := a.bits.isLt
  unfold ofOctets
  congr
  apply BitVec.eq_of_toNat_eq
  rw [BitVec.toNat_ofNat]
  show _ = a.toNat
  omega

/-! ## Texts -/

theorem splitChars_append {mark : Char} {pending cs rest : List Char} (h : ∀ c ∈ cs, c ≠ mark) :
    splitChars mark pending (cs ++ rest) = splitChars mark (cs.reverse ++ pending) rest := by
  induction cs generalizing pending with
  | nil => rfl
  | cons c cs ih =>
    have hc : c ≠ mark := h c (by simp)
    rw [List.cons_append, splitChars, if_neg hc, ih fun d hd => h d (by simp [hd])]
    simp

theorem splitChars_mark {mark : Char} {cs rest : List Char} (h : ∀ c ∈ cs, c ≠ mark) :
    splitChars mark [] (cs ++ mark :: rest) = cs :: splitChars mark [] rest := by
  rw [splitChars_append h, splitChars, if_pos rfl]
  simp

theorem splitChars_last {mark : Char} {cs : List Char} (h : ∀ c ∈ cs, c ≠ mark) :
    splitChars mark [] cs = [cs] := by
  have := @splitChars_append _ [] _ [] h
  simpa [splitChars] using this

theorem toList_text (a : Address) :
    a.text.toList = (Text.natText (a.toNat / 16777216)).toList ++
      '.' :: ((Text.natText (a.toNat / 65536 % 256)).toList ++
      '.' :: ((Text.natText (a.toNat / 256 % 256)).toList ++
      '.' :: (Text.natText (a.toNat % 256)).toList)) := by
  simp [text, octets, String.intercalate_cons_cons]

/-- An address is read back from its text. -/
theorem read?_text (a : Address) : read? a.text = some a := by
  have hlt := octets_lt a
  simp only [octets, List.mem_cons, List.not_mem_nil, or_false, forall_eq_or_imp, forall_eq] at hlt
  obtain ⟨h1, h2, h3, h4⟩ := hlt
  unfold read? readChars?
  rw [toList_text, splitChars_mark fun c hc => (not_mark_of_numeral hc).1,
    splitChars_mark fun c hc => (not_mark_of_numeral hc).1,
    splitChars_mark fun c hc => (not_mark_of_numeral hc).1,
    splitChars_last fun c hc => (not_mark_of_numeral hc).1]
  simp only [readOctet?_natText h1, readOctet?_natText h2, readOctet?_natText h3,
    readOctet?_natText h4]
  exact congrArg some (ofOctets_octets a)

@[simp] theorem read_text (a : Address) : read a.text = .ok a := by
  unfold read
  rw [read?_text]

@[simp] theorem readField_text (a : Address) : readField (some a.text) = .ok a := read_text a

theorem text_ne_empty (a : Address) : a.text ≠ "" := by
  intro h
  have none_read : read? "" = none := by decide
  have := read?_text a
  rw [h, none_read] at this
  cases this

@[simp] theorem isEmpty_text (a : Address) : a.text.isEmpty = false := by
  rw [Bool.eq_false_iff]
  intro h
  exact text_ne_empty a (String.isEmpty_iff.1 h)

theorem slash_not_mem_text (a : Address) : a.text.toList.contains '/' = false := by
  rw [Bool.eq_false_iff, toList_text]
  intro h
  rw [List.contains_iff_mem] at h
  simp only [List.mem_append, List.mem_cons] at h
  rcases h with h | h | h | h | h | h | h
  · exact (not_mark_of_numeral h).2 rfl
  · exact absurd h (by decide)
  · exact (not_mark_of_numeral h).2 rfl
  · exact absurd h (by decide)
  · exact (not_mark_of_numeral h).2 rfl
  · exact absurd h (by decide)
  · exact (not_mark_of_numeral h).2 rfl

theorem arePlainDigits_text (a : Address) : Text.arePlainDigits a.text.toList = false := by
  rw [toList_text]
  unfold Text.arePlainDigits
  simp [Text.isPlainDigit]

/-! ## Masks -/

theorem netmaskLength?_netmask {n : Nat} (h : n ≤ 32) : (netmask n).netmaskLength? = some n := by
  have all : ((List.range 33).all fun m => (netmask m).netmaskLength? == some m) = true := by
    decide
  exact eq_of_beq (List.all_eq_true.1 all n (List.mem_range.2 (by omega)))

theorem netmaskLength?_le {a : Address} {n : Nat} (h : a.netmaskLength? = some n) : n ≤ 32 := by
  have := List.mem_of_find?_eq_some h
  simp at this
  omega

theorem isNetmask_iff {a : Address} : a.isNetmask = true ↔ ∃ n, n ≤ 32 ∧ a = netmask n := by
  constructor
  · intro h
    obtain ⟨n, hn⟩ := Option.isSome_iff_exists.1 h
    exact ⟨n, netmaskLength?_le hn, (netmask_of_netmaskLength? hn).symm⟩
  · rintro ⟨n, hn, rfl⟩
    unfold isNetmask
    rw [netmaskLength?_netmask hn]
    rfl

end Address

/-! ## Networks -/

namespace Network

theorem readMask_netmask {n : Nat} (h : n ≤ 32) : readMask (Address.netmask n).text = .ok n := by
  have chars : Address.readChars? (Address.netmask n).text.toList = some (Address.netmask n) :=
    Address.read?_text _
  simp only [readMask, readLength?, Address.arePlainDigits_text, Bool.false_eq_true, if_false, chars,
    Address.netmaskLength?_netmask h]

theorem readPair_text (a : Address) {n : Nat} (h : n ≤ 32) :
    readPair a.text (Address.netmask n).text = .ok (a, n) := by
  unfold readPair
  rw [Address.slash_not_mem_text, Address.slash_not_mem_text, Address.read_text, readMask_netmask h]
  rfl

/-- The network around an address is read back from the texts of the address and the mask. -/
theorem readAround_text (a : Address) {n : Nat} (h : n ≤ 32) :
    readAround a.text (Address.netmask n).text = .ok (around a n) := by
  unfold readAround
  rw [readPair_text a h]
  rfl

/-- A network is read back from the texts of its base and its mask. -/
theorem read_text (n : Network) (h : n.length ≤ 32) : read n.base.text n.mask.text = .ok n := by
  unfold read mask
  rw [readPair_text n.base h]
  show (if h : n.base.masked n.length = n.base then _ else _) = _
  rw [dif_pos n.aligned]
  rfl

end Network

end NetRack
