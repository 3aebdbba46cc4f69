import NetRack.Proofs.Resolver.WrittenForm

/-!
# Short names of interfaces

A short name abbreviates the type that a name begins with, by letters that no other type begins with, and leaves
the rest of the name alone.  So a short name is read as the name is, whatever the text, and names that can be read
are told apart by their short forms.
-/

namespace NetRack.InterfaceName

open Text

theorem not_isBlank_of_isTypeChar {c : Char} (h : isTypeChar c = true) : isBlank c = false := by
  rw [← Bool.not_eq_true]
  intro blank
  obtain ⟨span, hspan, low, high⟩ := (inSpans_iff _ _).1 blank
  have letter : c.toNat = 0x2D ∨ 0x41 ≤ c.toNat ∧ c.toNat ≤ 0x7A := by
    simp only [isTypeChar, isPlainLetter, Bool.or_eq_true, Bool.and_eq_true, decide_eq_true_eq, beq_iff_eq] at h
    rcases h with (⟨low, high⟩ | ⟨low, high⟩) | rfl
    · exact Or.inr ⟨low, Nat.le_trans high (by decide)⟩
    · exact Or.inr ⟨Nat.le_trans (by decide) low, high⟩
    · exact Or.inl rfl
  have apart : ∀ span ∈ blankSpans, span.2 < 0x2D ∨ 0x7A < span.1 := by decide
  have := apart span hspan
  omega

theorem unbroken_takeWhile {cs : List Char} (h : cs.takeWhile isTypeChar ≠ []) : Unbroken (cs.takeWhile isTypeChar) :=
  ⟨h, fun _ hc => not_isBlank_of_isTypeChar (List.mem_takeWhile_imp hc)⟩

/-- The letters that a short name has for those of a type. -/
def shortType (word : List Char) : String :=
  ((types.find? fun e => e.1 = String.ofList word).map Prod.snd).getD (String.ofList word)

/-- The letters for a type are again letters, and stand for the same. -/
theorem shortType_spec (word : List Char) (letters : ∀ c ∈ word, isTypeChar c = true) (some_letter : word ≠ []) :
    (∀ c ∈ (shortType word).toList, isTypeChar c = true) ∧ (shortType word).toList ≠ [] ∧
      ∀ number, joined? (shortType word).toList number = joined? word number := by
  unfold shortType
  cases hf : types.find? fun e => e.1 = String.ofList word with
  | none => simpa using ⟨letters, some_letter⟩
  | some e =>
    have all : ∀ e ∈ types, e.2.toList.all isTypeChar = true ∧ e.2.toList ≠ [] ∧
        (e.2.toList.head?.any isPlainLetter = true ∧ matchingTypes (lowerChars e.2.toList) = [e.1]) ∧
        e.1.toList.head?.any isPlainLetter = true ∧ matchingTypes (lowerChars e.1.toList) = [e.1] := by decide
    obtain ⟨abbreviation, nonempty, ⟨head, matching⟩, head', matching'⟩ := all e (List.mem_of_find?_eq_some hf)
    have type : e.1 = String.ofList word := by simpa using List.find?_some hf
    have written : e.1.toList = word := by rw [type, String.toList_ofList]
    refine ⟨List.all_eq_true.1 abbreviation, nonempty, fun number => ?_⟩
    rw [← written]
    unfold joined?
    simp only [Option.map_some, Option.getD_some, head, matching, head', matching']

/-- The line of a text is the text but for a line end. -/
theorem trimEndChars_of_singleLine? {cs body : List Char} (h : singleLine? cs = some body) :
    trimEndChars body = trimEndChars cs := by
  obtain ⟨-, heq⟩ := Option.ite_none_left_eq_some.1 h
  rw [Option.some.inj heq.symm]
  split
  · rename_i last
    conv_rhs => rw [← List.dropLast_append_getLast? '\n' last]
    exact (trimEndChars_append_blanks fun c hc => List.mem_singleton.1 hc ▸ (by decide)).symm
  · rfl

theorem head?_trimEndChars {cs : List Char} {c : Char} (h : c ∈ (trimEndChars cs).head?) : c ∈ cs.head? := by
  obtain ⟨rest, heq⟩ := List.rdropWhile_prefix isBlank cs
  have heq : trimEndChars cs ++ rest = cs := heq
  rw [← heq, List.head?_append, h]
  rfl

/-- A short name stands for what the name stands for, whatever the text. -/
theorem normalize?_short (text : String) : normalize? (short text) = normalize? text := by
  unfold short splitType?
  dsimp only
  by_cases none : (text.toList.takeWhile isTypeChar).isEmpty = true
  · rw [if_pos none]
  rw [if_neg none]
  rw [List.isEmpty_iff] at none
  generalize hword : text.toList.takeWhile isTypeChar = word at none
  generalize hrest : text.toList.dropWhile isTypeChar = rest
  have chars : text.toList = word ++ rest := by rw [← hword, ← hrest, List.takeWhile_append_dropWhile]
  have unbroken : Unbroken word := hword ▸ unbroken_takeWhile (by rw [hword]; exact none)
  have letters : ∀ c ∈ word, isTypeChar c = true := fun c hc => List.mem_takeWhile_imp (hword ▸ hc)
  have ends : ∀ c ∈ (trimEndChars rest).head?, isTypeChar c = false := by
    intro c hc
    have head := List.head?_dropWhile_not isTypeChar text.toList
    rw [hrest, head?_trimEndChars hc] at head
    exact head
  cases hline : singleLine? rest with
  | none => rfl
  | some body =>
    obtain ⟨letters', nonempty, same⟩ := shortType_spec word letters none
    have unbroken' : Unbroken (shortType word).toList :=
      ⟨nonempty, fun c hc => not_isBlank_of_isTypeChar (letters' c hc)⟩
    show normalize? (shortType word ++ String.ofList body) = normalize? text
    have short_chars : trimChars (shortType word ++ String.ofList body).toList =
        (shortType word).toList ++ trimEndChars rest := by
      rw [String.toList_append, String.toList_ofList, trimChars_append unbroken', trimEndChars_of_singleLine? hline]
    rw [normalize?_of_split short_chars letters' ends, same,
      normalize?_of_split (by rw [chars, trimChars_append unbroken]) letters ends]

/-- The name that a text stands for stands for itself, and so does its short form.  So texts that have one short
name, or stand for names that have one, stand for the same name. -/
theorem normalize?_stable {a b m n : String} (ha : normalize? a = some m) (hb : normalize? b = some n) :
    normalize? m = some m ∧ normalize? (short m) = some m ∧ (short m = short n → m = n) ∧
      (short a = short b → m = n) := by
  have named : normalize? (short m) = some m := by rw [normalize?_short, normalize?_idem ha]
  refine ⟨normalize?_idem ha, named, fun h => ?_, fun h => ?_⟩
  · rw [h, normalize?_short, normalize?_idem hb] at named
    exact (Option.some.inj named).symm
  · rw [← normalize?_short, h, normalize?_short, hb] at ha
    exact (Option.some.inj ha).symm

/-- Two spellings of a bundle: both are read as one name, which has the short name that each of them has. -/
theorem portChannel_stable :
    normalize? "Port-channel 7" = some "Port-channel7" ∧ normalize? "po7" = some "Port-channel7" ∧
      short "Port-channel7" = "Po7" ∧ normalize? (short "Port-channel7") = some "Port-channel7" := by
  have full : normalize? "Port-channel 7" = some "Port-channel7" := by decide
  have brief : normalize? "po7" = some "Port-channel7" := by decide
  exact ⟨full, brief, by decide, (normalize?_stable full brief).2.1⟩

end NetRack.InterfaceName
