import Mathlib.Tactic.SplitIfs
import NetRack.Json.Parser
import NetRack.Json.Printer

/-!
# Texts in quotes

A text whose characters are printed as they are is read back.  Each character is printed so that the
reader knows where it ends, none is printed as a bare quote, and the characters of a text are no
halves of pairs that the reader could join.
-/

namespace NetRack

/-! ## Halves of pairs -/

namespace Text

theorem isHighHalf_toNat (c : Char) : isHighHalf c.toNat = false := by
  have valid : c.toNat < 0xD800 ∨ 0xDFFF < c.toNat ∧ c.toNat < 0x110000 := c.valid
  simp only [isHighHalf, Bool.and_eq_false_iff, decide_eq_false_iff_not]
  omega

theorem joinHalves_eq_self {units : List Nat} (h : ∀ u ∈ units, isHighHalf u = false) :
    joinHalves units = units := by
  induction units using joinHalves.induct with
  | case1 high low rest pair ih => simp [h high (by simp)] at pair
  | case2 high low rest _ ih =>
    rw [joinHalves, h high (by simp), Bool.false_and, if_neg Bool.false_ne_true,
      ih fun u hu => h u (by simp [hu])]
  | case3 units short =>
    unfold joinHalves
    split
    · exact absurd rfl (short _ _ _)
    · rfl

theorem joinHalves_pointsOf (s : String) : joinHalves (pointsOf s) = pointsOf s :=
  joinHalves_eq_self fun u hu => by
    obtain ⟨c, -, rfl⟩ := List.mem_map.1 hu
    exact isHighHalf_toNat c

end Text

namespace Json

@[simp] theorem ofPoints_pointsOf (s : String) : ofPoints (Text.pointsOf s) = .text s := by
  rw [ofPoints, Text.ofPoints?_pointsOf]

/-! ## Characters -/

section Characters

variable {cs : List Char}

/-- The result of reading a text with one more code point in front. -/
def withPoint (n : Nat) (r : Except ReadFault (List Nat × List Char)) :
    Except ReadFault (List Nat × List Char) := r.map fun p => (n :: p.1, p.2)

theorem bind_eq_withPoint (n : Nat) (r : Except ReadFault (List Nat × List Char)) :
    (do let (units, rest) ← r; return (n :: units, rest)) = withPoint n r := by
  cases r <;> rfl

theorem readUnits_short {e : Char} {n : Nat} (he : e ≠ 'u') (h : shortEscape? e = some n) :
    readUnits ('\\' :: e :: cs) = withPoint n (readUnits cs) := by
  rw [readUnits.eq_4 _ _ fun _ _ _ _ _ heq => absurd heq he, h]
  exact bind_eq_withPoint n _

/-- The unit that four digits spell. -/
def unitOf? : List Char → Option Nat
  | [a, b, c, d] => hexUnit? a b c d
  | _ => none

theorem unitOf?_hex : ∀ m : Fin 0x20, unitOf? (Text.hex 4 m) = some m.val := by decide

theorem readUnits_unit {n : Nat} (h : n < 0x20) :
    readUnits (unitEscape n ++ cs) = withPoint n (readUnits cs) := by
  have value := unitOf?_hex ⟨n, h⟩
  unfold unitOf? at value
  split at value
  · rename_i a b c d digits
    rw [unitEscape, show Text.hex 4 n = [a, b, c, d] from digits]
    show readUnits ('\\' :: 'u' :: a :: b :: c :: d :: cs) = _
    rw [readUnits, value]
    exact bind_eq_withPoint n _
  · cases value

theorem readUnits_plain {c : Char} (quote : c ≠ '"') (slash : c ≠ '\\') (h : ¬ c.toNat < 0x20) :
    readUnits (c :: cs) = withPoint c.toNat (readUnits cs) := by
  rw [readUnits.eq_5 c cs quote (fun _ _ _ _ _ hc _ => slash hc) fun _ _ hc _ => slash hc,
    if_neg (by simp [h, slash])]
  exact bind_eq_withPoint _ _

theorem readUnits_printChar (c : Char) :
    readUnits (printChar false c ++ cs) = withPoint c.toNat (readUnits cs) := by
  have escaped {e : Char} (he : e ≠ 'u') (h : shortEscape? e = some c.toNat) :
      readUnits (['\\', e] ++ cs) = withPoint c.toNat (readUnits cs) := readUnits_short he h
  unfold printChar
  simp only [beq_iff_eq, Bool.false_and, Bool.false_eq_true, if_false]
  split_ifs with quote slash newline back tab eight twelve control
  · subst quote; exact escaped (by decide) (by decide)
  · subst slash; exact escaped (by decide) (by decide)
  · subst newline; exact escaped (by decide) (by decide)
  · subst back; exact escaped (by decide) (by decide)
  · subst tab; exact escaped (by decide) (by decide)
  · exact escaped (by decide) (by rw [eight]; decide)
  · exact escaped (by decide) (by rw [twelve]; decide)
  · exact readUnits_unit control
  · exact readUnits_plain quote slash control

end Characters

/-! ## Whole texts -/

theorem readUnits_printed (cs rest : List Char) :
    readUnits (cs.flatMap (printChar false) ++ '"' :: rest) = .ok (cs.map Char.toNat, rest) := by
  induction cs with
  | nil => rfl
  | cons c cs ih =>
    rw [List.flatMap_cons, List.append_assoc, readUnits_printChar, ih]
    rfl

/-- The text that was printed is read up to its closing quote. -/
theorem readText_printed (s : String) (rest : List Char) :
    readText (s.toList.flatMap (printChar false) ++ '"' :: rest) = .ok (Text.pointsOf s, rest) := by
  rw [readText, readUnits_printed]
  exact congrArg (fun points => Except.ok (points, rest)) (Text.joinHalves_pointsOf s)

end Json

end NetRack
