import NetRack.Proofs.Command.Bounds
import NetRack.Proofs.Order
import NetRack.Proofs.Resolver.WrittenForm
import Mathlib.Data.List.Sort

/-!
# Lists of VLANs, written and read

Numbers are written as their maximal runs, and a list that is read joins the numbers of its parts.  The parts of a
written list are its runs, each of which is read as the numbers in it, so what is read are the numbers that were
written, in order.
-/

namespace NetRack

/-! ## Sets of numbers -/

namespace VlanSet

theorem ext_ids {s t : VlanSet} (h : s.ids = t.ids) : s = t := by
  cases s
  cases t
  cases h
  rfl

/-- Sets with the same members are the same. -/
theorem ext_mem {s t : VlanSet} (h : ∀ v, v ∈ s.ids ↔ v ∈ t.ids) : s = t :=
  ext_ids (s.ascending.eq_of_mem_iff t.ascending fun {v} => h v)

theorem mem_union {s t : VlanSet} {v : Int} : v ∈ (s.union t).ids ↔ v ∈ s.ids ∨ v ∈ t.ids := mem_mergeIds _ _

theorem mem_interval {low v : Int} {count : Nat} :
    v ∈ (interval low count).ids ↔ low ≤ v ∧ v < low + count := by
  unfold interval
  rw [List.mem_map]
  constructor
  · rintro ⟨i, hi, rfl⟩
    have := List.mem_range.1 hi
    omega
  · intro within
    exact ⟨(v - low).toNat, List.mem_range.2 (by omega), by omega⟩

theorem mem_interval_to {low high v : Int} (ordered : low ≤ high) :
    v ∈ (interval low (high - low + 1).toNat).ids ↔ low ≤ v ∧ v ≤ high := by
  rw [mem_interval]
  omega

theorem mem_ofList {vs : List Int} {v : Int} : v ∈ (ofList vs).ids ↔ v ∈ vs := by
  induction vs with
  | nil => simp [ofList, empty]
  | cons w ws ih =>
    show v ∈ ((single w).union (ofList ws)).ids ↔ _
    rw [mem_union, ih, List.mem_cons]
    exact or_congr_left List.mem_singleton

theorem mem_diff {s t : VlanSet} {v : Int} : v ∈ (s.diff t).ids ↔ v ∈ s.ids ∧ v ∉ t.ids := by
  simp [diff]

theorem mem_all {v : Int} : v ∈ all.ids ↔ IsVlan v := by
  unfold all IsVlan
  rw [mem_interval]
  omega

/-- What a trunk is given are VLANs if those that are listed for it are. -/
theorem isVlan_getD {listed : Option VlanSet} (vlans : ∀ s, listed = some s → ∀ v ∈ s.ids, IsVlan v) :
    ∀ v ∈ (listed.getD .all).ids, IsVlan v := by
  cases listed with
  | none => exact fun v hv => mem_all.1 hv
  | some s => exact vlans s rfl

end VlanSet

/-! ## Runs -/

/-- Runs tell numbers: each of them has some, the next one begins past a gap, and they have these numbers. -/
structure AreRuns (runs : List (Int × Int)) (ids : List Int) : Prop where
  each : ∀ run ∈ runs, run.1 ≤ run.2
  apart : runs.Pairwise fun run next => run.2 + 1 < next.1
  mem : ∀ v, v ∈ ids ↔ ∃ run ∈ runs, run.1 ≤ v ∧ v ≤ run.2

/-- What the numbers from a run that is under way and some further ones are told by. -/
theorem runsFrom_spec {rest : List Int} (ascending : rest.Pairwise (· < ·)) :
    ∀ low high : Int, low ≤ high → (∀ v ∈ rest, high < v) →
      (∀ run ∈ runsFrom low high rest, low ≤ run.1 ∧ run.1 ≤ run.2) ∧
      ((runsFrom low high rest).Pairwise fun run next => run.2 + 1 < next.1) ∧
      ∀ v, (low ≤ v ∧ v ≤ high) ∨ v ∈ rest ↔ ∃ run ∈ runsFrom low high rest, run.1 ≤ v ∧ v ≤ run.2 := by
  induction rest with
  | nil =>
    intro low high some_number _
    refine ⟨?_, List.pairwise_singleton _ _, ?_⟩
    · intro run hrun
      rw [List.mem_singleton.1 hrun]
      exact ⟨Int.le_refl low, some_number⟩
    · intro v
      simp [runsFrom]
  | cons w rest ih =>
    intro low high some_number later
    obtain ⟨first, ascending⟩ := List.pairwise_cons.1 ascending
    have next : high < w := later w (by simp)
    unfold runsFrom
    by_cases adjacent : w = high + 1
    · rw [if_pos adjacent]
      obtain ⟨each, apart, mem⟩ := ih ascending low w (by omega) first
      refine ⟨each, apart, fun v => ?_⟩
      rw [← mem, List.mem_cons]
      constructor
      · rintro (within | rfl | there)
        · exact Or.inl ⟨within.1, by omega⟩
        · exact Or.inl ⟨by omega, Int.le_refl v⟩
        · exact Or.inr there
      · rintro (within | there)
        · by_cases last : v = w
          · exact Or.inr (Or.inl last)
          · exact Or.inl ⟨within.1, by omega⟩
        · exact Or.inr (Or.inr there)
    · rw [if_neg adjacent]
      obtain ⟨each, apart, mem⟩ := ih ascending w w (Int.le_refl w) first
      refine ⟨?_, List.pairwise_cons.2 ⟨?_, apart⟩, ?_⟩
      · intro run hrun
        rcases List.mem_cons.1 hrun with rfl | hrun
        · exact ⟨Int.le_refl _, some_number⟩
        · obtain ⟨from_next, some_number⟩ := each run hrun
          exact ⟨by omega, some_number⟩
      · intro run hrun
        obtain ⟨from_next, -⟩ := each run hrun
        show high + 1 < run.1
        omega
      · intro v
        have only : (w ≤ v ∧ v ≤ w) ↔ v = w := by omega
        rw [List.exists_mem_cons_iff, ← mem, only, List.mem_cons]

theorem vlanRuns_areRuns {ids : List Int} (ascending : ids.Pairwise (· < ·)) : AreRuns (vlanRuns ids) ids := by
  cases ids with
  | nil => exact ⟨fun _ hrun => (List.not_mem_nil hrun).elim, List.Pairwise.nil, fun v => by simp [vlanRuns]⟩
  | cons w rest =>
    obtain ⟨first, ascending⟩ := List.pairwise_cons.1 ascending
    obtain ⟨each, apart, mem⟩ := runsFrom_spec ascending w w (Int.le_refl w) first
    refine ⟨fun run hrun => (each run hrun).2, apart, fun v => ?_⟩
    have only : (w ≤ v ∧ v ≤ w) ↔ v = w := by omega
    rw [vlanRuns, ← mem, only, List.mem_cons]


section Runs

variable {runs : List (Int × Int)} {ids : List Int}

theorem AreRuns.ne_nil (h : AreRuns runs ids) (some_number : ids ≠ []) : runs ≠ [] := by
  rintro rfl
  obtain ⟨v, hv⟩ := List.exists_mem_of_ne_nil _ some_number
  obtain ⟨run, hrun, -⟩ := (h.mem v).1 hv
  cases hrun

/-- Runs of numbers of VLANs begin and end with such numbers. -/
theorem AreRuns.isVlan (h : AreRuns runs ids) (vlans : ∀ v ∈ ids, IsVlan v) :
    ∀ run ∈ runs, IsVlan run.1 ∧ IsVlan run.2 ∧ run.1 ≤ run.2 := by
  intro run hrun
  have ordered := h.each run hrun
  exact ⟨vlans _ ((h.mem _).2 ⟨run, hrun, Int.le_refl _, ordered⟩),
    vlans _ ((h.mem _).2 ⟨run, hrun, ordered, Int.le_refl _⟩), ordered⟩

end Runs

/-! ## Reading lists -/

namespace Argument

/-- A part of a list names numbers: one, or all from one to another. -/
inductive Names (part : List Char) : Int × Int → Prop where
  | one {v : Int} (bare : '-' ∉ part) (read : readVlan part = .ok v) : Names part (v, v)
  | range {front rest : List Char} {low high : Int} (split : part = front ++ '-' :: rest) (bare : '-' ∉ front)
      (first : readVlan front = .ok low) (last : readVlan rest = .ok high) (ordered : low ≤ high) :
      Names part (low, high)

/-- A list, with commas between its parts, lists the numbers that these name. -/
def Lists (raw : String) (s : VlanSet) : Prop :=
  ∃ runs, List.Forall₂ Names (Address.splitChars ',' [] raw.toList) runs ∧
    ∀ v, v ∈ s.ids ↔ ∃ run ∈ runs, run.1 ≤ v ∧ v ≤ run.2

theorem Names.ordered {part : List Char} {run : Int × Int} (h : Names part run) : run.1 ≤ run.2 := by
  cases h with
  | one => exact Int.le_refl _
  | range split bare first last ordered => exact ordered

section Lists

variable {part front rest : List Char} {parts : List (List Char)} {s set : VlanSet}

theorem takeWhile_hyphen (bare : '-' ∉ front) : (front ++ '-' :: rest).takeWhile (· ≠ '-') = front := by
  rw [List.takeWhile_append_of_pos fun c hc => decide_eq_true (ne_of_mem_of_not_mem hc bare)]
  simp

theorem dropWhile_hyphen (bare : '-' ∉ front) : (front ++ '-' :: rest).dropWhile (· ≠ '-') = '-' :: rest := by
  rw [List.dropWhile_append_of_pos fun c hc => decide_eq_true (ne_of_mem_of_not_mem hc bare)]
  simp

/-- The numbers that are read from a part of a list are those that it names. -/
theorem readVlanPart_eq_ok_iff :
    readVlanPart part = .ok s ↔ ∃ run, Names part run ∧ ∀ v, v ∈ s.ids ↔ run.1 ≤ v ∧ v ≤ run.2 := by
  have single (n v : Int) : v ∈ (VlanSet.single n).ids ↔ n ≤ v ∧ v ≤ n := by
    show v ∈ [n] ↔ _
    rw [List.mem_singleton]
    omega
  unfold readVlanPart
  constructor
  · intro h
    split at h
    · rename_i hyphen
      obtain ⟨front, rest, rfl, bare⟩ := List.eq_append_cons_of_mem (List.contains_iff_mem.1 hyphen)
      rw [takeWhile_hyphen bare, dropWhile_hyphen bare, List.drop_one, List.tail_cons] at h
      obtain ⟨low, first, h⟩ := bind_eq_ok.1 h
      obtain ⟨high, last, h⟩ := bind_eq_ok.1 h
      split at h
      · rename_i ordered
        cases h
        exact ⟨(low, high), .range rfl bare first last ordered, fun v => VlanSet.mem_interval_to ordered⟩
      · cases h
    · rename_i hyphen
      obtain ⟨v, read, h⟩ := bind_eq_ok.1 h
      cases h
      exact ⟨(v, v), .one (fun there => hyphen (List.contains_iff_mem.2 there)) read, single v⟩
  · rintro ⟨run, names, mem⟩
    cases names with
    | @one v bare read =>
      rw [if_neg (fun hyphen => bare (List.contains_iff_mem.1 hyphen)), read, ok_bind]
      exact congrArg _ (VlanSet.ext_mem fun w => (single v w).trans (mem w).symm)
    | @range front rest low high split bare first last ordered =>
      subst split
      rw [if_pos (by simp), takeWhile_hyphen bare, dropWhile_hyphen bare, List.drop_one, List.tail_cons, first, last,
        ok_bind, ok_bind, if_pos ordered]
      exact congrArg _ (VlanSet.ext_mem fun v => (VlanSet.mem_interval_to ordered).trans (mem v).symm)

theorem foldlM_eq_ok_iff :
    parts.foldlM (fun set part => do return (← readVlanPart part).union set) set = .ok s ↔
      ∃ runs, List.Forall₂ Names parts runs ∧
        ∀ v, v ∈ s.ids ↔ v ∈ set.ids ∨ ∃ run ∈ runs, run.1 ≤ v ∧ v ≤ run.2 := by
  induction parts generalizing set with
  | nil =>
    constructor
    · intro h
      cases h
      exact ⟨[], .nil, fun v => by simp⟩
    · rintro ⟨runs, each, mem⟩
      cases each
      exact congrArg _ (VlanSet.ext_mem fun v => by simp [mem])
  | cons part parts ih =>
    rw [List.foldlM_cons]
    constructor
    · intro h
      obtain ⟨next, hnext, h⟩ := bind_eq_ok.1 h
      obtain ⟨t, ht, heq⟩ := bind_eq_ok.1 hnext
      cases heq
      obtain ⟨run, names, hrun⟩ := readVlanPart_eq_ok_iff.1 ht
      obtain ⟨runs, each, mem⟩ := ih.1 h
      refine ⟨run :: runs, .cons names each, fun v => ?_⟩
      rw [mem, VlanSet.mem_union, hrun, List.exists_mem_cons_iff, or_comm (b := v ∈ set.ids), or_assoc]
    · rintro ⟨_, each, mem⟩
      cases each with
      | @cons _ run _ runs names each =>
        have ordered := names.ordered
        have read := readVlanPart_eq_ok_iff.2 ⟨run, names, fun v => VlanSet.mem_interval_to ordered⟩
        refine bind_eq_ok.2 ⟨_, bind_eq_ok.2 ⟨_, read, rfl⟩, ih.2 ⟨runs, each, fun v => ?_⟩⟩
        rw [mem, VlanSet.mem_union, VlanSet.mem_interval_to ordered, List.exists_mem_cons_iff,
          or_comm (b := v ∈ set.ids), or_assoc]

/-- The numbers that are read from a list are those that it lists. -/
theorem readVlanSet_eq_ok_iff {raw : String} : readVlanSet raw = .ok s ↔ Lists raw s := by
  unfold readVlanSet Lists
  rw [foldlM_eq_ok_iff]
  simp [VlanSet.empty]

end Lists

end Argument

/-! ## Reading runs -/

namespace Address

/-- Parts that a mark is put between come apart at it. -/
theorem splitChars_intercalate {mark : Char} {parts : List (List Char)} (some_part : parts ≠ [])
    (free : ∀ part ∈ parts, ∀ c ∈ part, c ≠ mark) : splitChars mark [] ([mark].intercalate parts) = parts := by
  induction parts with
  | nil => exact absurd rfl some_part
  | cons part parts ih =>
    have here := free part (by simp)
    cases parts with
    | nil =>
      rw [List.intercalate_singleton]
      exact splitChars_last here
    | cons next parts =>
      rw [List.intercalate_cons_cons, List.append_assoc, List.singleton_append, splitChars_mark here,
        ih (by simp) fun p hp => free p (by simp [hp])]

end Address

namespace Argument

open Text

theorem isDigit_intText {n : Int} (natural : 0 ≤ n) : ∀ c ∈ (intText n).toList, c.isDigit = true := by
  obtain ⟨k, rfl⟩ := Int.eq_ofNat_of_zero_le natural
  rw [toList_intText_natCast]
  exact fun c => isDigit_of_mem_toDigits

theorem readVlan_intText {v : Int} (h : IsVlan v) : readVlan (intText v).toList = .ok v :=
  readInt_within (Int.le_trans (by decide) h.1) h.1 h.2 (by decide)

variable {low high : Int}

theorem mem_runText (hlow : IsVlan low) (hhigh : IsVlan high) {c : Char} (hc : c ∈ (runText low high).toList) :
    c.isDigit = true ∨ c = '-' := by
  have digit {n : Int} (h : IsVlan n) (there : c ∈ (intText n).toList) : c.isDigit = true :=
    isDigit_intText (Int.le_trans (by decide) h.1) c there
  unfold runText at hc
  split at hc
  · exact Or.inl (digit hlow hc)
  · simp only [String.toList_append, List.mem_append] at hc
    rcases hc with (hc | hc) | hc
    · exact Or.inl (digit hlow hc)
    · exact Or.inr (List.mem_singleton.1 hc)
    · exact Or.inl (digit hhigh hc)

theorem runText_free (hlow : IsVlan low) (hhigh : IsVlan high) : ∀ c ∈ (runText low high).toList, c ≠ ',' := by
  rintro c hc rfl
  exact absurd (mem_runText hlow hhigh hc) (by decide)

/-- A run is written in one word, with a digit in it. -/
theorem isMarked_runText (hlow : IsVlan low) (hhigh : IsVlan high) : IsMarked (runText low high) := by
  refine isMarked_of_digit (fun c hc => ?_) ?_
  · rcases mem_runText hlow hhigh hc with digit | rfl
    · exact not_isBlank_of_isDigit digit
    · decide
  · obtain ⟨k, rfl⟩ := Int.eq_ofNat_of_zero_le (Int.le_trans (by decide) hlow.1)
    obtain ⟨c, hc⟩ := List.exists_mem_of_ne_nil _ (isMarked_natText k).unbroken.1
    refine ⟨c, ?_, isDigit_intText (Int.natCast_nonneg k) c hc⟩
    unfold runText
    split
    · exact hc
    · rw [String.toList_append, String.toList_append]
      exact List.mem_append_left _ (List.mem_append_left _ hc)

/-- A run names the numbers in it. -/
theorem names_runText (hlow : IsVlan low) (hhigh : IsVlan high) (some_number : low ≤ high) :
    Names (runText low high).toList (low, high) := by
  have bare {n : Int} (h : IsVlan n) : '-' ∉ (intText n).toList := fun there =>
    absurd (isDigit_intText (Int.le_trans (by decide) h.1) _ there) (by decide)
  unfold runText
  by_cases single : low = high
  · subst single
    rw [if_pos rfl]
    exact .one (bare hlow) (readVlan_intText hlow)
  · have chars : (intText low ++ "-" ++ intText high).toList =
        (intText low).toList ++ '-' :: (intText high).toList := by simp
    rw [if_neg single, chars]
    exact .range rfl (bare hlow) (readVlan_intText hlow) (readVlan_intText hhigh) some_number

/-- Runs of numbers of VLANs are read as these numbers. -/
theorem readVlanSet_runs {s : VlanSet} {runs : List (Int × Int)} (h : AreRuns runs s.ids) (some_number : s.ids ≠ [])
    (vlans : ∀ v ∈ s.ids, IsVlan v) :
    readVlanSet (String.intercalate "," (runs.map fun run => runText run.1 run.2)) = .ok s := by
  have within := h.isVlan vlans
  have chars : (String.intercalate "," (runs.map fun run => runText run.1 run.2)).toList =
      [','].intercalate (runs.map fun run => (runText run.1 run.2).toList) := by
    rw [String.toList_intercalate, List.map_map]
    rfl
  have parts : Address.splitChars ',' [] (String.intercalate "," (runs.map fun run => runText run.1 run.2)).toList =
      runs.map fun run => (runText run.1 run.2).toList := by
    rw [chars]
    refine Address.splitChars_intercalate (by simpa using h.ne_nil some_number) fun part hpart => ?_
    obtain ⟨run, hrun, rfl⟩ := List.mem_map.1 hpart
    exact runText_free (within run hrun).1 (within run hrun).2.1
  refine readVlanSet_eq_ok_iff.2 ⟨runs, ?_, h.mem⟩
  rw [parts, List.forall₂_map_left_iff, List.forall₂_same]
  intro run hrun
  obtain ⟨low, high, ordered⟩ := within run hrun
  exact names_runText low high ordered

/-- Words with digits in them that commas are put between make one such word. -/
theorem isMarked_intercalate {parts : List String} (some_part : parts ≠ []) (marked : ∀ part ∈ parts, IsMarked part) :
    IsMarked (String.intercalate "," parts) := by
  induction parts with
  | nil => exact absurd rfl some_part
  | cons part parts ih =>
    have here := marked part (by simp)
    cases parts with
    | nil =>
      rw [String.intercalate_singleton]
      exact here
    | cons next parts =>
      have later := ih (by simp) fun p hp => marked p (by simp [hp])
      obtain ⟨c, hc, mark⟩ := here.mark
      rw [String.intercalate_cons_cons]
      refine ⟨⟨?_, fun c hc => ?_⟩, c, ?_, mark⟩
      · simp [here.unbroken.1]
      · simp only [String.toList_append, List.mem_append] at hc
        rcases hc with (hc | hc) | hc
        · exact here.unbroken.2 c hc
        · rw [List.mem_singleton.1 hc]
          decide
        · exact later.unbroken.2 c hc
      · rw [String.toList_append, String.toList_append]
        exact List.mem_append_left _ (List.mem_append_left _ hc)

end Argument

/-! ## What is written -/

/-- Numbers that differ are put in order. -/
theorem sortBy_id_ascending {order : List Int} (distinct : order.Nodup) :
    (sortBy (keyLe id) order).Pairwise (· < ·) := by
  have ascending : Ascending id (sortBy (keyLe id) order) := sortBy_ascending (distinct.imp fun apart => apart)
  exact ascending.imp fun {v w} lt => compareOfLessAndEq_eq_lt.1 lt

/-- A list of VLANs is written as runs, and what is written is read as the VLANs in order. -/
theorem vlanListText_spec {s : VlanSet} (some_number : s.ids ≠ []) (vlans : ∀ v ∈ s.ids, IsVlan v) {order : List Int}
    (distinct : order.Nodup) (mem : ∀ v, v ∈ order ↔ v ∈ s.ids) :
    Argument.readVlanSet (vlanListText order) = .ok s ∧ ∃ runs, AreRuns runs s.ids ∧
      vlanListText order = String.intercalate "," (runs.map fun run => runText run.1 run.2) := by
  have sorted : sortBy (keyLe id) order = s.ids :=
    (sortBy_id_ascending distinct).eq_of_mem_iff s.ascending fun {v} => mem_sortBy.trans (mem v)
  have runs := vlanRuns_areRuns s.ascending
  have text : vlanListText order =
      String.intercalate "," ((vlanRuns s.ids).map fun run => runText run.1 run.2) := by
    unfold vlanListText
    rw [sorted]
  exact ⟨text ▸ Argument.readVlanSet_runs runs some_number vlans, _, runs, text⟩

/-- A set of VLANs is written in one word with a digit in it, which is read as the set. -/
theorem VlanSet.readVlanSet_text {s : VlanSet} (some_number : s.ids ≠ []) (vlans : ∀ v ∈ s.ids, IsVlan v) :
    Argument.readVlanSet s.text = .ok s ∧ Text.IsMarked s.text := by
  obtain ⟨read, runs, areRuns, text⟩ :=
    vlanListText_spec some_number vlans (s.ascending.imp fun lt => ne_of_lt lt) fun _ => Iff.rfl
  refine ⟨read, ?_⟩
  unfold VlanSet.text
  rw [text]
  refine Argument.isMarked_intercalate (by simpa using areRuns.ne_nil some_number) fun part hpart => ?_
  obtain ⟨run, hrun, rfl⟩ := List.mem_map.1 hpart
  obtain ⟨low, high, -⟩ := areRuns.isVlan vlans run hrun
  exact Argument.isMarked_runText low high

end NetRack
