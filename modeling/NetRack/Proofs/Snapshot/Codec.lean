import Mathlib.Data.List.Forall2
import Mathlib.Data.List.Nodup
import NetRack.Proofs.Json.RoundTrip
import NetRack.Proofs.Table
import NetRack.Snapshot.Records

/-!
# Laws of codecs

A codec is lawful for a property of values if every value with the property is read back from what is
written for it, and every value that is read has the property.  Most codecs are lawful for all values;
a table with numbers for keys has to have brief ones, because they are written as text.  What is
written has a fixed number of brackets within each other.

The laws of a record follow from those of its fields, one field at a time.
-/

namespace NetRack

/-! ## Misfits -/

namespace Checked

variable {α β : Type}

theorem within_eq_ok {step : String} {x : Checked α} {a : α} : within step x = .ok a ↔ x = .ok a := by
  cases x <;> simp [within]

theorem both_eq_ok {x : Checked α} {y : Checked β} {p : α × β} :
    both x y = .ok p ↔ x = .ok p.1 ∧ y = .ok p.2 := by
  obtain ⟨a, b⟩ := p
  cases x <;> cases y <;> simp [both]

theorem ofOption_eq_ok {o : Option α} {a : α} : ofOption o = .ok a ↔ o = some a := by
  cases o <;> simp [ofOption, misfit]

theorem all_cons_eq_ok {x : Checked α} {xs : List (Checked α)} {l : List α} :
    all (x :: xs) = .ok l ↔ ∃ a as, x = .ok a ∧ all xs = .ok as ∧ a :: as = l := by
  rw [all, map_eq_ok]
  constructor
  · rintro ⟨p, hp, rfl⟩
    obtain ⟨hx, hxs⟩ := both_eq_ok.1 hp
    exact ⟨p.1, p.2, hx, hxs, rfl⟩
  · rintro ⟨a, as, hx, hxs, rfl⟩
    exact ⟨(a, as), both_eq_ok.2 ⟨hx, hxs⟩, rfl⟩

end Checked

/-! ## Codecs -/

namespace Codec

/-- The codec reads back exactly the values with a property, and never reads a value without it; what
it writes has at most `depth` brackets within each other. -/
class Lawful (α : Type) [Codec α] (good : outParam (α → Prop)) (depth : outParam Nat) : Prop where
  read_write : ∀ {a : α}, good a → read (write a) = .ok a
  good_of_read : ∀ {v : Json} {a : α}, read v = .ok a → good a
  fits : ∀ a : α, (write a).Fits depth

/-- Nothing is written as the absent value. -/
class Present (α : Type) [Codec α] : Prop where
  write_ne_null : ∀ a : α, write a ≠ .null

variable {α β : Type}

theorem Lawful.read_write_iff [Codec α] {good : α → Prop} {depth : Nat} [h : Lawful α good depth] {a : α} :
    read (write a) = .ok a ↔ good a := ⟨h.good_of_read, h.read_write⟩

/-! ### Scalars -/

instance : Lawful String (fun _ => True) 0 := ⟨fun _ => rfl, fun _ => trivial, .text⟩
instance : Lawful Int (fun _ => True) 0 := ⟨fun _ => rfl, fun _ => trivial, .int⟩
instance : Lawful Bool (fun _ => True) 0 := ⟨fun _ => rfl, fun _ => trivial, .bool⟩

instance [Vocabulary α] [Vocabulary.Lawful α] : Lawful (Stored α) (fun _ => True) 0 where
  read_write {s} _ := congrArg Except.ok s.ofText_text
  good_of_read _ := trivial
  fits s := .text s.text

theorem lawful_ofVocabulary (α : Type) [Vocabulary α] [Vocabulary.Lawful α] :
    @Lawful α (ofVocabulary α) (fun _ => True) 0 :=
  @Lawful.mk α (ofVocabulary α) _ _
    (fun {w} _ => Checked.ofOption_eq_ok.2 (Vocabulary.Lawful.read?_spelling w)) (fun _ => trivial)
    fun w => .text (Vocabulary.spelling w)

instance : Lawful Mode (fun _ => True) 0 := lawful_ofVocabulary Mode

instance : Present String := ⟨fun _ h => by cases h⟩
instance : Present Int := ⟨fun _ h => by cases h⟩
instance [Vocabulary α] : Present (Stored α) := ⟨fun _ h => by cases h⟩
instance [Codec α] : Present (List α) := ⟨fun _ h => by cases h⟩
instance [Codec α] [Codec β] : Present (α × β) := ⟨fun _ h => by cases h⟩
instance : Present VlanSet := ⟨fun _ h => by cases h⟩

/-! ### Collections -/

instance [Codec α] [Present α] {good : α → Prop} {depth : Nat} [h : Lawful α good depth] :
    Lawful (Option α) (fun o => ∀ a ∈ o, good a) depth where
  read_write {o} ho := by
    cases o with
    | none => rfl
    | some a =>
      have back : read (write a) = .ok a := h.read_write (ho a rfl)
      show readOption (write a) = _
      unfold readOption
      split
      · exact absurd ‹_› (Present.write_ne_null a)
      · rw [back]
        rfl
  good_of_read {v o} ho := by
    rintro a rfl
    change readOption v = _ at ho
    unfold readOption at ho
    split at ho
    · cases ho
    · obtain ⟨b, hb, same⟩ := map_eq_ok.1 ho
      cases same
      exact h.good_of_read hb
  fits
    | none => .null
    | some a => h.fits a

/-- An array is read if its elements are, one by one. -/
theorem all_readItems [Codec α] {position : Nat} {items : List Json} {as : List α} :
    Checked.all (readItems position items) = .ok as ↔ List.Forall₂ (fun v a => read v = .ok a) items as := by
  induction items generalizing position as with
  | nil =>
    rw [List.forall₂_nil_left_iff]
    exact ⟨fun h => (Except.ok.inj h).symm, fun h => h ▸ rfl⟩
  | cons v items ih =>
    rw [readItems, Checked.all_cons_eq_ok, List.forall₂_cons_left_iff]
    constructor
    · rintro ⟨a, as, ha, has, rfl⟩
      exact ⟨a, as, Checked.within_eq_ok.1 ha, ih.1 has, rfl⟩
    · rintro ⟨a, as, ha, has, rfl⟩
      exact ⟨a, as, Checked.within_eq_ok.2 ha, ih.2 has, rfl⟩

theorem forall₂_right {γ δ : Type} {R : γ → δ → Prop} {xs : List γ} {ys : List δ}
    (h : List.Forall₂ R xs ys) : ∀ y ∈ ys, ∃ x, R x y := by
  induction h with
  | nil => simp
  | cons hxy _ ih => exact List.forall_mem_cons.2 ⟨⟨_, hxy⟩, ih⟩

instance [Codec α] {good : α → Prop} {depth : Nat} [h : Lawful α good depth] :
    Lawful (List α) (fun as => ∀ a ∈ as, good a) (depth + 1) where
  read_write {as} has := by
    refine all_readItems.2 ?_
    rw [List.forall₂_map_left_iff, List.forall₂_same]
    exact fun a ha => h.read_write (has a ha)
  good_of_read {v as} has a ha := by
    change readList v = _ at has
    unfold readList at has
    split at has
    · obtain ⟨w, hw⟩ := forall₂_right (all_readItems.1 has) a ha
      exact h.good_of_read hw
    · cases has
  fits as := .array fun v hv => by
    obtain ⟨a, -, rfl⟩ := List.mem_map.1 hv
    exact h.fits a

instance [Codec α] [Codec β] {good : α → Prop} {good' : β → Prop} {depth depth' : Nat}
    [h : Lawful α good depth] [h' : Lawful β good' depth'] :
    Lawful (α × β) (fun p => good p.1 ∧ good' p.2) (max depth depth' + 1) where
  read_write {p} hp := by
    obtain ⟨a, b⟩ := p
    refine Checked.both_eq_ok.2 ⟨?_, ?_⟩
    · exact Checked.within_eq_ok.2 (h.read_write hp.1)
    · exact Checked.within_eq_ok.2 (h'.read_write hp.2)
  good_of_read {v p} hp := by
    have member {γ : Type} [Codec γ] {step : String} {o : Option Json} {c : γ}
        (hc : readMember step o = .ok c) : ∃ w, read w = .ok c := by
      cases o with
      | none => cases hc
      | some w => exact ⟨w, Checked.within_eq_ok.1 hc⟩
    change readPair v = _ at hp
    unfold readPair at hp
    split at hp
    · split at hp
      · obtain ⟨ha, hb⟩ := Checked.both_eq_ok.1 hp
        obtain ⟨w, hw⟩ := member ha
        obtain ⟨w', hw'⟩ := member hb
        exact ⟨h.good_of_read hw, h'.good_of_read hw'⟩
      · cases hp
    · cases hp
  fits p := .array fun v hv => by
    rcases List.mem_pair.1 hv with rfl | rfl
    · exact (h.fits p.1).mono (Nat.le_max_left _ _)
    · exact (h'.fits p.2).mono (Nat.le_max_right _ _)

/-! ### Tables -/

section Tables

variable {κ : Type} [Codec α] {readKey : String → Option κ}

/-- The entries of an object are read if their keys and values are, one by one. -/
theorem all_readEntries {fields : List (String × Json)} {es : List (κ × α)} :
    Checked.all (readEntries readKey fields) = .ok es ↔
      List.Forall₂ (fun f e => readKey f.1 = some e.1 ∧ read f.2 = .ok e.2) fields es := by
  induction fields generalizing es with
  | nil =>
    rw [List.forall₂_nil_left_iff]
    exact ⟨fun h => (Except.ok.inj h).symm, fun h => h ▸ rfl⟩
  | cons f fields ih =>
    rw [readEntries, Checked.all_cons_eq_ok, List.forall₂_cons_left_iff]
    simp only [Checked.within_eq_ok, Checked.both_eq_ok, ih]
    cases readKey f.1 with
    | none => simp
    | some key => simp [@eq_comm _ es]

variable [DecidableEq κ] {keyText : κ → String}

/-- A table is read back if its keys and values are. -/
theorem readTable_writeTable {t : Table κ α} (keys : ∀ k ∈ t.keys, readKey (keyText k) = some k)
    (values : ∀ a ∈ t.values, read (write a) = .ok a) :
    readTable readKey (writeTable keyText t) = .ok t := by
  have entries : Checked.all (readEntries readKey (t.entries.map fun e => (keyText e.1, write e.2))) =
      .ok t.entries := by
    rw [all_readEntries, List.forall₂_map_left_iff, List.forall₂_same]
    exact fun e he => ⟨keys e.1 (List.mem_map_of_mem he), values e.2 (List.mem_map_of_mem he)⟩
  show Table.ofList <$> Checked.all (readEntries readKey (t.entries.map fun e => (keyText e.1, write e.2))) = _
  rw [entries, map_ok, Table.ofList_entries]

/-- What is read as a table has keys and values that were read. -/
theorem of_readTable {v : Json} {t : Table κ α} (h : readTable readKey v = .ok t) :
    (∀ k ∈ t.keys, ∃ s, readKey s = some k) ∧ ∀ a ∈ t.values, ∃ w, read w = .ok a := by
  have entries {fields : List (String × Json)}
      (hf : Table.ofList <$> Checked.all (readEntries readKey fields) = .ok t) :
      ∀ e ∈ t.entries, (∃ s, readKey s = some e.1) ∧ ∃ w, read w = .ok e.2 := by
    obtain ⟨es, hes, rfl⟩ := map_eq_ok.1 hf
    intro e he
    have mem := Table.mem_of_get?_ofList (Table.get?_eq_some.2 he)
    obtain ⟨f, hk, hw⟩ := forall₂_right (all_readEntries.1 hes) _ mem
    exact ⟨⟨f.1, hk⟩, f.2, hw⟩
  have all : ∀ e ∈ t.entries, (∃ s, readKey s = some e.1) ∧ ∃ w, read w = .ok e.2 := by
    unfold readTable at h
    split at h
    · exact entries h
    · exact entries h
    · cases h
  constructor
  · intro k hk
    obtain ⟨e, he, rfl⟩ := List.mem_map.1 hk
    exact (all e he).1
  · intro a ha
    obtain ⟨e, he, rfl⟩ := List.mem_map.1 ha
    exact (all e he).2

omit [DecidableEq κ] in
theorem fits_writeTable {depth : Nat} (injective : ∀ j k, keyText j = keyText k → j = k) {t : Table κ α}
    (values : ∀ a : α, (write a).Fits depth) : (writeTable keyText t).Fits (depth + 1) := by
  refine .object (fun f hf => ?_) ?_
  · obtain ⟨e, -, rfl⟩ := List.mem_map.1 hf
    exact values e.2
  · have names : (t.entries.map fun e => (keyText e.1, write e.2)).map Prod.fst = t.keys.map keyText := by
      simp [Table.keys]
    rw [names]
    exact List.Nodup.map (fun j k => injective j k) t.nodup

variable {good : α → Prop} {depth : Nat} [h : Lawful α good depth]

instance : Lawful (Table String α) (fun t => ∀ a ∈ t.values, good a) (depth + 1) where
  read_write ht := readTable_writeTable (fun _ _ => rfl) fun a ha => h.read_write (ht a ha)
  good_of_read ht a ha := by
    obtain ⟨w, hw⟩ := (of_readTable ht).2 a ha
    exact h.good_of_read hw
  fits t := fits_writeTable (fun _ _ => id) h.fits

instance : Lawful (Table Int α)
    (fun t => (∀ k ∈ t.keys, Text.isBrief k = true) ∧ ∀ a ∈ t.values, good a) (depth + 1) where
  read_write ht := readTable_writeTable (fun k hk => Json.integerOfText?_intText (ht.1 k hk)) fun a ha =>
    h.read_write (ht.2 a ha)
  good_of_read ht := by
    refine ⟨fun k hk => ?_, fun a ha => ?_⟩
    · obtain ⟨s, hs⟩ := (of_readTable ht).1 k hk
      exact Json.isBrief_of_integerOfText? hs
    · obtain ⟨w, hw⟩ := (of_readTable ht).2 a ha
      exact h.good_of_read hw
  fits t := fits_writeTable (fun _ _ => Text.intText_injective) h.fits

end Tables

/-! ### Sets of VLANs -/

theorem ofList_ids (s : VlanSet) : VlanSet.ofList s.ids = s := by
  obtain ⟨ids, ascending⟩ := s
  induction ids with
  | nil => rfl
  | cons v ids ih =>
    obtain ⟨first, rest⟩ := List.pairwise_cons.1 ascending
    show (VlanSet.single v).union (VlanSet.ofList ids) = _
    rw [ih rest]
    cases ids with
    | nil => rfl
    | cons w ids =>
      have order : v < w := first w (by simp)
      simp [VlanSet.union, VlanSet.single, mergeIds, mergeHead, order]

instance : Lawful VlanSet (fun _ => True) 1 where
  read_write {s} _ := by
    have ids : read (write s.ids) = .ok s.ids := Lawful.read_write fun _ _ => trivial
    show VlanSet.ofList <$> read (write s.ids) = _
    rw [ids, map_ok, ofList_ids]
  good_of_read _ := trivial
  fits s := Lawful.fits s.ids

end Codec

end NetRack
