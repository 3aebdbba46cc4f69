import NetRack.Table

/-!
# Reading tables back

What a table gives for a key after each way of changing it.  A table is determined by its keys in
order and by what it gives for each.
-/

namespace NetRack.Table

variable {κ ν μ : Type}

theorem ext_entries {t u : Table κ ν} (h : t.entries = u.entries) : t = u := by
  cases t
  cases u
  cases h
  rfl

@[simp] theorem entries_mapValues (t : Table κ ν) (f : κ → ν → μ) :
    (t.mapValues f).entries = t.entries.map fun e => (e.1, f e.1 e.2) := rfl

@[simp] theorem values_mapValues (t : Table κ ν) (f : κ → ν → μ) :
    (t.mapValues f).values = t.entries.map fun e => f e.1 e.2 := by
  simp only [values, entries_mapValues, List.map_map]
  rfl

theorem mapValues_mapValues {ρ : Type} (t : Table κ ν) (f : κ → ν → μ) (g : κ → μ → ρ) :
    (t.mapValues f).mapValues g = t.mapValues fun k v => g k (f k v) :=
  ext_entries (by simp [Function.comp_def])

theorem mapValues_congr {t : Table κ ν} {f g : κ → ν → μ}
    (h : ∀ k v, (k, v) ∈ t.entries → f k v = g k v) : t.mapValues f = t.mapValues g := by
  refine ext_entries (List.map_congr_left ?_)
  rintro ⟨k, v⟩ hmem
  rw [h k v hmem]

theorem mapValues_id {t : Table κ ν} {f : κ → ν → ν} (h : ∀ k v, (k, v) ∈ t.entries → f k v = v) :
    t.mapValues f = t := by
  refine ext_entries ((List.map_congr_left ?_).trans (List.map_id t.entries))
  rintro ⟨k, v⟩ hmem
  simp [h k v hmem]

@[simp] theorem size_mapValues (t : Table κ ν) (f : κ → ν → μ) : (t.mapValues f).size = t.size := by
  simp [size]

theorem mem_keys_of_mem {t : Table κ ν} {k : κ} {v : ν} (h : (k, v) ∈ t.entries) : k ∈ t.keys :=
  List.mem_map_of_mem (f := Prod.fst) h

theorem mem_keys {t : Table κ ν} {k : κ} : k ∈ t.keys ↔ ∃ v, (k, v) ∈ t.entries := by
  simp [keys]

variable [DecidableEq κ]

/-! ## Looking up -/

theorem find_entry {k : κ} {v : ν} {es : List (κ × ν)} (nodup : (es.map Prod.fst).Nodup) :
    (es.find? fun e => e.1 = k).map Prod.snd = some v ↔ (k, v) ∈ es := by
  induction es with
  | nil => simp
  | cons e es ih =>
    obtain ⟨j, w⟩ := e
    simp only [List.map_cons, List.nodup_cons] at nodup
    by_cases hj : j = k
    · subst hj
      have absent : (j, v) ∉ es := fun hmem => nodup.1 (List.mem_map_of_mem (f := Prod.fst) hmem)
      simp [absent, eq_comm]
    · have hk : k ≠ j := fun h => hj h.symm
      rw [List.find?_cons_of_neg (by simpa using hj), ih nodup.2]
      simp [hk]

theorem get?_eq_some {t : Table κ ν} {k : κ} {v : ν} : t.get? k = some v ↔ (k, v) ∈ t.entries :=
  find_entry t.nodup

theorem get?_eq_none {t : Table κ ν} {k : κ} : t.get? k = none ↔ k ∉ t.keys := by
  rw [mem_keys]
  constructor
  · rintro h ⟨v, hv⟩
    rw [get?_eq_some.2 hv] at h
    cases h
  · intro h
    cases hg : t.get? k with
    | none => rfl
    | some v => exact absurd ⟨v, get?_eq_some.1 hg⟩ h

theorem mem_keys_of_get? {t : Table κ ν} {k : κ} {v : ν} (h : t.get? k = some v) : k ∈ t.keys :=
  mem_keys_of_mem (get?_eq_some.1 h)

theorem contains_eq_isSome (t : Table κ ν) (k : κ) : t.contains k = (t.get? k).isSome := by
  rw [Bool.eq_iff_iff, contains_iff, Option.isSome_iff_ne_none, ne_eq, get?_eq_none, Decidable.not_not]

theorem contains_of_get? {t : Table κ ν} {k : κ} {v : ν} (h : t.get? k = some v) :
    t.contains k = true := by
  rw [contains_eq_isSome, h]
  rfl

theorem get?_of_contains {t : Table κ ν} {k : κ} (h : t.contains k = true) : ∃ v, t.get? k = some v := by
  rw [contains_eq_isSome] at h
  exact Option.isSome_iff_exists.1 h

theorem mem_values {t : Table κ ν} {v : ν} : v ∈ t.values ↔ ∃ k, t.get? k = some v := by
  simp [values, get?_eq_some]

theorem ext {t u : Table κ ν} (hkeys : t.keys = u.keys) (hget : ∀ k, t.get? k = u.get? k) : t = u := by
  have lookup : ∀ (w : Table κ ν), w.entries = w.keys.filterMap fun k => (w.get? k).map (k, ·) := by
    intro w
    have step : ∀ es : List (κ × ν), (∀ e ∈ es, e ∈ w.entries) →
        es = (es.map Prod.fst).filterMap fun k => (w.get? k).map (k, ·) := by
      intro es hes
      induction es with
      | nil => rfl
      | cons e es ih =>
        have he : w.get? e.1 = some e.2 := get?_eq_some.2 (hes e (by simp))
        rw [List.map_cons, List.filterMap_cons_some (b := e) (by simp [he])]
        rw [← ih fun f hf => hes f (by simp [hf])]
    exact step w.entries fun _ h => h
  refine ext_entries ?_
  rw [lookup t, lookup u, hkeys]
  simp only [hget]

/-! ## Changing -/

@[simp] theorem get?_mapValues (t : Table κ ν) (f : κ → ν → μ) (k : κ) :
    (t.mapValues f).get? k = (t.get? k).map (f k) := by
  cases h : t.get? k with
  | none =>
    rw [get?_eq_none] at h
    exact get?_eq_none.2 (by simpa using h)
  | some v =>
    rw [get?_eq_some] at h
    exact get?_eq_some.2 (List.mem_map.2 ⟨(k, v), h, rfl⟩)

theorem get?_modify (t : Table κ ν) (k j : κ) (f : ν → ν) :
    (t.modify k f).get? j = if j = k then (t.get? j).map f else t.get? j := by
  unfold modify
  rw [get?_mapValues]
  split
  · rfl
  · simp

@[simp] theorem get?_modify_self (t : Table κ ν) (k : κ) (f : ν → ν) :
    (t.modify k f).get? k = (t.get? k).map f := by
  rw [get?_modify, if_pos rfl]

theorem get?_modify_of_ne {t : Table κ ν} {k j : κ} {f : ν → ν} (h : j ≠ k) :
    (t.modify k f).get? j = t.get? j := by
  rw [get?_modify, if_neg h]

theorem modify_eq_self {t : Table κ ν} {k : κ} {f : ν → ν} (h : ∀ v, t.get? k = some v → f v = v) :
    t.modify k f = t := by
  refine mapValues_id fun j v hmem => ?_
  split
  · rename_i hj
    exact h v (hj ▸ get?_eq_some.2 hmem)
  · rfl

theorem modify_congr {t : Table κ ν} {k : κ} {f g : ν → ν} (h : ∀ v, t.get? k = some v → f v = g v) :
    t.modify k f = t.modify k g := by
  refine mapValues_congr fun j v hmem => ?_
  split
  · rename_i hj
    exact h v (hj ▸ get?_eq_some.2 hmem)
  · rfl

/-- A value is replaced by what comes of it. -/
theorem modify_at {t : Table κ ν} {k : κ} {v : ν} (h : t.get? k = some v) (f : ν → ν) :
    t.modify k f = t.modify k fun _ => f v :=
  modify_congr fun _ hw => congrArg f (Option.some.inj (hw.symm.trans h))

theorem modify_modify (t : Table κ ν) (k : κ) (f g : ν → ν) :
    (t.modify k f).modify k g = t.modify k fun v => g (f v) := by
  unfold modify
  rw [mapValues_mapValues]
  refine mapValues_congr fun j v _ => ?_
  split <;> rfl

theorem contains_modify (t : Table κ ν) (k j : κ) (f : ν → ν) :
    (t.modify k f).contains j = t.contains j := by
  unfold contains
  rw [keys_modify]

theorem mapValues_modify {t : Table κ ν} {k : κ} {f : ν → ν} {g : κ → ν → μ}
    (h : ∀ v, t.get? k = some v → g k (f v) = g k v) : (t.modify k f).mapValues g = t.mapValues g := by
  unfold modify
  rw [mapValues_mapValues]
  refine mapValues_congr fun j v hmem => ?_
  split
  · rename_i hj
    subst hj
    exact h v (get?_eq_some.2 hmem)
  · rfl

theorem get?_insert (t : Table κ ν) (k j : κ) (v : ν) :
    (t.insert k v).get? j = if j = k then some v else t.get? j := by
  unfold insert
  split
  · rename_i hk
    obtain ⟨w, hw⟩ := mem_keys.1 hk
    rw [get?_modify]
    split
    · rename_i hj
      rw [hj, get?_eq_some.2 hw]
      rfl
    · rfl
  · rename_i hk
    simp only [get?, List.find?_append]
    split
    · rename_i hj
      have absent := get?_eq_none.2 hk
      simp only [get?, Option.map_eq_none_iff] at absent
      simp [hj, absent]
    · rename_i hj
      have hne : k ≠ j := fun h => hj h.symm
      simp [hne]

@[simp] theorem get?_insert_self (t : Table κ ν) (k : κ) (v : ν) : (t.insert k v).get? k = some v := by
  rw [get?_insert, if_pos rfl]

theorem values_insert_of_not_mem {t : Table κ ν} {k : κ} (h : k ∉ t.keys) (v : ν) :
    (t.insert k v).values = t.values ++ [v] := by
  unfold insert
  rw [dif_neg h]
  simp [values]

theorem mem_keys_insert {t : Table κ ν} {k j : κ} {v : ν} :
    j ∈ (t.insert k v).keys ↔ j ∈ t.keys ∨ j = k := by
  rw [keys_insert]
  split
  · rename_i hk
    constructor
    · exact Or.inl
    · rintro (h | h)
      · exact h
      · exact h ▸ hk
  · simp

theorem get?_insertIfNew (t : Table κ ν) (k j : κ) (v : ν) :
    (t.insertIfNew k v).get? j = if j = k then some ((t.get? k).getD v) else t.get? j := by
  unfold insertIfNew
  cases hk : t.get? k with
  | none =>
    have fresh : t.contains k = false := by rw [contains_eq_isSome, hk]; rfl
    rw [fresh]
    exact get?_insert t k j v
  | some w =>
    rw [contains_of_get? hk, if_pos rfl]
    split
    · rename_i hj
      rw [hj, hk]
      rfl
    · rfl

theorem get?_erase (t : Table κ ν) (k j : κ) :
    (t.erase k).get? j = if j = k then none else t.get? j := by
  split
  · rename_i hj
    rw [get?_eq_none, keys_erase]
    simp [hj]
  · rename_i hj
    rw [Option.ext_iff]
    intro v
    rw [get?_eq_some, get?_eq_some]
    simp [erase, hj]

theorem mem_keys_erase {t : Table κ ν} {k j : κ} : j ∈ (t.erase k).keys ↔ j ∈ t.keys ∧ j ≠ k := by
  simp [keys_erase]

/-! ## Tables of lists -/

theorem mem_keys_ofList {es : List (κ × ν)} {k : κ} : k ∈ (ofList es).keys ↔ k ∈ es.map Prod.fst := by
  have step : ∀ t : Table κ ν, k ∈ (es.foldl (fun t e => t.insert e.1 e.2) t).keys ↔
      k ∈ t.keys ∨ k ∈ es.map Prod.fst := by
    induction es with
    | nil => simp
    | cons e es ih =>
      intro t
      rw [List.foldl_cons, ih, mem_keys_insert]
      simp [or_assoc]
  unfold ofList
  rw [step]
  simp [keys, empty]

theorem mem_of_get?_foldl {es : List (κ × ν)} {k : κ} {v : ν} (t : Table κ ν)
    (h : (es.foldl (fun t e => t.insert e.1 e.2) t).get? k = some v) :
    t.get? k = some v ∨ (k, v) ∈ es := by
  induction es generalizing t with
  | nil => exact Or.inl h
  | cons e es ih =>
    rcases ih (t.insert e.1 e.2) h with h | h
    · rw [get?_insert] at h
      split at h
      · rename_i hk
        cases h
        exact Or.inr (by simp [hk])
      · exact Or.inl h
    · exact Or.inr (by simp [h])

theorem mem_of_get?_ofList {es : List (κ × ν)} {k : κ} {v : ν} (h : (ofList es).get? k = some v) :
    (k, v) ∈ es := by
  rcases mem_of_get?_foldl empty h with h | h
  · cases h
  · exact h

theorem entries_foldl {es : List (κ × ν)} (t : Table κ ν) (nodup : ((t.entries ++ es).map Prod.fst).Nodup) :
    (es.foldl (fun t e => t.insert e.1 e.2) t).entries = t.entries ++ es := by
  induction es generalizing t with
  | nil => simp
  | cons e es ih =>
    have new : e.1 ∉ t.keys := by
      intro known
      rw [List.map_append, List.nodup_append] at nodup
      exact nodup.2.2 e.1 known e.1 (by simp) rfl
    have entries : (t.insert e.1 e.2).entries = t.entries ++ [e] := by
      unfold insert
      rw [dif_neg new]
    rw [List.foldl_cons, ih _ (by simpa [entries] using nodup), entries, List.append_assoc]
    rfl

/-- A table is the table of its entries. -/
theorem ofList_entries (t : Table κ ν) : ofList t.entries = t :=
  ext_entries (entries_foldl empty t.nodup)

end NetRack.Table
