import NetRack.Order

/-!
# Sorted lists

Sorting puts a list in order, leaves a list that is in order alone, and does not depend on the order
it starts from if no two keys are equal.  It takes no notice of what is left out afterwards.
-/

namespace NetRack

variable {α β κ : Type}

/-- What passes a check is looked for among what passes a weaker one. -/
theorem filter_filter_of_imp {p q : α → Bool} (imp : ∀ x, q x = true → p x = true) (xs : List α) :
    (xs.filter p).filter q = xs.filter q := by
  rw [List.filter_filter]
  refine List.filter_congr fun x _ => ?_
  cases hq : q x with
  | false => rfl
  | true => simp [imp x hq]

/-! ## Sorting -/

theorem insertSorted_pairwise {le : α → α → Bool} (total : ∀ a b, le a b = true ∨ le b a = true)
    (trans : ∀ a b c, le a b = true → le b c = true → le a c = true) (x : α) (xs : List α)
    (h : xs.Pairwise fun a b => le a b = true) :
    (insertSorted le x xs).Pairwise fun a b => le a b = true := by
  induction xs with
  | nil => exact List.pairwise_singleton _ _
  | cons y rest ih =>
    obtain ⟨hy, hrest⟩ := List.pairwise_cons.1 h
    unfold insertSorted
    split
    · rename_i hxy
      refine List.pairwise_cons.2 ⟨fun z hz => ?_, h⟩
      rcases List.mem_cons.1 hz with rfl | hz
      · exact hxy
      · exact trans x y z hxy (hy z hz)
    · rename_i hxy
      have hyx : le y x = true := (total y x).resolve_right hxy
      refine List.pairwise_cons.2 ⟨fun z hz => ?_, ih hrest⟩
      rcases List.mem_cons.1 ((insertSorted_perm le x rest).mem_iff.1 hz) with rfl | hz
      · exact hyx
      · exact hy z hz

/-- A sorted list is in order. -/
theorem sortBy_pairwise {le : α → α → Bool} (total : ∀ a b, le a b = true ∨ le b a = true)
    (trans : ∀ a b c, le a b = true → le b c = true → le a c = true) (xs : List α) :
    (sortBy le xs).Pairwise fun a b => le a b = true := by
  induction xs with
  | nil => exact List.Pairwise.nil
  | cons x rest ih => exact insertSorted_pairwise total trans x _ ih

theorem insertSorted_of_le {le : α → α → Bool} {x : α} {xs : List α} (h : ∀ y ∈ xs, le x y = true) :
    insertSorted le x xs = x :: xs := by
  cases xs with
  | nil => rfl
  | cons y rest => exact if_pos (h y List.mem_cons_self)

/-- A list in order is left alone. -/
theorem sortBy_of_pairwise {le : α → α → Bool} {xs : List α} (h : xs.Pairwise fun a b => le a b = true) :
    sortBy le xs = xs := by
  induction xs with
  | nil => rfl
  | cons x rest ih =>
    obtain ⟨first, rest⟩ := List.pairwise_cons.1 h
    unfold sortBy
    rw [ih rest, insertSorted_of_le first]

theorem insertSorted_filter {le : α → α → Bool} (trans : ∀ a b c, le a b = true → le b c = true → le a c = true)
    (p : α → Bool) (x : α) {xs : List α} (h : xs.Pairwise fun a b => le a b = true) :
    (insertSorted le x xs).filter p = if p x then insertSorted le x (xs.filter p) else xs.filter p := by
  induction xs with
  | nil => exact List.filter_cons
  | cons y rest ih =>
    obtain ⟨first, later⟩ := List.pairwise_cons.1 h
    by_cases hxy : le x y = true
    · have before : ∀ z ∈ (y :: rest).filter p, le x z = true := by
        intro z hz
        rcases List.mem_cons.1 (List.mem_filter.1 hz).1 with rfl | hz
        · exact hxy
        · exact trans x y z hxy (first z hz)
      rw [insertSorted_of_le before, insertSorted, if_pos hxy, List.filter_cons]
    · rw [insertSorted, if_neg hxy, List.filter_cons, List.filter_cons, ih later]
      cases p y with
      | false => simp
      | true => cases p x <;> simp [insertSorted, hxy]

/-- Elements that are sorted before others are left out are the ones that are left, sorted. -/
theorem sortBy_filter {le : α → α → Bool} (total : ∀ a b, le a b = true ∨ le b a = true)
    (trans : ∀ a b c, le a b = true → le b c = true → le a c = true) (p : α → Bool) (xs : List α) :
    (sortBy le xs).filter p = sortBy le (xs.filter p) := by
  induction xs with
  | nil => rfl
  | cons x rest ih =>
    rw [sortBy, insertSorted_filter trans p x (sortBy_pairwise total trans rest), List.filter_cons, ih]
    split <;> rfl

theorem insertSorted_map (f : β → α) (le : α → α → Bool) (x : β) (xs : List β) :
    insertSorted le (f x) (xs.map f) = (insertSorted (fun a b => le (f a) (f b)) x xs).map f := by
  induction xs with
  | nil => rfl
  | cons y rest ih =>
    simp only [List.map_cons, insertSorted]
    split
    · rfl
    · rw [ih]
      rfl

/-- Sorting images is sorting by what the images are sorted by. -/
theorem sortBy_map (f : β → α) (le : α → α → Bool) (xs : List β) :
    sortBy le (xs.map f) = (sortBy (fun a b => le (f a) (f b)) xs).map f := by
  induction xs with
  | nil => rfl
  | cons x rest ih =>
    simp only [List.map_cons, sortBy, ih]
    exact insertSorted_map f le x _

/-! ## Keys -/

section Keys

variable [Ord κ] (key : α → κ)

theorem keyLe_total [Std.OrientedOrd κ] (a b : α) : keyLe key a b = true ∨ keyLe key b a = true := by
  unfold keyLe
  rw [Std.OrientedOrd.eq_swap (a := key b)]
  cases compare (key a) (key b) <;> simp

theorem keyLe_trans [Std.TransOrd κ] (a b c : α) (h : keyLe key a b = true)
    (h' : keyLe key b c = true) : keyLe key a c = true :=
  Std.TransOrd.isLE_trans h h'

/-- Every element comes before those after it by its key, and no two keys are equal. -/
def Ascending (xs : List α) : Prop := xs.Pairwise fun a b => compare (key a) (key b) = .lt

variable {key}

theorem Ascending.filter {xs : List α} (h : Ascending key xs) (p : α → Bool) :
    Ascending key (xs.filter p) := List.Pairwise.filter p h

theorem Ascending.nodup [Std.ReflOrd κ] {xs : List α} (h : Ascending key xs) : xs.Nodup := by
  refine h.imp fun hlt => ?_
  rintro rfl
  rw [Std.ReflOrd.compare_self] at hlt
  cases hlt

/-- A list in order is determined by its elements. -/
theorem Ascending.eq_of_mem_iff [Std.OrientedOrd κ] {xs ys : List α} (hx : Ascending key xs)
    (hy : Ascending key ys) (h : ∀ a, a ∈ xs ↔ a ∈ ys) : xs = ys := by
  have perm : xs.Perm ys := (List.perm_ext_iff_of_nodup hx.nodup hy.nodup).2 h
  refine List.Perm.eq_of_pairwise (fun a b _ _ hab hba => ?_) hx hy perm
  rw [Std.OrientedOrd.eq_swap, hab] at hba
  cases hba

/-- Elements with different keys are in order once they are sorted. -/
theorem sortBy_ascending [Std.TransOrd κ] [Std.LawfulEqOrd κ] {xs : List α}
    (distinct : xs.Pairwise fun a b => key a ≠ key b) : Ascending key (sortBy (keyLe key) xs) := by
  have sorted := sortBy_pairwise (keyLe_total key) (keyLe_trans key) xs
  have apart : (sortBy (keyLe key) xs).Pairwise fun a b => key a ≠ key b :=
    List.Pairwise.perm distinct (sortBy_perm _ _).symm fun h heq => h heq.symm
  refine List.Pairwise.imp ?_ (sorted.and apart)
  rintro a b ⟨hle, hne⟩
  unfold keyLe at hle
  cases hc : compare (key a) (key b) with
  | lt => rfl
  | eq => exact absurd (Std.LawfulEqOrd.eq_of_compare hc) hne
  | gt => rw [hc] at hle; cases hle

end Keys

/-! ## Elements without repetitions -/

theorem mem_distinct [DecidableEq α] {x : α} {xs : List α} : x ∈ distinct xs ↔ x ∈ xs := by
  have step : ∀ seen : List α, x ∈ xs.foldl (fun seen x => if x ∈ seen then seen else seen ++ [x]) seen ↔
      x ∈ seen ∨ x ∈ xs := by
    induction xs with
    | nil => simp
    | cons y ys ih =>
      intro seen
      rw [List.foldl_cons, ih]
      by_cases hy : y ∈ seen
      · rw [if_pos hy]
        constructor
        · rintro (h | h)
          · exact Or.inl h
          · exact Or.inr (List.mem_cons_of_mem y h)
        · rintro (h | h)
          · exact Or.inl h
          · rcases List.mem_cons.1 h with rfl | h
            · exact Or.inl hy
            · exact Or.inr h
      · rw [if_neg hy]
        simp [or_assoc]
  unfold distinct
  simpa using step []

theorem nodup_distinct [DecidableEq α] (xs : List α) : (distinct xs).Nodup := by
  refine List.foldlRecOn xs _ (motive := List.Nodup) List.nodup_nil fun seen nodup x _ => ?_
  split
  · exact nodup
  · rename_i new
    refine List.nodup_append.2 ⟨nodup, List.pairwise_singleton _ x, fun y hy z hz heq => ?_⟩
    rw [heq, List.mem_singleton.1 hz] at hy
    exact new hy

/-- What is found first among elements is found first without their repetitions. -/
theorem find?_distinct [DecidableEq α] (p : α → Bool) (xs : List α) : (distinct xs).find? p = xs.find? p := by
  have step (seen : List α) : (xs.foldl (fun seen x => if x ∈ seen then seen else seen ++ [x]) seen).find? p =
      (seen ++ xs).find? p := by
    induction xs generalizing seen with
    | nil => rw [List.append_nil]; rfl
    | cons y ys ih =>
      rw [List.foldl_cons, ih]
      split
      · rename_i known
        rw [List.find?_append, List.find?_append, List.find?_cons]
        -- A repetition that is looked for is found where it stands first.
        cases hp : p y with
        | true =>
          obtain ⟨x, hx⟩ := Option.isSome_iff_exists.1 (List.find?_isSome.2 ⟨y, known, hp⟩)
          rw [hx]
          rfl
        | false => rfl
      · rw [List.append_assoc]
        rfl
  exact step []

theorem distinct_concat [DecidableEq α] (xs : List α) (x : α) :
    distinct (xs ++ [x]) = if x ∈ distinct xs then distinct xs else distinct xs ++ [x] := by
  unfold distinct
  rw [List.foldl_append]
  rfl

theorem distinct_of_nodup [DecidableEq α] {xs : List α} (h : xs.Nodup) : distinct xs = xs := by
  have step (seen : List α) (nodup : (seen ++ xs).Nodup) :
      xs.foldl (fun seen x => if x ∈ seen then seen else seen ++ [x]) seen = seen ++ xs := by
    induction xs generalizing seen with
    | nil => rw [List.append_nil]; rfl
    | cons x xs ih =>
      have new : x ∉ seen := fun known => (List.nodup_append.1 nodup).2.2 x known x List.mem_cons_self rfl
      rw [List.append_cons] at nodup
      rw [List.foldl_cons, if_neg new, ih h.of_cons (seen ++ [x]) nodup, ← List.append_cons]
  exact step [] h

end NetRack
