/-!
# Sorting

A stable sort by repeated insertion: elements that compare equal keep their order.  An order is
given as a Boolean relation that holds when its first argument may stand before its second.
-/

namespace NetRack

/-- Puts an element before the first one that it may precede. -/
def insertSorted (le : α → α → Bool) (x : α) : List α → List α
  | [] => [x]
  | y :: rest => if le x y then x :: y :: rest else y :: insertSorted le x rest

/-- The elements in order; equal ones keep their places relative to each other. -/
def sortBy (le : α → α → Bool) : List α → List α
  | [] => []
  | x :: rest => insertSorted le x (sortBy le rest)

/-- The order of elements by the order of a key. -/
def keyLe [Ord κ] (key : α → κ) (x y : α) : Bool := (compare (key x) (key y)).isLE

/-- Texts in order of code points. -/
def sortTexts (texts : List String) : List String := sortBy (keyLe id) texts

/-- The elements without repetitions, each at its first place. -/
def distinct [DecidableEq α] (xs : List α) : List α :=
  xs.foldl (fun seen x => if x ∈ seen then seen else seen ++ [x]) []

theorem insertSorted_perm (le : α → α → Bool) (x : α) (xs : List α) :
    (insertSorted le x xs).Perm (x :: xs) := by
  induction xs with
  | nil => exact List.Perm.refl _
  | cons y rest ih =>
    unfold insertSorted
    split
    · exact List.Perm.refl _
    · exact (ih.cons y).trans (List.Perm.swap x y rest)

/-- Sorting only rearranges. -/
theorem sortBy_perm (le : α → α → Bool) (xs : List α) : (sortBy le xs).Perm xs := by
  induction xs with
  | nil => exact List.Perm.refl _
  | cons x rest ih => exact (insertSorted_perm le x _).trans (ih.cons x)

theorem mem_sortBy {le : α → α → Bool} {x : α} {xs : List α} : x ∈ sortBy le xs ↔ x ∈ xs :=
  (sortBy_perm le xs).mem_iff

end NetRack
