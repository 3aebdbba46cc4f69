import NetRack.Order
import NetRack.Text.Numeral

/-!
# Sets of VLANs

A set of VLAN numbers is the strictly ascending list of its members.  It is written as its maximal
runs of consecutive numbers, separated by commas.
-/

namespace NetRack

/-- The smaller of two heads first, an equal head once; `rest` merges what follows `v`. -/
def mergeHead (v : Int) (rest : List Int → List Int) : List Int → List Int
  | [] => v :: rest []
  | w :: ws =>
    if v < w then v :: rest (w :: ws)
    else if v = w then v :: rest ws
    else w :: mergeHead v rest ws

/-- The members of either of two ascending lists. -/
def mergeIds : List Int → List Int → List Int
  | [] => fun ws => ws
  | v :: vs => mergeHead v (mergeIds vs)

theorem mem_mergeHead {x v : Int} {vs : List Int} {rest : List Int → List Int}
    (h : ∀ ws, x ∈ rest ws ↔ x ∈ vs ∨ x ∈ ws) (ws : List Int) :
    x ∈ mergeHead v rest ws ↔ x ∈ v :: vs ∨ x ∈ ws := by
  induction ws with
  | nil => simp [mergeHead, h]
  | cons w ws ih =>
    unfold mergeHead
    split
    · simp [h, or_assoc]
    · split <;> grind

theorem mem_mergeIds {x : Int} (vs ws : List Int) : x ∈ mergeIds vs ws ↔ x ∈ vs ∨ x ∈ ws := by
  induction vs generalizing ws with
  | nil => simp [mergeIds]
  | cons v vs ih => exact mem_mergeHead ih ws

theorem mergeHead_ascending {v : Int} {vs : List Int}
    (ih : ∀ ws : List Int, ws.Pairwise (· < ·) → (mergeIds vs ws).Pairwise (· < ·))
    (hv : ∀ x ∈ vs, v < x) (ws : List Int) (hw : ws.Pairwise (· < ·)) :
    (mergeHead v (mergeIds vs) ws).Pairwise (· < ·) := by
  induction ws with
  | nil =>
    refine List.pairwise_cons.2 ⟨fun x hx => ?_, ih [] hw⟩
    exact hv x (by simpa [mem_mergeIds] using hx)
  | cons w ws ihw =>
    obtain ⟨hlt, hws⟩ := List.pairwise_cons.1 hw
    unfold mergeHead
    split
    · refine List.pairwise_cons.2 ⟨fun x hx => ?_, ih _ hw⟩
      have := (mem_mergeIds _ _).1 hx
      grind
    · split
      · refine List.pairwise_cons.2 ⟨fun x hx => ?_, ih _ hws⟩
        have := (mem_mergeIds _ _).1 hx
        grind
      · refine List.pairwise_cons.2 ⟨fun x hx => ?_, ihw hws⟩
        have := (mem_mergeHead (fun ws => mem_mergeIds vs ws) ws).1 hx
        grind

/-- Merging ascending lists gives an ascending list. -/
theorem mergeIds_ascending (vs ws : List Int) (hv : vs.Pairwise (· < ·))
    (hw : ws.Pairwise (· < ·)) : (mergeIds vs ws).Pairwise (· < ·) := by
  induction vs generalizing ws with
  | nil => exact hw
  | cons v vs ih =>
    obtain ⟨hlt, hvs⟩ := List.pairwise_cons.1 hv
    exact mergeHead_ascending (fun us hu => ih us hvs hu) hlt ws hw

/-- VLAN numbers without order or repetition. -/
structure VlanSet where
  ids : List Int
  ascending : ids.Pairwise (· < ·)
deriving DecidableEq

namespace VlanSet

/-- The set without members. -/
def empty : VlanSet := ⟨[], List.Pairwise.nil⟩

/-- The set of one member. -/
def single (v : Int) : VlanSet := ⟨[v], List.pairwise_singleton _ _⟩

/-- The members of either set. -/
def union (s t : VlanSet) : VlanSet :=
  ⟨mergeIds s.ids t.ids, mergeIds_ascending _ _ s.ascending t.ascending⟩

/-- The members of the first set that are not in the second. -/
def diff (s t : VlanSet) : VlanSet :=
  ⟨s.ids.filter fun v => !t.ids.contains v, s.ascending.filter _⟩

/-- The set of the members of a list. -/
def ofList (vs : List Int) : VlanSet := vs.foldr (fun v s => (single v).union s) empty

/-- Whether a number is a member. -/
def contains (s : VlanSet) (v : Int) : Bool := s.ids.contains v

/-- The numbers from `low` on, `count` of them. -/
def interval (low : Int) (count : Nat) : VlanSet :=
  ⟨(List.range count).map fun (i : Nat) => low + i, by
    rw [List.pairwise_map]
    exact List.pairwise_lt_range.imp (by omega)⟩

/-- Every VLAN that a trunk can carry. -/
def all : VlanSet := interval 1 4094

@[simp] theorem contains_union (s t : VlanSet) (v : Int) :
    (s.union t).contains v = (s.contains v || t.contains v) := by
  simp [contains, union, mem_mergeIds]

@[simp] theorem contains_diff (s t : VlanSet) (v : Int) :
    (s.diff t).contains v = (s.contains v && !t.contains v) := by
  simp [contains, diff]

end VlanSet

/-! ## Written form -/

/-- The written form of the run of numbers from `low` to `high`. -/
def runText (low high : Int) : String :=
  if low = high then Text.intText low else Text.intText low ++ "-" ++ Text.intText high

/-- The runs of consecutive numbers of a list, the first of which is under way. -/
def runsFrom (low high : Int) : List Int → List (Int × Int)
  | [] => [(low, high)]
  | v :: rest =>
    if v = high + 1 then runsFrom low v rest else (low, high) :: runsFrom v v rest

/-- The runs of consecutive numbers of a list. -/
def vlanRuns : List Int → List (Int × Int)
  | [] => []
  | v :: rest => runsFrom v v rest

/-- Numbers in order, written as runs. -/
def vlanListText (vs : List Int) : String :=
  String.intercalate "," ((vlanRuns (sortBy (keyLe id) vs)).map fun run => runText run.1 run.2)

/-- A set written as runs. -/
def VlanSet.text (s : VlanSet) : String := vlanListText s.ids

/-- The name that a VLAN has until it is named. -/
def defaultVlanName (vlan : Int) : String := "VLAN" ++ Text.zeroPadded 4 vlan

example : vlanListText [3, 1, 2, 7] = "1-3,7" := by decide +kernel

end NetRack
