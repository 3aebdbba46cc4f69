import NetRack.Json.Value

/-!
# Stand-ins

The records of a lab hold strings, which have no place for half of a surrogate pair.  Data with such
halves is read with stand-ins: each half becomes a character of its own out of a run of characters
that the data does not use and that have no meaning, so that texts differ exactly if they differed
before.  Afterwards the stand-ins give way to the halves again.
-/

namespace NetRack

/-- A run of characters, one for each half, named by its first one. -/
structure StandIns where
  first : Nat
deriving DecidableEq, Repr

namespace StandIns

/-- How many halves there are. -/
def count : Nat := 0x800

/-- The stand-in for a half; any other code point as it is. -/
def cover (s : StandIns) (n : Nat) : Nat :=
  if Text.isHighHalf n || Text.isLowHalf n then s.first + (n - 0xD800) else n

/-- The half for a stand-in; any other code point as it is. -/
def uncover (s : StandIns) (n : Nat) : Nat :=
  if s.first ≤ n && n < s.first + count then 0xD800 + (n - s.first) else n

/-- Whether a code point is one of the run. -/
def uses (s : StandIns) (n : Nat) : Bool := s.first ≤ n && n < s.first + count

/-- A code point that was not in the run comes back from behind its stand-in. -/
theorem uncover_cover {s : StandIns} {n : Nat} (h : s.uses n = false) : s.uncover (s.cover n) = n := by
  simp only [uses, count] at h
  simp only [cover, uncover, count, Text.isHighHalf, Text.isLowHalf]
  grind

/-- The runs to choose from: planes without any characters. -/
def candidates : List StandIns := (List.range 320).map fun k => ⟨0x40000 + count * k⟩

/-- The first run that leaves out the given code points. -/
def avoiding (points : List Nat) : StandIns :=
  (candidates.find? fun s => !points.any s.uses).getD ⟨0x40000⟩

end StandIns

namespace Json

mutual

/-- The code points of all texts and names. -/
def points : Json → List Nat
  | text s => Text.pointsOf s
  | brokenText ps => ps
  | array items => pointsOfItems items
  | object fields => pointsOfFields fields
  | brokenObject fields => pointsOfBrokenFields fields
  | _ => []

/-- The code points in the elements of an array. -/
def pointsOfItems : List Json → List Nat
  | [] => []
  | v :: rest => v.points ++ pointsOfItems rest

/-- The code points in the fields of an object. -/
def pointsOfFields : List (String × Json) → List Nat
  | [] => []
  | (k, v) :: rest => Text.pointsOf k ++ v.points ++ pointsOfFields rest

/-- The code points in the fields of an object with broken names. -/
def pointsOfBrokenFields : List (List Nat × Json) → List Nat
  | [] => []
  | (k, v) :: rest => k ++ v.points ++ pointsOfBrokenFields rest

end

/-- Whether no text and no name has half of a pair. -/
def isWhole (v : Json) : Bool := v.points.all fun n => (Text.pointChar? n).isSome

mutual

/-- The value with its texts and names changed.  Of names that become equal the last one counts. -/
def mapPoints (onText onName : List Nat → List Nat) : Json → Json
  | text s => ofPoints (onText (Text.pointsOf s))
  | brokenText ps => ofPoints (onText ps)
  | array items => array (mapItems onText onName items)
  | object fields => ofFields (mapFields onText onName [] fields)
  | brokenObject fields => ofFields (mapBrokenFields onText onName [] fields)
  | v => v

/-- The elements of an array with their texts and names changed. -/
def mapItems (onText onName : List Nat → List Nat) : List Json → List Json
  | [] => []
  | v :: rest => v.mapPoints onText onName :: mapItems onText onName rest

/-- Fields with their texts and names changed, after those already done. -/
def mapFields (onText onName : List Nat → List Nat) (done : List (List Nat × Json)) :
    List (String × Json) → List (List Nat × Json)
  | [] => done
  | (k, v) :: rest =>
    let next := setField (onName (Text.pointsOf k)) (v.mapPoints onText onName) done
    mapFields onText onName next rest

/-- Fields with broken names, their texts and names changed, after those already done. -/
def mapBrokenFields (onText onName : List Nat → List Nat) (done : List (List Nat × Json)) :
    List (List Nat × Json) → List (List Nat × Json)
  | [] => done
  | (k, v) :: rest =>
    let next := setField (onName k) (v.mapPoints onText onName) done
    mapBrokenFields onText onName next rest

end

end Json

namespace StandIns

/-- Stand-ins that no text of the data uses. -/
def forData (v : Json) : StandIns := avoiding v.points

/-- The data with stand-ins for halves. -/
def coverData (s : StandIns) (v : Json) : Json :=
  v.mapPoints (fun ps => ps.map s.cover) (fun ps => ps.map s.cover)

/-- The data with halves for stand-ins in its texts.  In a name, which is always plain text, a half
is replaced. -/
def uncoverData (s : StandIns) (v : Json) : Json :=
  v.mapPoints (fun ps => ps.map s.uncover) fun ps => Text.pointsOf (Text.repaired (ps.map s.uncover))

example : (forData (.text (String.singleton (Char.ofNat 0x40000)))).first = 0x40800 := by
  decide +kernel

end StandIns

end NetRack
