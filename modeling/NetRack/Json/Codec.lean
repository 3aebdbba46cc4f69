import NetRack.Json.Lenient
import NetRack.Table
import NetRack.Vocabulary

/-!
# Codecs

A codec writes the values of a type as plain data and reads them back.  Reading does not stop at
the first value that does not fit: it reports the places of all of them.  A record is written field
by field in a fixed order.  When it is read, unknown fields do not count, and a missing field takes
the value that it has in a base record, unless it is required.
-/

namespace NetRack

/-- A place in plain data: the names, keys and positions on the way to it. -/
abbrev Place := List String

/-- A value that was read, or the places of what does not fit. -/
abbrev Checked (α : Type) := Except (List Place) α

namespace Checked

variable {α β : Type}

/-- The value in question does not fit. -/
def misfit : Checked α := .error [[]]

/-- The value if there is one. -/
def ofOption : Option α → Checked α
  | some a => .ok a
  | none => misfit

/-- What was read one step further in. -/
def within (step : String) : Checked α → Checked α
  | .ok a => .ok a
  | .error places => .error (places.map (step :: ·))

/-- Both values, or the misfits of both. -/
def both : Checked α → Checked β → Checked (α × β)
  | .ok a, .ok b => .ok (a, b)
  | .ok _, .error q => .error q
  | .error p, .ok _ => .error p
  | .error p, .error q => .error (p ++ q)

/-- All values, or the misfits of all. -/
def all : List (Checked α) → Checked (List α)
  | [] => .ok []
  | x :: xs => (fun r => r.1 :: r.2) <$> both x (all xs)

end Checked

/-- How the values of a type are written as plain data and read back. -/
class Codec (α : Type) where
  write : α → Json
  read : Json → Checked α

namespace Codec

variable {α β : Type}

/-! ## Scalars -/

/-- Reads a text; half of a pair is replaced. -/
def readText : Json → Checked String
  | .text s => .ok s
  | .brokenText points => .ok (Text.repaired points)
  | _ => Checked.misfit

instance : Codec String := ⟨.text, readText⟩
instance : Codec Int := ⟨.int, fun v => Checked.ofOption v.integer?⟩
instance : Codec Bool := ⟨.bool, fun v => Checked.ofOption v.truth?⟩

instance [Vocabulary α] : Codec (Stored α) where
  write s := .text s.text
  read v := Stored.ofText <$> readText v

/-- A codec for the words of a vocabulary alone. -/
abbrev ofVocabulary (α : Type) [Vocabulary α] : Codec α where
  write w := .text (Vocabulary.spelling w)
  read
    | .text s => Checked.ofOption (Vocabulary.read? α s)
    | _ => Checked.misfit

/-! ## Collections -/

/-- Writes a value that may be absent. -/
def writeOption [Codec α] : Option α → Json
  | none => .null
  | some a => write a

/-- Reads a value that may be absent. -/
def readOption [Codec α] : Json → Checked (Option α)
  | .null => .ok none
  | v => some <$> read v

instance [Codec α] : Codec (Option α) := ⟨writeOption, readOption⟩

/-- Reads the elements of an array from a position on. -/
def readItems [Codec α] (position : Nat) : List Json → List (Checked α)
  | [] => []
  | v :: rest =>
    Checked.within (Text.natText position) (read v) :: readItems (position + 1) rest

/-- Reads an array. -/
def readList [Codec α] : Json → Checked (List α)
  | .array items => Checked.all (readItems 0 items)
  | _ => Checked.misfit

instance [Codec α] : Codec (List α) := ⟨fun xs => .array (xs.map write), readList⟩

/-- Reads an element of a pair. -/
def readMember [Codec α] (position : String) : Option Json → Checked α
  | none => .error [[position]]
  | some v => Checked.within position (read v)

/-- Reads an array of two elements. -/
def readPair [Codec α] [Codec β] : Json → Checked (α × β)
  | .array items =>
    if items.length ≤ 2 then Checked.both (readMember "0" items[0]?) (readMember "1" items[1]?)
    else Checked.misfit
  | _ => Checked.misfit

instance [Codec α] [Codec β] : Codec (α × β) := ⟨fun p => .array [write p.1, write p.2], readPair⟩

/-- Reads the entries of an object, whose keys are read as well. -/
def readEntries {κ : Type} [Codec α] (readKey : String → Option κ) :
    List (String × Json) → List (Checked (κ × α))
  | [] => []
  | (k, v) :: rest =>
    let key := match readKey k with
      | some key => .ok key
      | none => .error [["[key]"]]
    Checked.within k (Checked.both key (read v)) :: readEntries readKey rest

/-- Reads an object as a table. -/
def readTable {κ : Type} [DecidableEq κ] [Codec α] (readKey : String → Option κ) :
    Json → Checked (Table κ α)
  | .object fields => Table.ofList <$> Checked.all (readEntries readKey fields)
  | .brokenObject fields =>
    let entries := fields.map fun f => (Text.repaired f.1, f.2)
    Table.ofList <$> Checked.all (readEntries readKey entries)
  | _ => Checked.misfit

/-- Writes a table as an object. -/
def writeTable {κ : Type} [Codec α] (keyText : κ → String) (t : Table κ α) : Json :=
  .object (t.entries.map fun e => (keyText e.1, write e.2))

instance [Codec α] : Codec (Table String α) := ⟨writeTable id, readTable some⟩
instance [Codec α] : Codec (Table Int α) := ⟨writeTable Text.intText, readTable Json.integerOfText?⟩

end Codec

/-! ## Records -/

/-- The first fields of a record of type `ρ`, from which a `σ` is built. -/
structure Record (ρ σ : Type) where
  /-- Holds the values of fields that are missing. -/
  base : ρ
  fields : ρ → List (String × Json)
  read : Json → Checked σ

namespace Record

variable {ρ σ τ : Type}

/-- A record of no fields yet. -/
def of (base : ρ) (build : σ) : Record ρ σ := ⟨base, fun _ => [], fun _ => .ok build⟩

/-- Reads a field, given what comes of its absence. -/
def readField [Codec τ] (name : String) (absent : Checked τ) (v : Json) : Checked τ :=
  Checked.within name <| match v.field? name with
    | some w => Codec.read w
    | none => absent

/-- The record with one more field. -/
def field [Codec τ] (r : Record ρ (τ → σ)) (name : String) (get : ρ → τ) (absent : Checked τ) :
    Record ρ σ where
  base := r.base
  fields x := r.fields x ++ [(name, Codec.write (get x))]
  read v := (fun p => p.1 p.2) <$> Checked.both (r.read v) (readField name absent v)

/-- The record with one more field that must be there. -/
def required [Codec τ] (r : Record ρ (τ → σ)) (name : String) (get : ρ → τ) : Record ρ σ :=
  r.field name get Checked.misfit

/-- The record with one more field that may be missing. -/
def optional [Codec τ] (r : Record ρ (τ → σ)) (name : String) (get : ρ → τ) : Record ρ σ :=
  r.field name get (.ok (get r.base))

/-- The codec of a record whose fields are complete.  An object with a broken name is no record. -/
abbrev codec (r : Record ρ ρ) : Codec ρ where
  write x := .object (r.fields x)
  read
    | .object fields => r.read (.object fields)
    | _ => Checked.misfit

end Record

end NetRack
