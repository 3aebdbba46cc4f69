import NetRack.Json.Double
import NetRack.Text.Points

/-!
# JSON values

Plain data as snapshots and session logs exchange it.  Whole numbers have any size.  A number
written with a point or an exponent is a double, which is a value of its own kind.  The fields of
an object keep their order.  Text with half of a surrogate pair is a kind of its own, and so is an
object with such a name.
-/

namespace NetRack

/-- A value of the data format. -/
inductive Json where
  | null
  | bool (b : Bool)
  | int (n : Int)
  | double (d : Double)
  | text (s : String)
  /-- A text with half of a pair: its code points. -/
  | brokenText (points : List Nat)
  | array (items : List Json)
  | object (fields : List (String × Json))
  /-- An object in which a name has half of a pair: each name by its code points. -/
  | brokenObject (fields : List (List Nat × Json))
deriving Inhabited

namespace Json

variable {κ : Type} [DecidableEq κ]

/-- The last value under a key. -/
def lastValue? (key : κ) (fields : List (κ × Json)) : Option Json :=
  (fields.reverse.find? fun f => f.1 = key).map Prod.snd

/-- The last value of a field of an object. -/
def field? (key : String) : Json → Option Json
  | object fields => lastValue? key fields
  | brokenObject fields => lastValue? (Text.pointsOf key) fields
  | _ => none

/-- The fields with a value put under a key: in place if the key is known, else last. -/
def setField (key : κ) (value : Json) (fields : List (κ × Json)) : List (κ × Json) :=
  if fields.any fun f => f.1 = key then
    fields.map fun f => if f.1 = key then (key, value) else f
  else fields ++ [(key, value)]

/-- The text of code points. -/
def ofPoints (points : List Nat) : Json :=
  match Text.ofPoints? points with
  | some s => text s
  | none => brokenText points

/-- The object of fields whose names are given by their code points. -/
def ofFields (fields : List (List Nat × Json)) : Json :=
  match fields.mapM fun f => (Text.ofPoints? f.1).map (·, f.2) with
  | some named => object named
  | none => brokenObject fields

/-- Whether a value is an object. -/
def isObject : Json → Bool
  | object _ => true
  | brokenObject _ => true
  | _ => false

/-- Whether a value is the given text. -/
def isText (s : String) : Json → Bool
  | text t => t == s
  | _ => false

/-- Whether a value is empty or zero. -/
def isBlank : Json → Bool
  | null => true
  | bool b => !b
  | int n => n == 0
  | double d => d.isZero
  | text s => s.isEmpty
  | brokenText points => points.isEmpty
  | array items => items.isEmpty
  | object fields => fields.isEmpty
  | brokenObject fields => fields.isEmpty

mutual

/-- A value as it is shown in a message, texts in quotes. -/
def shown : Json → String
  | null => "None"
  | bool b => if b then "True" else "False"
  | int n => Text.intText n
  | double d => d.text
  | text s => Text.quoted s
  | brokenText points => Text.quotedPoints points
  | array items => "[" ++ shownItems items ++ "]"
  | object fields => "\x7b" ++ shownFields fields ++ "\x7d"
  | brokenObject fields => "\x7b" ++ shownBrokenFields fields ++ "\x7d"

/-- The elements of an array as shown in a message. -/
def shownItems : List Json → String
  | [] => ""
  | [v] => v.shown
  | v :: rest => v.shown ++ ", " ++ shownItems rest

/-- The fields of an object as shown in a message. -/
def shownFields : List (String × Json) → String
  | [] => ""
  | [(k, v)] => Text.quoted k ++ ": " ++ v.shown
  | (k, v) :: rest => Text.quoted k ++ ": " ++ v.shown ++ ", " ++ shownFields rest

/-- The fields of an object with broken names as shown in a message. -/
def shownBrokenFields : List (List Nat × Json) → String
  | [] => ""
  | [(k, v)] => Text.quotedPoints k ++ ": " ++ v.shown
  | (k, v) :: rest => Text.quotedPoints k ++ ": " ++ v.shown ++ ", " ++ shownBrokenFields rest

end

/-- A value as plain text: a text as it is, anything else as in a message. -/
def plain : Json → String
  | text s => s
  | brokenText points => Text.repaired points
  | v => v.shown

end Json

end NetRack
