import NetRack.Text.Numeral

/-!
# Doubles

A number written with a point or an exponent is held as a double: the nearest number that is a
natural number of at most 53 binary digits times a power of two.  Of two that are equally near, the
one with an even last digit is taken.  A double is written with the fewest decimal digits that read
back as the same double.
-/

namespace NetRack

/-- A number with a point or an exponent. -/
inductive Double where
  /-- The number `significand * 2 ^ power`, negative or not. -/
  | finite (negative : Bool) (significand : Nat) (power : Int)
  /-- A number beyond all others. -/
  | infinite (negative : Bool)
  /-- No number at all. -/
  | undefined
deriving DecidableEq, Repr, Inhabited

namespace Double

/-! ## Rounding -/

/-- A power of two that a significand stays below. -/
def significandLimit : Nat := 9007199254740992

/-- The power of two of the least positive double. -/
def leastPower : Int := -1074

/-- The power of two of the greatest double. -/
def greatestPower : Int := 971

/-- A zero. -/
def zero (negative : Bool) : Double := finite negative 0 leastPower

/-- The natural number nearest a quotient, an even one if two are equally near. -/
def roundQuotient (numerator denominator : Nat) : Nat :=
  let below := numerator / denominator
  let rest := 2 * (numerator % denominator)
  if rest < denominator then below
  else if denominator < rest then below + 1
  else below + below % 2

/-- A quotient divided by a power of two. -/
def scaleDown (numerator denominator : Nat) (power : Int) : Nat × Nat :=
  (numerator * Nat.pow 2 (-power).toNat, denominator * Nat.pow 2 power.toNat)

/-- The power of two by which a quotient is divided to leave 53 binary digits before the point, or
the least power if it is greater. -/
def powerFor (numerator denominator : Nat) : Int :=
  let estimate : Int := Nat.log2 numerator - Nat.log2 denominator - 53
  let power := if estimate < leastPower then leastPower else estimate
  let (n, d) := scaleDown numerator denominator power
  if n / d < significandLimit then power else power + 1

/-- The double of a rounded significand, which may have grown by a digit. -/
def ofRounded (negative : Bool) (significand : Nat) (power : Int) : Double :=
  let (significand, power) :=
    if significand = significandLimit then (significandLimit / 2, power + 1)
    else (significand, power)
  if greatestPower < power then infinite negative else finite negative significand power

/-- The double nearest a positive quotient. -/
def ofQuotient (negative : Bool) (numerator denominator : Nat) : Double :=
  let power := powerFor numerator denominator
  let (n, d) := scaleDown numerator denominator power
  ofRounded negative (roundQuotient n d) power

/-- The double nearest `digits * 10 ^ exponent`. -/
def ofDecimal (negative : Bool) (digits : Nat) (exponent : Int) : Double :=
  let places := (Nat.toDigits 10 digits).length + exponent
  if digits = 0 || places < -330 then zero negative
  else if 310 < places then infinite negative
  else ofQuotient negative (digits * Nat.pow 10 exponent.toNat) (Nat.pow 10 (-exponent).toNat)

/-! ## Written form -/

/-- The exact value `significand * 2 ^ power` as a natural number and a power of ten. -/
def exactDecimal (significand : Nat) (power : Int) : Nat × Int :=
  if 0 ≤ power then (significand * Nat.pow 2 power.toNat, 0)
  else (significand * Nat.pow 5 (-power).toNat, power)

/-- The two decimals of so many digits around `digits * 10 ^ exponent`, the nearer one first, an
even one if both are equally near. -/
def roundedDecimals (places digits : Nat) (exponent : Int) : List (Nat × Int) :=
  let excess := (Nat.toDigits 10 digits).length - places
  let unit := Nat.pow 10 excess
  let below := (digits / unit, exponent + excess)
  let above := (digits / unit + 1, exponent + excess)
  if roundQuotient digits unit = digits / unit then [below, above] else [above, below]

/-- The decimal of fewest digits that reads back as the double `significand * 2 ^ power`, and of
several such decimals the nearest. -/
def shortestDecimal (significand : Nat) (power : Int) : Nat × Int :=
  let (digits, exponent) := exactDecimal significand power
  let readsBack (e : Nat × Int) : Bool := ofDecimal false e.1 e.2 = finite false significand power
  let found := (List.range 17).findSome? fun n =>
    (roundedDecimals (n + 1) digits exponent).find? readsBack
  found.getD (digits, exponent)

/-- Digits without the zeros at their end, and the exponent that makes up for them. -/
def stripZeros (fuel digits : Nat) (exponent : Int) : Nat × Int :=
  match fuel with
  | 0 => (digits, exponent)
  | fuel + 1 =>
    if digits ≠ 0 && digits % 10 == 0 then stripZeros fuel (digits / 10) (exponent + 1)
    else (digits, exponent)

/-- The text of a positive decimal: positional from `0.0001` up to sixteen places, else with an
exponent of at least two digits. -/
def decimalText (digits : Nat) (exponent : Int) : String :=
  let (digits, exponent) := stripZeros (Nat.log2 digits) digits exponent
  let ds := Nat.toDigits 10 digits
  let point := ds.length + exponent
  if -4 < point && point ≤ 16 then
    if point ≤ 0 then
      "0." ++ String.ofList (List.replicate (-point).toNat '0' ++ ds)
    else
      let whole := ds.take point.toNat ++ List.replicate (point.toNat - ds.length) '0'
      let rest := ds.drop point.toNat
      String.ofList whole ++ "." ++ (if rest.isEmpty then "0" else String.ofList rest)
  else
    let power := point - 1
    let lead := String.ofList (ds.take 1)
    let rest := if ds.length ≤ 1 then "" else "." ++ String.ofList (ds.drop 1)
    lead ++ rest ++ "e" ++ (if power < 0 then "-" else "+") ++ Text.zeroPadded 2 power.natAbs

/-- The text of a magnitude. -/
def magnitudeText (significand : Nat) (power : Int) : String :=
  if significand = 0 then "0.0"
  else
    let (digits, exponent) := shortestDecimal significand power
    decimalText digits exponent

/-- The text of a double. -/
def text : Double → String
  | finite negative significand power =>
    (if negative then "-" else "") ++ magnitudeText significand power
  | infinite negative => if negative then "-inf" else "inf"
  | undefined => "nan"

/-! ## Whole numbers -/

/-- Whether a double is a zero. -/
def isZero : Double → Bool
  | finite _ significand _ => significand == 0
  | _ => false

/-- The natural number that a magnitude equals. -/
def wholeMagnitude? (significand : Nat) (power : Int) : Option Nat :=
  let unit := Nat.pow 2 (-power).toNat
  if significand % unit = 0 then some (significand / unit * Nat.pow 2 power.toNat) else none

/-- The whole number that a double equals.  Past the range of 64-bit words there is none. -/
def toInt? : Double → Option Int
  | finite negative significand power =>
    match wholeMagnitude? significand power with
    | some n =>
      if n < 0x8000000000000000 then some (if negative then -(n : Int) else n) else none
    | none => none
  | _ => none

example : (ofDecimal false 15 (-1)).text = "1.5" := by decide
example : (ofDecimal true 250 (-5)).text = "-0.0025" := by decide
example : (ofDecimal false 99999999999999991611392 0).text = "1e+23" := by decide
example : (ofDecimal false 3 (-324)).text = "5e-324" := by decide +kernel
example : ofDecimal false 17976931348623159 292 = infinite false := by decide +kernel
example : (ofDecimal false 45035996273704975 (-1)).toInt? = some 4503599627370498 := by
  decide

end Double

end NetRack
