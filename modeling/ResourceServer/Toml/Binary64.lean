/-
Floating point numbers of 64 bits, read from decimal digits and written with as few as read back.

`Binary64.ofDecimal` rounds a decimal to the nearest number of the format, a tie to the even one. `Binary64.digits`
finds the shortest decimal that rounds to a given number: it tries grids of 1, 2, … 17 digits and on each the number's
two neighbours, of which the nearer counts and the upper one if both are as near. A number just below a power of ten may
round up to it, so zeros at the end are taken off. `Binary64.text` writes it in full, with a point.
-/
import ResourceServer.Toml.Document

namespace ResourceServer.Toml.Binary64

/-- two to a power times the fraction `top / bottom`, as a fraction -/
def scale (top bottom : Nat) (power : Int) : Nat × Nat :=
  if 0 ≤ power then (top * Nat.pow 2 power.toNat, bottom) else (top, bottom * Nat.pow 2 (-power).toNat)

/-- the nearest whole number to a fraction, a tie to the even one -/
def nearest (top bottom : Nat) : Nat :=
  let quotient := top / bottom
  let twice := 2 * (top % bottom)
  if twice < bottom || (twice == bottom && quotient % 2 == 0) then quotient else quotient + 1

/-- the number nearest to a positive fraction -/
def ofFraction (negative : Bool) (top bottom : Nat) : Binary64 :=
  let guess : Int := max (-1074) ((Nat.log2 top : Int) - (Nat.log2 bottom : Int) - 53)
  let (t, b) := scale top bottom (-guess)
  let exponent := if t / b < Nat.pow 2 53 then guess else guess + 1
  let (t, b) := scale top bottom (-exponent)
  let mantissa := nearest t b
  if exponent > 971 || (exponent == 971 && mantissa == Nat.pow 2 53) then .infinite negative
  else if mantissa == Nat.pow 2 53 then .finite negative (Nat.pow 2 52) (exponent + 1)
  else .finite negative mantissa exponent

/-- the number nearest to `digits · 10 ^ power`. Powers far outside of the format's range are not computed. -/
def ofDecimal (negative : Bool) (digits : Nat) (power : Int) : Binary64 :=
  let size : Int := (Nat.toDigits 10 digits).length
  if digits = 0 then .finite negative 0 0
  else if power + size > 400 then .infinite negative
  else if power + size < -400 then .finite negative 0 0
  else if 0 ≤ power then ofFraction negative (digits * Nat.pow 10 power.toNat) 1
  else ofFraction negative digits (Nat.pow 10 (-power).toNat)

/-! ## Shortest digits -/

/-- whether `digit · 10 ^ power` lies among the reals that round to `mantissa · 2 ^ exponent` -/
def roundsTo (mantissa : Nat) (exponent : Int) (digit : Nat) (power : Int) : Bool :=
  -- both sides as whole numbers of quarter units, on a common denominator
  let decimal := if 0 ≤ power then digit * Nat.pow 10 power.toNat else digit
  let tenth := if 0 ≤ power then 1 else Nat.pow 10 (-power).toNat
  let unit := if 2 ≤ exponent then Nat.pow 2 (exponent - 2).toNat else 1
  let part := if 2 ≤ exponent then 1 else Nat.pow 2 (2 - exponent).toNat
  let value := decimal * part
  let low := (if mantissa = Nat.pow 2 52 ∧ exponent > -1074 then 4 * mantissa - 1 else 4 * mantissa - 2) * unit * tenth
  let high := (4 * mantissa + 2) * unit * tenth
  if mantissa % 2 = 0 then low ≤ value && value ≤ high else low < value && value < high

/-- the distance of `digit · 10 ^ power` from `mantissa · 2 ^ exponent`, on a denominator that depends only on the power
and the exponent -/
def distance (mantissa : Nat) (exponent : Int) (digit : Nat) (power : Int) : Nat :=
  let decimal :=
    (if 0 ≤ power then digit * Nat.pow 10 power.toNat else digit) *
      (if 0 ≤ exponent then 1 else Nat.pow 2 (-exponent).toNat)
  let binary :=
    (if 0 ≤ exponent then mantissa * Nat.pow 2 exponent.toNat else mantissa) *
      (if 0 ≤ power then 1 else Nat.pow 10 (-power).toNat)
  (decimal - binary) + (binary - decimal)

/-- the whole part of `mantissa · 2 ^ exponent / 10 ^ power` -/
def wholeAt (mantissa : Nat) (exponent power : Int) : Nat :=
  let top :=
    (if 0 ≤ exponent then mantissa * Nat.pow 2 exponent.toNat else mantissa) *
      (if 0 ≤ power then 1 else Nat.pow 10 (-power).toNat)
  let bottom :=
    (if 0 ≤ exponent then 1 else Nat.pow 2 (-exponent).toNat) * (if 0 ≤ power then Nat.pow 10 power.toNat else 1)
  top / bottom

/-- the greatest power of ten that is not above the number, searched downwards -/
def leadingPower (mantissa : Nat) (exponent : Int) : Nat → Int → Int
  | 0, power => power
  | n + 1, power => if wholeAt mantissa exponent power = 0 then leadingPower mantissa exponent n (power - 1) else power

/-- the number itself as a decimal -/
def exactDecimal (mantissa : Nat) (exponent : Int) : Nat × Int :=
  if 0 ≤ exponent then (mantissa * Nat.pow 2 exponent.toNat, 0) else (mantissa * Nat.pow 5 (-exponent).toNat, exponent)

/-- the first grid, from `size` digits on, that has a decimal which rounds to the number; of two the nearer one, and the
upper one of two that are as near -/
def shortestFrom (mantissa : Nat) (exponent leading : Int) : Nat → Nat → Nat × Int
  | 0, _ => exactDecimal mantissa exponent
  | n + 1, size =>
    let power := leading - (size : Int) + 1
    let below := wholeAt mantissa exponent power
    let above := below + 1
    match roundsTo mantissa exponent below power, roundsTo mantissa exponent above power with
    | true, true =>
      if distance mantissa exponent below power < distance mantissa exponent above power then (below, power)
      else (above, power)
    | true, false => (below, power)
    | false, true => (above, power)
    | false, false => shortestFrom mantissa exponent leading n (size + 1)

/-- the decimal without the zeros at its end; at most `n` are looked for -/
def withoutZeros : Nat → Nat → Int → Nat × Int
  | 0, digits, power => (digits, power)
  | n + 1, digits, power =>
    if digits % 10 = 0 then withoutZeros n (digits / 10) (power + 1) else (digits, power)

/-- the shortest decimal that rounds to the number: its digits and the power of ten of the last one -/
def digits (mantissa : Nat) (exponent : Int) : Nat × Int :=
  let (ds, power) := shortestFrom mantissa exponent (leadingPower mantissa exponent 640 310) 17 1
  withoutZeros 17 ds power

/-! ## Text -/

/-- a decimal in full, with a point and at least one digit on either side -/
def positional (digits : Nat) (power : Int) : Text :=
  let ds := Nat.toDigits 10 digits
  if 0 ≤ power then ds ++ List.replicate power.toNat '0' ++ ['.', '0']
  else
    let places := (-power).toNat
    if ds.length ≤ places then ['0', '.'] ++ List.replicate (places - ds.length) '0' ++ ds
    else ds.take (ds.length - places) ++ ['.'] ++ ds.drop (ds.length - places)

/-- the number as text -/
def text : Binary64 → Text
  | .notANumber => "NaN".toList
  | .infinite negative => if negative then "-inf".toList else "inf".toList
  | .finite negative mantissa exponent =>
    let sign := if negative then ['-'] else []
    if mantissa = 0 then sign ++ "0.0".toList
    else
      let (ds, power) := digits mantissa exponent
      sign ++ positional ds power

end ResourceServer.Toml.Binary64
