import AppDeploy.Number.Binary64

/-! The shortest decimal text that reads back as a given double.

The numbers that round to a double form an interval around it, closed when its mantissa is
even. Of the decimal grids with 1, 2, … digits, the first that has a point in the interval
is taken, and on it the point nearest to the double. Two ways of writing the digits follow:
one always positional, one with an exponent for large and small numbers. -/
namespace AppDeploy.Binary64

/-- Digits and a power of ten: `digits · 10 ^ power`. -/
structure Decimal where
  digits : Nat
  power : Int
deriving DecidableEq, Repr

/-- The number of decimal digits before the first that counts, for a quotient below one. -/
def leadingZeros (num den : Nat) : Nat → Nat
  | 0 => 0
  | fuel + 1 => if den ≤ 10 * num then 0 else leadingZeros (10 * num) den fuel + 1

/-- The power of ten of the first digit of a positive quotient. -/
def firstPower (num den : Nat) : Int :=
  if den ≤ num then ((Nat.toDigits 10 (num / den)).length : Int) - 1
  else -((leadingZeros num den 400 : Nat) : Int) - 1

/-- The point of the grid `10 ^ power` nearest to `num / den` among its two neighbours
that lie strictly between the bounds, or on them where `closed` says so. -/
def gridPoint? (num den low high boundDen : Nat) (closed : Bool) (power : Int) : Option Nat :=
  let (up, down) :=
    if 0 ≤ power then (1, Nat.pow 10 power.toNat) else (Nat.pow 10 (-power).toNat, 1)
  let below := num * up / (den * down)
  let inside (k : Nat) : Bool :=
    let point := k * down * boundDen
    if closed then low * up ≤ point && point ≤ high * up
    else low * up < point && point < high * up
  let nearer : Bool :=
    let rest := num * up - below * (den * down)
    2 * rest < den * down || (2 * rest == den * down && below % 2 == 0)
  match below != 0 && inside below, inside (below + 1) with
  | true, true => some (if nearer then below else below + 1)
  | true, false => some below
  | false, true => some (below + 1)
  | false, false => none

/-- The first of the grids with at least `count` digits that has a point in the interval. -/
def searchGrids (num den low high boundDen : Nat) (closed : Bool) (first : Int) :
    (count fuel : Nat) → Decimal
  | _, 0 => ⟨0, 0⟩
  | count, fuel + 1 =>
    let power := first - (count : Int) + 1
    match gridPoint? num den low high boundDen closed power with
    | some digits => ⟨digits, power⟩
    | none => searchGrids num den low high boundDen closed first (count + 1) fuel

/-- The shortest decimal that rounds to the positive number `mantissa · 2 ^ exponent`. -/
def shortestDecimal (mantissa : Nat) (exponent : Int) : Decimal :=
  let (num, den) := ratio mantissa exponent
  let narrow := mantissa = Nat.pow 2 52 ∧ leastExponent < exponent
  let (high, boundDen) := ratio (4 * mantissa + 2) (exponent - 2)
  let (low, _) := ratio (if narrow then 4 * mantissa - 1 else 4 * mantissa - 2) (exponent - 2)
  searchGrids num den low high boundDen (mantissa % 2 == 0) (firstPower num den) 1 17

/-- A decimal without zeros at its end. -/
def Decimal.normal : (fuel : Nat) → Decimal → Decimal
  | 0, d => d
  | fuel + 1, d =>
    if d.digits ≠ 0 ∧ d.digits % 10 = 0 then normal fuel ⟨d.digits / 10, d.power + 1⟩ else d

/-- The digits of a decimal around its point: before it and after it. -/
def Decimal.parts (d : Decimal) : List Char × List Char :=
  let digits := Nat.toDigits 10 d.digits
  if 0 ≤ d.power then (digits ++ List.replicate d.power.toNat '0', [])
  else
    let places := (-d.power).toNat
    if places < digits.length then
      (digits.take (digits.length - places), digits.drop (digits.length - places))
    else (['0'], List.replicate (places - digits.length) '0' ++ digits)

/-- Positional text with at least one digit after the point. -/
def Decimal.positional (d : Decimal) : String :=
  let (whole, part) := d.parts
  String.ofList (whole ++ '.' :: if part.isEmpty then ['0'] else part)

/-- Text with one digit before the point and the power of ten after an `e`. -/
def Decimal.scientific (d : Decimal) : String :=
  let digits := Nat.toDigits 10 d.digits
  let exponent := d.power + digits.length - 1
  let mantissa := digits.take 1 ++ if digits.length = 1 then [] else '.' :: digits.drop 1
  let sign := if exponent < 0 then "-" else "+"
  String.ofList mantissa ++ "e" ++ sign ++ toString exponent.natAbs

def signed (negative : Bool) (text : String) : String :=
  if negative then "-" ++ text else text

/-- Positional text of any double, with a point and at least one digit after it. -/
def positionalText : Binary64 → String
  | .finite negative 0 _ => signed negative "0.0"
  | .finite negative m e => signed negative ((shortestDecimal m e).normal 17).positional
  | .infinite negative => signed negative "inf"
  | .nan => "NaN"

/-- Text of a double that turns to an exponent below `10 ^ -5` and from `10 ^ 16` on. -/
def scientificText : Binary64 → String
  | .finite negative 0 _ => signed negative "0.0"
  | .finite negative m e =>
    let d := (shortestDecimal m e).normal 17
    let exponent := d.power + (Nat.toDigits 10 d.digits).length - 1
    signed negative (if -6 < exponent ∧ exponent < 16 then d.positional else d.scientific)
  | .infinite negative => signed negative "inf"
  | .nan => "NaN"

end AppDeploy.Binary64
