/-! Double precision numbers in exact arithmetic.

A finite number is `± mantissa · 2 ^ exponent`. Every operation takes the exact rational
result and rounds it once, to the nearest number that has a mantissa below `2 ^ 53` and an
exponent of at least `-1074`; a tie goes to the even mantissa, and what is too large
becomes an infinity. -/
namespace AppDeploy

/-- A double. The mantissa of a finite one is below `2 ^ 52` only at the least exponent. -/
inductive Binary64 where
  | finite (negative : Bool) (mantissa : Nat) (exponent : Int)
  | infinite (negative : Bool)
  | nan
deriving DecidableEq, Repr

namespace Binary64

/-- The exponent of the smallest numbers. -/
def leastExponent : Int := -1074

/-- The exponent of the largest numbers. -/
def greatestExponent : Int := 971

def zero : Binary64 := .finite false 0 leastExponent

/-- A quotient rounded to the nearest natural number, a tie to the even one. -/
def roundDiv (num den : Nat) : Nat :=
  let q := num / den
  let r := num % den
  if 2 * r < den then q
  else if den < 2 * r then q + 1
  else if q % 2 = 0 then q else q + 1

/-- `num / den` divided by `2 ^ e`, as a quotient of naturals. -/
def scaled (num den : Nat) (e : Int) : Nat × Nat :=
  if 0 ≤ e then (num, den * Nat.pow 2 e.toNat) else (num * Nat.pow 2 (-e).toNat, den)

/-- The exponent at which `num / den` has a mantissa of 53 bits, or the least one. -/
def exponentFor (num den : Nat) : Int :=
  let guess : Int := (num.log2 : Int) - (den.log2 : Int) - 52
  let (n, d) := scaled num den guess
  max leastExponent (if n / d < Nat.pow 2 52 then guess - 1 else guess)

/-- The double nearest to `± num / den`. -/
def ofRatio (negative : Bool) (num den : Nat) : Binary64 :=
  if num = 0 then .finite negative 0 leastExponent
  else
    let e := exponentFor num den
    let (n, d) := scaled num den e
    let m := roundDiv n d
    let (m, e) := if m = Nat.pow 2 53 then (Nat.pow 2 52, e + 1) else (m, e)
    if greatestExponent < e then .infinite negative else .finite negative m e

def ofNat (n : Nat) : Binary64 :=
  ofRatio false n 1

/-- A magnitude `mantissa · 2 ^ exponent` as a quotient. -/
def ratio (mantissa : Nat) (exponent : Int) : Nat × Nat :=
  if 0 ≤ exponent then (mantissa * Nat.pow 2 exponent.toNat, 1)
  else (mantissa, Nat.pow 2 (-exponent).toNat)

def neg : Binary64 → Binary64
  | .finite s m e => .finite (!s) m e
  | .infinite s => .infinite (!s)
  | .nan => .nan

/-- Product of finite numbers; anything else has no number as its answer. -/
def mul : Binary64 → Binary64 → Binary64
  | .finite s m e, .finite t n f =>
    let (a, b) := ratio m e
    let (c, d) := ratio n f
    ofRatio (s != t) (a * c) (b * d)
  | _, _ => .nan

/-- Quotient of finite numbers by one that is not zero; anything else has no number as
its answer. -/
def div : Binary64 → Binary64 → Binary64
  | .finite s m e, .finite t n f =>
    let (a, b) := ratio m e
    let (c, d) := ratio n f
    if c = 0 then .nan else ofRatio (s != t) (a * d) (b * c)
  | _, _ => .nan

/-- Sum of two finite numbers that are not negative. -/
def addMagnitudes : Binary64 → Binary64 → Binary64
  | .finite _ m e, .finite _ n f =>
    let (a, b) := ratio m e
    let (c, d) := ratio n f
    ofRatio false (a * d + c * b) (b * d)
  | _, _ => .nan

/-- The greatest natural number that is not above a number that is not negative. -/
def floorNat : Binary64 → Nat
  | .finite _ m e => let (a, b) := ratio m e; a / b
  | _ => 0

/-- Whether a finite number that is not negative lies below a natural number. -/
def isBelow (x : Binary64) (n : Nat) : Bool :=
  match x with
  | .finite _ m e => let (a, b) := ratio m e; a < n * b
  | _ => false

def isInfinite : Binary64 → Bool
  | .infinite _ => true
  | _ => false

def isZero : Binary64 → Bool
  | .finite _ m _ => m == 0
  | _ => false

/-- The magnitude of a finite number with `places` digits after the point, a tie going to
the even digit. -/
def fixed (places : Nat) : Binary64 → String
  | .finite negative m e =>
    let (a, b) := ratio m e
    let units := roundDiv (a * Nat.pow 10 places) b
    let whole := toString (units / Nat.pow 10 places)
    let sign := if negative then "-" else ""
    if places = 0 then sign ++ whole
    else
      let part := (toString (units % Nat.pow 10 places)).toList
      sign ++ whole ++ "." ++ String.ofList (List.replicate (places - part.length) '0' ++ part)
  | .infinite negative => if negative then "-inf" else "inf"
  | .nan => "NaN"

end Binary64

end AppDeploy
