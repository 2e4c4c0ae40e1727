import AppDeploy.Json.Basic

/-! Number literals.

A literal is taken apart into its sign, digits and exponent first. Its value comes from
the leading digits that fit 64 bits: they are the significand, the digits after them only
move the point, and one multiplication or division by a power of ten finishes a double.
The result can lie next to the nearest double. -/
namespace AppDeploy.Json

/-- The parts of a number as it is written. -/
structure Literal where
  negative : Bool
  whole : List Char
  part : Option (List Char)
  exponent : Option Int
deriving DecidableEq, Repr

def digitValue (c : Char) : Nat :=
  c.toNat - 48

def natOfDigits (digits : List Char) : Nat :=
  digits.foldl (fun n c => n * 10 + digitValue c) 0

/-- Splits off the digits at the start of a text. -/
def spanDigits (cs : List Char) : List Char × List Char :=
  (cs.takeWhile Char.isDigit, cs.dropWhile Char.isDigit)

namespace Literal

/-- An exponent after its `e`: a sign, if any, and at least one digit. -/
def readExponent (cs : List Char) : Option (Int × List Char) :=
  let (negative, cs) := match cs with
    | '-' :: rest => (true, rest)
    | '+' :: rest => (false, rest)
    | _ => (false, cs)
  match spanDigits cs with
  | ([], _) => none
  | (digits, rest) =>
    let n : Int := natOfDigits digits
    some (if negative then -n else n, rest)

/-- What follows the digits before the point. -/
def readTail (negative : Bool) (whole : List Char) (cs : List Char) :
    Option (Literal × List Char) := do
  let (part, cs) ← match cs with
    | '.' :: rest =>
      match spanDigits rest with
      | ([], _) => none
      | (digits, rest) => some (some digits, rest)
    | _ => some (none, cs)
  let isExponent := match cs with
    | c :: _ => c = 'e' || c = 'E'
    | [] => false
  if isExponent then
    let (exponent, rest) ← readExponent (cs.drop 1)
    return (⟨negative, whole, part, some exponent⟩, rest)
  else return (⟨negative, whole, part, none⟩, cs)

/-- Reads a literal: a zero is not followed by another digit. -/
def read (cs : List Char) : Option (Literal × List Char) :=
  let (negative, cs) := match cs with
    | '-' :: rest => (true, rest)
    | _ => (false, cs)
  match spanDigits cs with
  | ([], _) => none
  | ('0' :: _ :: _, _) => none
  | (whole, rest) => readTail negative whole rest

/-- The largest significand. -/
def significandLimit : Nat := Nat.pow 2 64

/-- Takes digits into a significand while it stays below the limit: the significand and
the digits that were left. -/
def absorb (significand : Nat) : List Char → Nat × List Char
  | [] => (significand, [])
  | c :: rest =>
    let next := significand * 10 + digitValue c
    if next < significandLimit then absorb next rest else (significand, c :: rest)

/-- `x · 10 ^ exponent`, or nothing when it is too large. A division by more than
`10 ^ 308` goes in steps of that size. -/
def scale : (fuel : Nat) → Binary64 → Int → Option Binary64
  | 0, x, _ => some x
  | fuel + 1, x, exponent =>
    if exponent.natAbs ≤ 308 then
      let power := Binary64.ofNat (Nat.pow 10 exponent.natAbs)
      if 0 ≤ exponent then
        let product := x.mul power
        if product.isInfinite then none else some product
      else some (x.div power)
    else if x.isZero then some x
    else if 0 ≤ exponent then none
    else scale fuel (x.div (Binary64.ofNat (Nat.pow 10 308))) (exponent + 308)

/-- The double of a significand and a power of ten. -/
def realOf (negative : Bool) (significand : Nat) (exponent : Int) : Option Number := do
  let x ← scale 4 (.ofNat significand) exponent
  return .real (if negative then x.neg else x)

/-- The value of an integer literal that fits a significand. Below zero, only what fits 63
bits stays an integer, and `-0` is a double. -/
def integerOf (negative : Bool) (significand : Nat) : Option Number :=
  if !negative then some (.integer significand)
  else if significand = 0 ∨ Nat.pow 2 63 < significand then realOf true significand 0
  else some (.integer (-significand))

/-- The value of a literal; there is none when it is too large for a double. -/
def value (l : Literal) : Option Number :=
  let (significand, dropped) := absorb 0 l.whole
  match l.part, l.exponent with
  | none, none =>
    if dropped.isEmpty then integerOf l.negative significand
    else realOf l.negative significand dropped.length
  | part, exponent =>
    let digits := part.getD []
    let (significand, rest) := absorb significand digits
    let point : Int := dropped.length - (digits.length - rest.length : Nat)
    realOf l.negative significand (point + exponent.getD 0)

end Literal

end AppDeploy.Json
