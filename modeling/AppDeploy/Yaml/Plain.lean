import AppDeploy.Number.Binary64
import AppDeploy.Yaml.Token

/-! What plain scalars stand for: nothing, truth values, integers in four bases, and
floating point numbers; every other text is a text. -/
namespace AppDeploy.Yaml.Plain

def isNull (s : String) : Bool :=
  ["null", "Null", "NULL", "~"].contains s

/-- Whether a text is left out or says that there is nothing. -/
def isNothing (s : String) : Bool :=
  s.isEmpty || isNull s

def flag? (s : String) : Option Bool :=
  if ["true", "True", "TRUE"].contains s then some true
  else if ["false", "False", "FALSE"].contains s then some false
  else none

/-! ## Integers -/

def isSign (c : Char) : Bool :=
  c = '+' || c = '-'

/-- Digits that start with a zero they do not need are no number. -/
def isPadded (cs : List Char) : Bool :=
  let cs := match cs with
    | c :: rest => if isSign c then rest else cs
    | [] => []
  match cs with
  | '0' :: d :: rest => (d :: rest).all Char.isDigit
  | _ => false

def digitValue? (c : Char) : Option Nat :=
  if c.isDigit then some (c.toNat - 48)
  else if c.isLower then some (c.toNat - 87)
  else if c.isUpper then some (c.toNat - 55)
  else none

/-- The number of some digits in a base; there is at least one. -/
def number? (base : Nat) : List Char → Option Nat
  | [] => none
  | digits => digits.foldlM (fun n c => do
      let d ← digitValue? c
      guard (d < base)
      return n * base + d) 0

def bases : List (Char × Nat) :=
  [('x', 16), ('o', 8), ('b', 2)]

/-- The digits after the mark of a base, with that base. -/
def baseDigits? : List Char → Option (Nat × List Char)
  | '0' :: mark :: rest => (bases.lookup mark).map (·, rest)
  | _ => none

/-- A natural number below a limit, with an optional plus sign. -/
def natural? (limit : Nat) (cs : List Char) : Option Nat :=
  let digits := match cs with
    | '+' :: rest => rest
    | _ => cs
  let decimal : Option Nat := do
    guard (!isPadded cs)
    number? 10 digits
  let n := match baseDigits? digits with
    | some (base, rest) => number? base rest <|> decimal
    | none => decimal
  n.filter (· < limit)

/-- A number below zero, or a zero with a sign, down to a limit. -/
def negative? (limit : Nat) (cs : List Char) : Option Nat :=
  match cs with
  | '-' :: digits =>
    let decimal : Option Nat := do
      guard (!isPadded cs)
      number? 10 digits
    let n := match baseDigits? digits with
      | some (base, rest) => number? base rest <|> decimal
      | none => decimal
    n.filter (· ≤ limit)
  | _ => none

/-! ## Floating point -/

def infinities : List String := [".inf", ".Inf", ".INF"]
def notNumbers : List String := [".nan", ".NaN", ".NAN"]

/-- The decimal exponent after an `e`. -/
def exponent? : List Char → Option Int
  | [] => some 0
  | e :: rest =>
    if e = 'e' || e = 'E' then
      match rest with
      | '-' :: digits => (number? 10 digits).map fun n => -(n : Int)
      | '+' :: digits => (number? 10 digits).map fun n => (n : Int)
      | digits => (number? 10 digits).map fun n => (n : Int)
    else none

/-- `digits · 10 ^ exponent` as the nearest double. Exponents beyond all doubles are not
computed. -/
def nearest (negative : Bool) (digits : Nat) (exponent : Int) : Binary64 :=
  if digits = 0 then .finite negative 0 Binary64.leastExponent
  else if 400 < exponent then .infinite negative
  else if 0 ≤ exponent then .ofRatio negative (digits * Nat.pow 10 exponent.toNat) 1
  else if exponent + (Nat.toDigits 10 digits).length < -400 then
    .finite negative 0 Binary64.leastExponent
  else .ofRatio negative digits (Nat.pow 10 (-exponent).toNat)

/-- A decimal number: digits with a point anywhere, and an exponent. -/
def decimal? (cs : List Char) : Option Binary64 := do
  let (negative, cs) := match cs with
    | '-' :: rest => (true, rest)
    | '+' :: rest => (false, rest)
    | _ => (false, cs)
  let whole := cs.takeWhile Char.isDigit
  let (part, rest) := match cs.dropWhile Char.isDigit with
    | '.' :: rest => (rest.takeWhile Char.isDigit, rest.dropWhile Char.isDigit)
    | rest => ([], rest)
  let digits ← number? 10 (whole ++ part)
  let exponent ← exponent? rest
  return nearest negative digits (exponent - part.length)

/-- A floating point number. A decimal too large for one is a text. -/
def real? (s : String) : Option Binary64 :=
  let cs := s.toList
  let bare := match cs with
    | '+' :: rest => rest
    | _ => cs
  if cs.head? = some '+' && bare.head?.any isSign then none
  else if infinities.contains (String.ofList bare) then some (.infinite false)
  else if infinities.contains (String.ofList (cs.drop 1)) && cs.head? = some '-' then
    some (.infinite true)
  else if notNumbers.contains s then some .nan
  else (decimal? bare).filter (!·.isInfinite)

/-! ## All together -/

/-- What a plain scalar stands for. Integers are told by the width they need. -/
inductive Value where
  | nothing
  | flag (b : Bool)
  | integer (n : Int)
  | wide (n : Int)
  | real (x : Binary64)
  | text (s : String)
deriving DecidableEq, Repr

/-- An integer. -/
def integer? (s : String) : Option Value :=
  let cs := s.toList
  match natural? (Nat.pow 2 64) cs, negative? (Nat.pow 2 63) cs with
  | some n, _ => some (.integer n)
  | none, some n => some (.integer (-n))
  | none, none =>
    match natural? (Nat.pow 2 128) cs, negative? (Nat.pow 2 127) cs with
    | some n, _ => some (.wide n)
    | none, some n => some (.wide (-n))
    | none, none => none

/-- What a plain scalar stands for. -/
def value (s : String) : Value :=
  if isNothing s then .nothing
  else
    match flag? s, integer? s with
    | some b, _ => .flag b
    | none, some v => v
    | none, none =>
      if isPadded s.toList then .text s
      else
        match real? s with
        | some x => .real x
        | none => .text s

end AppDeploy.Yaml.Plain
