import AppDeploy.Text.Blank
import AppDeploy.Text.Quoted

/-! Spans of time and the way they are written, as in `1h 30m`.

A span is written as numbers with units; every unit may occur, in any order and more than
once, and the parts are added. A number may have a fraction when the result is exact in
the unit's resolution. -/
namespace AppDeploy

/-- A length of time in nanoseconds. -/
structure Span where
  nanoseconds : Nat
deriving DecidableEq, Repr, Inhabited

/-- A value, and the time it took to get it. -/
structure Timed (α : Type) where
  value : α
  took : Span

namespace Span

def zero : Span := ⟨0⟩
def ofSeconds (n : Nat) : Span := ⟨n * 1000000000⟩
def ofMilliseconds (n : Nat) : Span := ⟨n * 1000000⟩

instance : Add Span := ⟨fun a b => ⟨a.nanoseconds + b.nanoseconds⟩⟩

/-- What a span has beyond another one; nothing if that one is longer. -/
instance : Sub Span := ⟨fun a b => ⟨a.nanoseconds - b.nanoseconds⟩⟩

instance : LE Span := ⟨fun a b => a.nanoseconds ≤ b.nanoseconds⟩
instance : LT Span := ⟨fun a b => a.nanoseconds < b.nanoseconds⟩
instance (a b : Span) : Decidable (a ≤ b) :=
  inferInstanceAs (Decidable (a.nanoseconds ≤ b.nanoseconds))

instance (a b : Span) : Decidable (a < b) :=
  inferInstanceAs (Decidable (a.nanoseconds < b.nanoseconds))

instance : Max Span := maxOfLe

/-- The whole seconds of a span. -/
def seconds (d : Span) : Nat := d.nanoseconds / 1000000000

/-- What a span has beyond its whole seconds, in nanoseconds. -/
def subsecond (d : Span) : Nat := d.nanoseconds % 1000000000

/-! ## Units -/

inductive Unit where
  | nanosecond | microsecond | millisecond | second | minute | hour | day | week | month | year
deriving DecidableEq, Repr

/-- The spellings of the units. -/
def spellings : List (String × Unit) :=
  [("nanos", .nanosecond), ("nsec", .nanosecond), ("ns", .nanosecond),
    ("usec", .microsecond), ("us", .microsecond), ("µs", .microsecond),
    ("millis", .millisecond), ("msec", .millisecond), ("ms", .millisecond),
    ("seconds", .second), ("second", .second), ("secs", .second), ("sec", .second),
    ("s", .second),
    ("minutes", .minute), ("minute", .minute), ("min", .minute), ("mins", .minute),
    ("m", .minute),
    ("hours", .hour), ("hour", .hour), ("hrs", .hour), ("hr", .hour), ("h", .hour),
    ("days", .day), ("day", .day), ("d", .day),
    ("weeks", .week), ("week", .week), ("wks", .week), ("wk", .week), ("w", .week),
    ("months", .month), ("month", .month), ("M", .month),
    ("years", .year), ("year", .year), ("yrs", .year), ("yr", .year), ("y", .year)]

/-- The parts of a second, in nanoseconds, that a unit below the minute is counted in. -/
def Unit.nanoseconds? : Unit → Option Nat
  | .nanosecond => some 1
  | .microsecond => some 1000
  | .millisecond => some 1000000
  | _ => none

/-- The seconds of a unit; a month has 30.44 days and a year 365.25. -/
def Unit.seconds : Unit → Nat
  | .nanosecond | .microsecond | .millisecond => 0
  | .second => 1
  | .minute => 60
  | .hour => 3600
  | .day => 86400
  | .week => 604800
  | .month => 2630016
  | .year => 31557600

/-! ## Reading -/

inductive Error where
  | empty
  | numberExpected (offset : Nat)
  | invalidCharacter (offset : Nat)
  | unitNeeded (number : Nat)
  | unknownUnit (name : String)
  | tooLarge
deriving DecidableEq, Repr

def Error.message : Error → String
  | .empty => "value was empty"
  | .numberExpected offset => s!"expected number at {offset}"
  | .invalidCharacter offset => s!"invalid character at {offset}"
  | .unitNeeded number => s!"time unit needed, for example {number}sec or {number}ms"
  | .unknownUnit name =>
    s!"unknown time unit {Text.quoted name}, " ++
      "supported units: ns, us/µs, ms, sec, min, hours, days, weeks, months, years " ++
      "(and few variations)"
  | .tooLarge =>
    "number is too large or cannot be represented without a lack of precision " ++
      "(values below 1ns are not supported)"

/-- Numbers are kept in 64 bits. -/
def numberLimit : Nat := Nat.pow 2 64

def limited (n : Nat) : Except Error Nat :=
  if n < numberLimit then .ok n else .error .tooLarge

/-- A quotient that has to be exact. -/
def exactDiv (num den : Nat) : Except Error Nat :=
  if num % den = 0 then .ok (num / den) else .error .tooLarge

/-- A decimal fraction `numerator / denominator`. -/
structure Fraction where
  numerator : Nat
  denominator : Nat
deriving DecidableEq, Repr

/-- A total with seconds and nanoseconds added to it. -/
def addParts (total : Span) (seconds nanoseconds : Nat) : Except Error Span := do
  let part ← limited (total.subsecond + nanoseconds)
  let carried ← limited (seconds + if 1000000000 < part then part / 1000000000 else 0)
  let _ ← limited (total.seconds + carried)
  return ⟨total.nanoseconds + seconds * 1000000000 + nanoseconds⟩

/-- A number of units, as seconds and nanoseconds. -/
def wholeParts (unit : Unit) (n : Nat) : Except Error (Nat × Nat) :=
  match unit.nanoseconds? with
  | some size => (limited (n * size)).map (0, ·)
  | none => (limited (n * unit.seconds)).map (·, 0)

/-- A fraction of a unit, as seconds and nanoseconds. Minutes and what is shorter are
exact to the nanosecond, longer units to the second. -/
def fractionParts (unit : Unit) (f : Fraction) : Except Error (Nat × Nat) :=
  let exact (size : Nat) : Except Error Nat := do
    exactDiv (← limited (f.numerator * size)) f.denominator
  match unit with
  | .nanosecond => .error .tooLarge
  | .microsecond => (exact 1000).map (0, ·)
  | .millisecond => (exact 1000000).map (0, ·)
  | .second => (exact 1000000000).map (0, ·)
  | .minute => (exact 60000000000).map (0, ·)
  | unit => (exact unit.seconds).map (·, 0)

/-- A total with a number of units added to it. -/
def addUnits (total : Span) (n : Nat) (f : Option Fraction) (name : String) :
    Except Error Span := do
  match spellings.lookup name with
  | none => throw (if name.isEmpty then .unitNeeded n else .unknownUnit name)
  | some unit =>
    let (seconds, nanoseconds) ← wholeParts unit n
    let total ← addParts total seconds nanoseconds
    match f with
    | none => return total
    | some f =>
      let (seconds, nanoseconds) ← fractionParts unit f
      addParts total seconds nanoseconds

/-- Where in a text the reading is: before a number (since the given offset), in one, in
its fraction, or in the name of its unit. -/
inductive Phase where
  | before (since : Nat) (first : Bool)
  | number (n : Nat)
  | fraction (n : Nat) (f : Fraction) (checked : Nat)
  | unit (n : Nat) (f : Option Fraction) (name : List Char)
deriving DecidableEq, Repr

def isUnitChar (c : Char) : Bool :=
  c.isAlpha || c = 'µ'

def digit (c : Char) : Nat :=
  c.toNat - 48

/-- The phase and total after one more character at a byte offset. -/
def step (offset : Nat) (c : Char) (total : Span) : Phase → Except Error (Phase × Span)
  | .before since first =>
    if c.isDigit then .ok (.number (digit c), total)
    else if Text.isBlank c then .ok (.before since first, total)
    else .error (.numberExpected since)
  | .number n =>
    if c.isDigit then do return (.number (← limited (n * 10 + digit c)), total)
    else if Text.isBlank c then .ok (.number n, total)
    else if isUnitChar c then .ok (.unit n none [c], total)
    else if c = '.' then .ok (.fraction n ⟨0, 1⟩ offset, total)
    else .error (.invalidCharacter offset)
  | .fraction n f checked =>
    if c.isDigit then do
      let denominator ← limited (f.denominator * 10)
      let numerator ← limited (f.numerator * 10 + digit c)
      return (.fraction n ⟨numerator, denominator⟩ (offset + 1), total)
    else if Text.isBlank c then .ok (.fraction n f (offset + c.utf8Size), total)
    else if isUnitChar c && f.denominator != 1 then .ok (.unit n (some f) [c], total)
    else .error (.invalidCharacter checked)
  | .unit n f name =>
    if c.isDigit then do
      return (.number (digit c), ← addUnits total n f (String.ofList name))
    else if Text.isBlank c then do
      return (.before (offset + c.utf8Size) false, ← addUnits total n f (String.ofList name))
    else if isUnitChar c then .ok (.unit n f (name ++ [c]), total)
    else .error (.invalidCharacter offset)

/-- The total at the end of the text. -/
def finish (total : Span) : Phase → Except Error Span
  | .before _ true => .error .empty
  | .before _ false => .ok total
  | .number n => addUnits total n none ""
  | .fraction n f checked =>
    if f.denominator = 1 then .error (.invalidCharacter checked) else addUnits total n (some f) ""
  | .unit n f name => addUnits total n f (String.ofList name)

def readFrom (offset : Nat) (phase : Phase) (total : Span) : List Char → Except Error Span
  | [] => finish total phase
  | c :: rest => do
    let (phase, total) ← step offset c total phase
    readFrom (offset + c.utf8Size) phase total rest

/-- Reads a span; a lone `0` needs no unit. -/
def ofText (s : String) : Except Error Span :=
  if s = "0" then .ok zero else readFrom 0 (.before 0 true) zero s.toList

/-! ## Writing -/

/-- A part of a span with a unit that has a plural. -/
def pluralPart (n : Nat) (name : String) : List String :=
  if n = 0 then [] else if n = 1 then [s!"{n}{name}"] else [s!"{n}{name}s"]

/-- A part of a span with a short unit. -/
def shortPart (n : Nat) (name : String) : List String :=
  if n = 0 then [] else [s!"{n}{name}"]

/-- The text of a span: its parts from years down to nanoseconds, without empty ones. -/
def text (d : Span) : String :=
  if d.nanoseconds = 0 then "0s"
  else
    let seconds := d.seconds
    let ofYear := seconds % Unit.year.seconds
    let ofMonth := ofYear % Unit.month.seconds
    let ofDay := ofMonth % 86400
    let part := d.subsecond
    " ".intercalate <|
      pluralPart (seconds / Unit.year.seconds) "year" ++
      pluralPart (ofYear / Unit.month.seconds) "month" ++
      pluralPart (ofMonth / 86400) "day" ++
      shortPart (ofDay / 3600) "h" ++
      shortPart (ofDay % 3600 / 60) "m" ++
      shortPart (ofDay % 60) "s" ++
      shortPart (part / 1000000) "ms" ++
      shortPart (part / 1000 % 1000) "us" ++
      shortPart (part % 1000) "ns"

end Span

end AppDeploy
