import AppDeploy.Text.Blank
import AppDeploy.Time.Span

/-! Points in time, read and written as in `2024-02-29T12:30:45.500Z`.

Reading is lenient: blanks may stand around the numbers, a number may lack its leading
zero, and the zone may be `Z`, `UTC` or an offset. Writing is strict: the zone is `Z`, and
the fraction of a second has 0, 3, 6 or 9 digits. -/
namespace AppDeploy

/-- A point in time of the proleptic Gregorian calendar: days since 1970-01-01, seconds of
the day, and nanoseconds, which reach `10 ^ 9` in a leap second. -/
structure Timestamp where
  day : Int
  second : Nat
  nanosecond : Nat
deriving DecidableEq, Repr

namespace Timestamp

inductive Error where
  | tooShort
  | tooLong
  | invalid
  | outOfRange
  | impossible
deriving DecidableEq, Repr

def Error.message : Error → String
  | .tooShort => "premature end of input"
  | .tooLong => "trailing input"
  | .invalid => "input contains invalid characters"
  | .outOfRange => "input is out of range"
  | .impossible => "no possible date and time matching input"

/-- The nanoseconds since the beginning of 1970. -/
def sinceEpoch (t : Timestamp) : Int :=
  (t.day * 86400 + t.second) * 1000000000 + t.nanosecond

/-- The point in time that is a number of nanoseconds from the beginning of 1970. -/
def ofEpoch (nanoseconds : Int) : Timestamp :=
  let seconds := nanoseconds.fdiv 1000000000
  ⟨seconds.fdiv 86400, (seconds.fmod 86400).toNat, (nanoseconds.fmod 1000000000).toNat⟩

/-- The time from one point to a later one. -/
def spanTo (start finish : Timestamp) : Span :=
  ⟨(finish.sinceEpoch - start.sinceEpoch).toNat⟩

/-! ## The calendar -/

/-- The day number of a date. Years are counted from March, in cycles of 400. -/
def dayOfDate (year : Int) (month day : Nat) : Int :=
  let y := if month ≤ 2 then year - 1 else year
  let cycle := y.fdiv 400
  let yearOfCycle := y - cycle * 400
  let monthFromMarch : Int := (month + 9) % 12
  let dayOfYear := (153 * monthFromMarch + 2) / 5 + day - 1
  let dayOfCycle := yearOfCycle * 365 + yearOfCycle / 4 - yearOfCycle / 100 + dayOfYear
  cycle * 146097 + dayOfCycle - 719468

/-- The date of a day number. -/
def dateOfDay (n : Int) : Int × Nat × Nat :=
  let z := n + 719468
  let cycle := z.fdiv 146097
  let dayOfCycle := z - cycle * 146097
  let yearOfCycle :=
    (dayOfCycle - dayOfCycle / 1460 + dayOfCycle / 36524 - dayOfCycle / 146096) / 365
  let dayOfYear := dayOfCycle - (365 * yearOfCycle + yearOfCycle / 4 - yearOfCycle / 100)
  let monthFromMarch := (5 * dayOfYear + 2) / 153
  let day := dayOfYear - (153 * monthFromMarch + 2) / 5 + 1
  let month := if monthFromMarch < 10 then monthFromMarch + 3 else monthFromMarch - 9
  let year := yearOfCycle + cycle * 400
  (if month ≤ 2 then year + 1 else year, month.toNat, day.toNat)

def leastYear : Int := -262143
def greatestYear : Int := 262142

/-- Whether a date is in the calendar. -/
def isDate (year : Int) (month day : Nat) : Bool :=
  leastYear ≤ year && year ≤ greatestYear &&
    dateOfDay (dayOfDate year month day) == (year, month, day)

/-! ## Reading -/

def skipBlanks (cs : List Char) : List Char :=
  cs.dropWhile Text.isBlank

/-- A number of one digit and at most `width` digits. -/
def readNumber (width : Nat) (cs : List Char) : Except Error (Nat × List Char) :=
  match cs with
  | [] => .error .tooShort
  | c :: _ =>
    if c.isDigit then
      let digits := (cs.takeWhile Char.isDigit).take width
      .ok (digits.foldl (fun n c => n * 10 + (c.toNat - 48)) 0, cs.drop digits.length)
    else .error .invalid

/-- A number in a field of two digits, within bounds. -/
def readField (least greatest : Nat) (cs : List Char) : Except Error (Nat × List Char) := do
  let (n, rest) ← readNumber 2 (skipBlanks cs)
  if least ≤ n ∧ n ≤ greatest then return (n, rest) else throw .outOfRange

def readMark (mark : Char) (cs : List Char) : Except Error (List Char) :=
  match cs with
  | [] => .error .tooShort
  | c :: rest => if c = mark then .ok rest else .error .invalid

/-- A year: four digits, or any number of them after a sign. -/
def readYear (cs : List Char) : Except Error (Int × List Char) := do
  let (year, rest) ← match skipBlanks cs with
    | '-' :: rest => do
      let (n, rest) ← readNumber rest.length rest
      pure (-(n : Int), rest)
    | '+' :: rest => do
      let (n, rest) ← readNumber rest.length rest
      pure ((n : Int), rest)
    | cs => do
      let (n, rest) ← readNumber 4 cs
      pure ((n : Int), rest)
  if -2147483648 ≤ year ∧ year < 2147483648 then return (year, rest) else throw .outOfRange

/-- The fraction of a second in nanoseconds; digits after the ninth are dropped. -/
def readFraction (cs : List Char) : Except Error (Nat × List Char) :=
  match cs with
  | '.' :: rest => do
    let (n, after) ← readNumber 9 rest
    let count := rest.length - after.length
    return (n * Nat.pow 10 (9 - count), after.dropWhile Char.isDigit)
  | _ => .ok (0, cs)

/-- Two digits; the tens are below `tens`. -/
def readPair (tens : Nat) (cs : List Char) : Except Error (Nat × List Char) :=
  match cs with
  | a :: b :: rest =>
    if a.isDigit && b.isDigit then
      if a.toNat - 48 < tens then .ok ((a.toNat - 48) * 10 + (b.toNat - 48), rest)
      else .error .outOfRange
    else .error .invalid
  | [c] => .error (if c.toNat < 128 then .tooShort else .invalid)
  | [] => .error .tooShort

/-- An offset in seconds: a sign, hours, and minutes with or without a colon. -/
def readOffset (cs : List Char) : Except Error (Int × List Char) := do
  let (negative, rest) ← match cs with
    | '+' :: rest => pure (false, rest)
    | '-' :: rest | '−' :: rest => pure (true, rest)
    | _ :: _ => throw .invalid
    | [] => throw .tooShort
  let (hours, rest) ← readPair 10 rest
  let (minutes, rest) ← readPair 6 (rest.dropWhile fun c => c = ':' || Text.isBlank c)
  let seconds : Int := hours * 3600 + minutes * 60
  return (if negative then -seconds else seconds, rest)

def readZone (cs : List Char) : Except Error (Int × List Char) :=
  match cs with
  | 'Z' :: rest | 'z' :: rest => .ok (0, rest)
  | u :: t :: c :: rest =>
    if u.toLower = 'u' ∧ t.toLower = 't' ∧ c.toLower = 'c' then .ok (0, rest) else readOffset cs
  | _ => readOffset cs

/-- The point in time of a local date and time at an offset. The second 60 is the leap
second after 59. -/
def ofLocal (year : Int) (month day hour minute second nanosecond : Nat) (offset : Int) :
    Except Error Timestamp :=
  if !isDate year month day then .error .outOfRange
  else if offset ≤ -86400 ∨ 86400 ≤ offset then .error .outOfRange
  else
    let leap := second = 60
    let moment : Int := hour * 3600 + minute * 60 + (if leap then 59 else second) - offset
    let number := dayOfDate year month day + moment.fdiv 86400
    let (utcYear, _, _) := dateOfDay number
    if utcYear < leastYear ∨ greatestYear < utcYear then .error .impossible
    else .ok ⟨number, (moment.fmod 86400).toNat, nanosecond + if leap then 1000000000 else 0⟩

/-- Reads a point in time. -/
def ofText (s : String) : Except Error Timestamp := do
  let (year, cs) ← readYear s.toList
  let cs ← readMark '-' (skipBlanks cs)
  let (month, cs) ← readField 1 12 cs
  let cs ← readMark '-' (skipBlanks cs)
  let (day, cs) ← readField 1 31 cs
  let cs ← match cs with
    | 'T' :: rest | 't' :: rest | ' ' :: rest => pure rest
    | _ :: _ => throw .invalid
    | [] => throw .tooShort
  let (hour, cs) ← readField 0 23 cs
  let cs ← readMark ':' (skipBlanks cs)
  let (minute, cs) ← readField 0 59 cs
  let cs ← readMark ':' (skipBlanks cs)
  let (second, cs) ← readField 0 60 cs
  let (nanosecond, cs) ← readFraction cs
  let (offset, cs) ← readZone (skipBlanks cs)
  if !(skipBlanks cs).isEmpty then throw .tooLong
  ofLocal year month day hour minute second nanosecond offset

/-! ## Writing -/

/-- A number with zeros in front of it up to a width. -/
def padded (width n : Nat) : String :=
  let digits := Nat.toDigits 10 n
  String.ofList (List.replicate (width - digits.length) '0' ++ digits)

/-- A year outside four digits has a sign. -/
def yearText (year : Int) : String :=
  if 0 ≤ year ∧ year ≤ 9999 then padded 4 year.toNat
  else (if year < 0 then "-" else "+") ++ padded 4 year.natAbs

def fractionText (nanosecond : Nat) : String :=
  if nanosecond = 0 then ""
  else if nanosecond % 1000000 = 0 then "." ++ padded 3 (nanosecond / 1000000)
  else if nanosecond % 1000 = 0 then "." ++ padded 6 (nanosecond / 1000)
  else "." ++ padded 9 nanosecond

/-- The text of a point in time. -/
def text (t : Timestamp) : String :=
  let (year, month, day) := dateOfDay t.day
  let leap := 1000000000 ≤ t.nanosecond
  let second := t.second % 60 + if leap then 1 else 0
  let nanosecond := if leap then t.nanosecond - 1000000000 else t.nanosecond
  yearText year ++ "-" ++ padded 2 month ++ "-" ++ padded 2 day ++ "T" ++
    padded 2 (t.second / 3600) ++ ":" ++ padded 2 (t.second / 60 % 60) ++ ":" ++
    padded 2 second ++ fractionText nanosecond ++ "Z"

end Timestamp

end AppDeploy
