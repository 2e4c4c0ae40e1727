import AppDeploy.Json.Literal

/-! JSON text as a document that can be read from its start although it breaks off later.

A record is read from a text piece by piece, so a value of the wrong shape is noticed
before a fault further on. A document therefore keeps everything up to the place where the
text stops being JSON: a list or record that is not closed holds what came before that
place. Three kinds of leaf have no value: `unreadable` is a string or number whose spelling
stands for nothing (a lone surrogate, a number too large) and only matters if somebody
reads it, `tooDeep` stands for lists and records nested beyond the limit, and `broken` is
where the text stops being JSON. -/
namespace AppDeploy.Json

inductive Document where
  | null
  | bool (value : Bool)
  | number (value : Number)
  | text (value : String)
  | list (items : List Document) (closed : Bool)
  | record (fields : List (Document × Document)) (closed : Bool)
  | unreadable
  | tooDeep
  | broken
deriving Inhabited

namespace Document

/-- How deep lists and records may be nested. -/
def depthLimit : Nat := 127

def isSpace (c : Char) : Bool :=
  c = ' ' || c = '\n' || c = '\t' || c = '\r'

def skipSpace (cs : List Char) : List Char :=
  cs.dropWhile isSpace

/-! ## Strings -/

def hexValue? (c : Char) : Option Nat :=
  if c.isDigit then some (c.toNat - 48)
  else if 'a' ≤ c ∧ c ≤ 'f' then some (c.toNat - 87)
  else if 'A' ≤ c ∧ c ≤ 'F' then some (c.toNat - 55)
  else none

/-- Four hexadecimal digits as a number. -/
def readHex : List Char → Option (Nat × List Char)
  | a :: b :: c :: d :: rest => do
    let a ← hexValue? a
    let b ← hexValue? b
    let c ← hexValue? c
    let d ← hexValue? d
    return (((a * 16 + b) * 16 + c) * 16 + d, rest)
  | _ => none

/-- A piece of a string: a character, or a 16-bit unit given by its number. -/
inductive Piece where
  | char (c : Char)
  | unit (n : Nat)
deriving DecidableEq, Repr

/-- The characters with an escape of one letter. -/
def shortEscapes : List (Char × Char) :=
  [('"', '"'), ('\\', '\\'), ('/', '/'), ('b', '\x08'), ('f', '\x0c'), ('n', '\n'),
    ('r', '\r'), ('t', '\t')]

/-- The pieces of a string up to its closing quote. -/
def readPieces : List Char → Option (List Piece × List Char)
  | [] => none
  | '"' :: rest => some ([], rest)
  | '\\' :: 'u' :: a :: b :: c :: d :: rest => do
    let (n, _) ← readHex [a, b, c, d]
    let (pieces, rest) ← readPieces rest
    return (.unit n :: pieces, rest)
  | '\\' :: e :: rest => do
    let c ← shortEscapes.lookup e
    let (pieces, rest) ← readPieces rest
    return (.char c :: pieces, rest)
  | c :: rest => do
    guard (32 ≤ c.toNat)
    let (pieces, rest) ← readPieces rest
    return (.char c :: pieces, rest)

def isHighSurrogate (n : Nat) : Bool := 0xD800 ≤ n && n < 0xDC00
def isLowSurrogate (n : Nat) : Bool := 0xDC00 ≤ n && n < 0xE000

/-- The characters that pieces stand for; surrogates come in pairs. -/
def charsOf : List Piece → Option (List Char)
  | [] => some []
  | .char c :: rest => (charsOf rest).map (c :: ·)
  | .unit n :: rest =>
    if isHighSurrogate n then
      match rest with
      | .unit m :: rest =>
        if isLowSurrogate m then
          (charsOf rest).map (Char.ofNat (0x10000 + (n - 0xD800) * 0x400 + (m - 0xDC00)) :: ·)
        else none
      | _ => none
    else if isLowSurrogate n then none
    else (charsOf rest).map (Char.ofNat n :: ·)

/-- A string after its opening quote. -/
def readString (cs : List Char) : Document × Option (List Char) :=
  match readPieces cs with
  | none => (.broken, none)
  | some (pieces, rest) =>
    match charsOf pieces with
    | some chars => (.text (String.ofList chars), some rest)
    | none => (.unreadable, some rest)

/-! ## Values -/

/-- A word that stands for a value. -/
def readWord (word : String) (value : Document) (cs : List Char) : Document × Option (List Char) :=
  if word.toList.isPrefixOf cs then (value, some (cs.drop word.length)) else (.broken, none)

def readNumber (cs : List Char) : Document × Option (List Char) :=
  match Literal.read cs with
  | none => (.broken, none)
  | some (l, rest) =>
    match l.value with
    | some n => (.number n, some rest)
    | none => (.unreadable, some rest)

def guardDepth (depth : Nat) (d : Document) : Document :=
  if depthLimit < depth then .tooDeep else d

mutual

/-- Reads one value inside `depth` lists and records. What follows it is missing when the
text stops being JSON inside it. -/
def readValue (depth : Nat) : (fuel : Nat) → List Char → Document × Option (List Char)
  | 0, _ => (.broken, none)
  | fuel + 1, cs =>
    match skipSpace cs with
    | [] => (.broken, none)
    | '"' :: rest => readString rest
    | '[' :: rest =>
      match skipSpace rest with
      | ']' :: rest => (guardDepth (depth + 1) (.list [] true), some rest)
      | rest =>
        let (items, rest) := readItems (depth + 1) fuel rest
        (guardDepth (depth + 1) (.list items rest.isSome), rest)
    | '{' :: rest =>
      match skipSpace rest with
      | '}' :: rest => (guardDepth (depth + 1) (.record [] true), some rest)
      | rest =>
        let (fields, rest) := readFields (depth + 1) fuel rest
        (guardDepth (depth + 1) (.record fields rest.isSome), rest)
    | 'n' :: rest => readWord "ull" .null rest
    | 't' :: rest => readWord "rue" (.bool true) rest
    | 'f' :: rest => readWord "alse" (.bool false) rest
    | cs => readNumber cs

/-- The items of a list that is not empty, up to its end. -/
def readItems (depth : Nat) : (fuel : Nat) → List Char → List Document × Option (List Char)
  | 0, _ => ([], none)
  | fuel + 1, cs =>
    match readValue depth fuel cs with
    | (item, none) => ([item], none)
    | (item, some rest) =>
      match skipSpace rest with
      | ']' :: rest => ([item], some rest)
      | ',' :: rest =>
        let (items, rest) := readItems depth fuel rest
        (item :: items, rest)
      | _ => ([item], none)

/-- The fields of a record that is not empty, up to its end. A name that is no string ends
the reading. -/
def readFields (depth : Nat) : (fuel : Nat) → List Char →
    List (Document × Document) × Option (List Char)
  | 0, _ => ([], none)
  | fuel + 1, cs =>
    match skipSpace cs with
    | '"' :: rest =>
      match readString rest with
      | (name, none) => ([(name, .broken)], none)
      | (name, some rest) =>
        match skipSpace rest with
        | ':' :: rest =>
          match readValue depth fuel rest with
          | (value, none) => ([(name, value)], none)
          | (value, some rest) =>
            match skipSpace rest with
            | '}' :: rest => ([(name, value)], some rest)
            | ',' :: rest =>
              let (fields, rest) := readFields depth fuel rest
              ((name, value) :: fields, rest)
            | _ => ([(name, value)], none)
        | _ => ([(name, .broken)], none)
    | cs => ([((readValue depth fuel cs).1, .broken)], none)

end

/-- The document of a text, and whether nothing but blanks follows it. -/
def ofText (s : String) : Document × Bool :=
  let cs := s.toList
  match readValue 0 (2 * cs.length + 2) cs with
  | (d, none) => (d, false)
  | (d, some rest) => (d, (skipSpace rest).isEmpty)

mutual

/-- A value as a document. -/
def ofJson : Json → Document
  | .null => .null
  | .bool b => .bool b
  | .num n => .number n
  | .str s => .text s
  | .arr items => .list (ofItems items) true
  | .obj fields => .record (ofFields fields) true

def ofItems : List Json → List Document
  | [] => []
  | item :: rest => ofJson item :: ofItems rest

def ofFields : List (String × Json) → List (Document × Document)
  | [] => []
  | (name, value) :: rest => (.text name, ofJson value) :: ofFields rest

end

end Document

end AppDeploy.Json
