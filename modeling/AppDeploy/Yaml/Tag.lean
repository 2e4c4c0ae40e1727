import AppDeploy.Yaml.Scalar
import AppDeploy.Yaml.Token

/-! Tags, anchors and directives as they are written. -/
namespace AppDeploy.Yaml

/-! ## Parts of tags -/

/-- The punctuation that may stand in a tag without escapes. -/
def isTagMark (c : Char) : Bool :=
  ";/?:@&=+$.!~*'()".toList.contains c

/-- The count of continuation bytes after the first byte of a character, and the bits of
the character in that byte. -/
def firstByte? (b : Nat) : Option (Nat × Nat) :=
  if b < 0x80 then some (0, b)
  else if 0xC0 ≤ b ∧ b < 0xE0 then some (1, b - 0xC0)
  else if 0xE0 ≤ b ∧ b < 0xF0 then some (2, b - 0xE0)
  else if 0xF0 ≤ b ∧ b < 0xF8 then some (3, b - 0xF0)
  else none

/-- A byte written as a percent sign and two digits. -/
def readByte : List Char → Option Nat
  | '%' :: a :: b :: _ => hexNumber? [a, b]
  | _ => none

/-- The continuation bytes of an escaped character. -/
def readContinuation : (count : Nat) → Nat → List Char → Option Nat
  | 0, n, _ => some n
  | count + 1, n, cs => do
    let b ← readByte cs
    guard (0x80 ≤ b ∧ b < 0xC0)
    readContinuation count (n * 64 + (b - 0x80)) (cs.drop 3)

/-- A character written as the escaped bytes of its UTF-8 form, and the length of that. -/
def readEscapedChar (cs : List Char) : Option (Char × Nat) := do
  let (count, n) ← (readByte cs).bind firstByte?
  let n ← readContinuation count n (cs.drop 3)
  return (Char.ofNat n, 3 * (count + 1))

/-- Reads the characters of a tag. Commas and square brackets count inside angle
brackets only. -/
def readTagText (verbatim : Bool) : (fuel : Nat) → List Char → Cursor →
    Option (List Char × Cursor)
  | 0, text, c => some (text, c)
  | fuel + 1, text, c =>
    match c.rest with
    | [] => some (text, c)
    | t :: _ =>
      if t = '%' then do
        let (e, count) ← readEscapedChar c.rest
        readTagText verbatim fuel (text ++ [e]) (c.advance count)
      else if isWordChar t || isTagMark t || (verbatim && (t = ',' || t = '[' || t = ']')) then
        readTagText verbatim fuel (text ++ [t]) (c.advance 1)
      else some (text, c)

/-- Reads a handle: an exclamation mark, a word, and another mark if there is one. -/
def readHandle (c : Cursor) : Option (List Char × Cursor) :=
  match c.rest with
  | '!' :: _ =>
    let (word, next) := (c.advance 1).span isWordChar
    match next.rest with
    | '!' :: _ => some ('!' :: word ++ ['!'], next.advance 1)
    | _ => some ('!' :: word, next)
  | _ => none

/-- Whether a handle has a mark at both ends. -/
def isClosedHandle (handle : List Char) : Bool :=
  1 < handle.length && handle.getLast? = some '!'

/-- Reads a tag: a verbatim one in angle brackets has no handle, and a word after a single
mark is a suffix of the handle of one mark. -/
def readTag (flow : Bool) (c : Cursor) : Option (Token × Cursor) := do
  let (token, c) ← match c.rest with
    | '!' :: '<' :: _ => do
      let (suffix, c) ← readTagText true c.rest.length [] (c.advance 2)
      guard (!suffix.isEmpty && c.rest.head? = some '>')
      pure (Token.tag "" (String.ofList suffix), c.advance 1)
    | _ => do
      let (handle, c) ← readHandle c
      if isClosedHandle handle then
        let (suffix, c) ← readTagText false c.rest.length [] c
        guard (!suffix.isEmpty)
        pure (Token.tag (String.ofList handle) (String.ofList suffix), c)
      else
        let (suffix, c) ← readTagText false c.rest.length (handle.drop 1) c
        pure (if suffix.isEmpty then Token.tag "" "!" else .tag "!" (String.ofList suffix), c)
  guard (atBlank c.rest || (flow && c.rest.head? = some ','))
  return (token, c)

/-! ## Anchors and aliases -/

/-- Reads the name of an anchor or an alias after its indicator. -/
def readAnchor (c : Cursor) : Option (String × Cursor) := do
  let (name, c) := c.span isWordChar
  guard (!name.isEmpty && (atBlank c.rest || c.rest.head?.any "?:,]\x7d%@`".toList.contains))
  return (String.ofList name, c)

/-! ## Directives -/

/-- A number of at most nine digits. -/
def readVersionNumber (c : Cursor) : Option (Nat × Cursor) := do
  let (digits, c) := c.span Char.isDigit
  guard (!digits.isEmpty && digits.length ≤ 9)
  return (digits.foldl (fun n d => n * 10 + (d.toNat - 48)) 0, c)

def readVersion (c : Cursor) : Option (Token × Cursor) := do
  let (major, c) ← readVersionNumber (c.skipWhile isBlank)
  guard (c.rest.head? = some '.')
  let (minor, c) ← readVersionNumber (c.advance 1)
  return (.version major minor, c)

def readTagHandle (c : Cursor) : Option (Token × Cursor) := do
  let (handle, c) ← readHandle (c.skipWhile isBlank)
  guard (isClosedHandle handle || handle = ['!'])
  guard (c.rest.head?.any isBlank)
  let c := c.skipWhile isBlank
  let (expansion, c) ← readTagText true c.rest.length [] c
  guard (!expansion.isEmpty && atBlank c.rest)
  return (.tagHandle (String.ofList handle) (String.ofList expansion), c)

/-- Reads a directive to the end of its line. -/
def readDirective (c : Cursor) : Option (Token × Cursor) := do
  let (name, c) := (c.advance 1).span isWordChar
  guard (atBlank c.rest)
  let (token, c) ← match String.ofList name with
    | "YAML" => readVersion c
    | "TAG" => readTagHandle c
    | _ => none
  let c ← c.endLine?
  return (token, c)

end AppDeploy.Yaml
