import AppDeploy.Text.Percent

/-! Addresses of the web, read leniently and written in one way: the scheme and the host in
small letters, a port only where it is not the usual one, and no dot segments in the path.
Names of users and passwords are read over, and hosts are ASCII. -/
namespace AppDeploy

structure Url where
  scheme : String
  /-- The host, with its port unless that is the usual one. An address without a host only
  has a path. -/
  host : Option String
  /-- The path as it is written. -/
  path : String
  query : Option String := none
  fragment : Option String := none
deriving DecidableEq, Repr

namespace Url

/-! ## Characters -/

/-- The parts of a text between characters of a class. -/
def splitWhere (p : Char → Bool) : List Char → List (List Char)
  | [] => [[]]
  | c :: rest =>
    if p c then [] :: splitWhere p rest
    else
      match splitWhere p rest with
      | [] => [[c]]
      | part :: more => (c :: part) :: more

/-- A character in a part of an address: in percent form if it is in the given class, or no
visible ASCII character. -/
def encodeChar (escaped : List Char) (c : Char) : List Char :=
  if c.toNat ≤ 32 || 127 ≤ c.toNat || escaped.contains c then
    (String.utf8EncodeChar c).flatMap Text.Percent.escape
  else [c]

def encodePart (escaped : List Char) (cs : List Char) : List Char :=
  cs.flatMap (encodeChar escaped)

/-- A part that stands for itself. Only blanks may stand in it besides visible ASCII. -/
def encodeOpaque (cs : List Char) : List Char :=
  cs.flatMap fun c => if c = ' ' then [c] else encodeChar [] c

def pathEscaped : List Char := ['"', '#', '<', '>', '?', '\x60', '\x7b', '\x7d']
def queryEscaped : List Char := ['"', '#', '<', '>', '\'']
def fragmentEscaped : List Char := ['"', '<', '>', '\x60']

/-! ## Schemes -/

/-- The schemes whose addresses always have a host, with their usual ports. -/
def usualPorts : List (String × Nat) :=
  [("http", 80), ("https", 443), ("ws", 80), ("wss", 443), ("ftp", 21)]

def isSchemeChar (c : Char) : Bool :=
  c.isAlphanum || c = '+' || c = '-' || c = '.'

/-- The scheme of an address and what follows its colon. -/
def splitScheme? (cs : List Char) : Option (String × List Char) :=
  match cs.takeWhile isSchemeChar, cs.dropWhile isSchemeChar with
  | first :: more, ':' :: rest =>
    if first.isAlpha then some (String.ofList ((first :: more).map Char.toLower), rest) else none
  | _, _ => none

/-! ## Hosts -/

def hexValue? (c : Char) : Option Nat :=
  if c.isDigit then some (c.toNat - 48)
  else if 'a' ≤ c ∧ c ≤ 'f' then some (c.toNat - 87)
  else if 'A' ≤ c ∧ c ≤ 'F' then some (c.toNat - 55)
  else none

/-- The number with the given digits. -/
def numberOf? (base : Nat) (cs : List Char) : Option Nat :=
  cs.foldl (fun n c => do
    let n ← n
    let d ← hexValue? c
    if d < base then some (n * base + d) else none) (some 0)

/-- A part of a numeric host: decimal, octal after a zero, hexadecimal after `0x`. -/
def hostNumber? : List Char → Option Nat
  | [] => none
  | '0' :: x :: rest => if x = 'x' || x = 'X' then numberOf? 16 rest else numberOf? 8 (x :: rest)
  | cs => numberOf? 10 cs

/-- The host whose number is given by four parts or less; the last part fills the rest. -/
def ipv4? (parts : List (List Char)) : Option (List Nat) := do
  let numbers ← parts.mapM hostNumber?
  let last ← numbers.getLast?
  let firsts := numbers.dropLast
  if 3 < firsts.length || firsts.any (255 < ·) || Nat.pow 256 (4 - firsts.length) ≤ last then none
  else
    let value := firsts.zipIdx.foldl (fun n (part, i) => n + part * Nat.pow 256 (3 - i)) last
    some [value / 16777216, value / 65536 % 256, value / 256 % 256, value % 256]

def dotted (bytes : List Nat) : String :=
  ".".intercalate (bytes.map toString)

/-- The groups of a part of a long host, which may end in the form of a short one. -/
def groups? (cs : List Char) : Option (List Nat) :=
  if cs.isEmpty then some []
  else do
    let parts := splitWhere (· = ':') cs
    let group (part : List Char) : Option Nat :=
      if part.isEmpty || 4 < part.length then none else numberOf? 16 part
    match parts.getLast? with
    | some last =>
      if last.contains '.' then
        let bytes ← (splitWhere (· = '.') last).mapM fun part =>
          if part.isEmpty || 3 < part.length || (1 < part.length && part.head? = some '0') then none
          else (numberOf? 10 part).filter (· ≤ 255)
        match bytes with
        | [a, b, c, d] =>
          return (← parts.dropLast.mapM group) ++ [a * 256 + b, c * 256 + d]
        | _ => none
      else parts.mapM group
    | none => none

/-- The parts around the first pair of colons. -/
def splitColons? : List Char → Option (List Char × List Char)
  | ':' :: ':' :: rest => some ([], rest)
  | c :: rest => (splitColons? rest).map fun (before, after) => (c :: before, after)
  | [] => none

/-- The eight groups of a long host. -/
def ipv6? (cs : List Char) : Option (List Nat) :=
  match splitColons? cs with
  | none => (groups? cs).filter (·.length = 8)
  | some (before, after) => do
    let before ← groups? before
    let after ← groups? after
    let count := before.length + after.length
    if 7 < count then none
    else return before ++ List.replicate (8 - count) 0 ++ after

/-- Where the first of the longest runs of zeros begins, with its length. -/
def longestZeros (groups : List Nat) : Nat × Nat :=
  (List.range groups.length).foldl (fun (start, length) i =>
    let run := ((groups.drop i).takeWhile (· = 0)).length
    if length < run then (i, run) else (start, length)) (0, 0)

def hexText (n : Nat) : String :=
  String.ofList (Nat.toDigits 16 n)

/-- The text of a long host; its longest run of zeros is left out. -/
def ipv6Text (groups : List Nat) : String :=
  let (start, length) := longestZeros groups
  let join (part : List Nat) := ":".intercalate (part.map hexText)
  if length < 2 then "[" ++ join groups ++ "]"
  else "[" ++ join (groups.take start) ++ "::" ++ join (groups.drop (start + length)) ++ "]"

/-- Text with its percent forms replaced by the characters they stand for. -/
def decodePercent : List Char → List Char
  | '%' :: a :: b :: rest =>
    match hexValue? a, hexValue? b with
    | some a, some b => Char.ofNat (a * 16 + b) :: decodePercent rest
    | _, _ => '%' :: decodePercent (a :: b :: rest)
  | c :: rest => c :: decodePercent rest
  | [] => []

/-- The characters that no name of a host has. -/
def isForbiddenInHost (c : Char) : Bool :=
  c.toNat ≤ 32 || 127 ≤ c.toNat ||
  ['#', '/', ':', '<', '>', '?', '@', '[', '\\', ']', '^', '|', '%'].contains c

/-- Whether the last part of a host makes it a number. -/
def endsInNumber (parts : List (List Char)) : Bool :=
  match parts.getLast? with
  | some last =>
    (!last.isEmpty && last.all Char.isDigit) ||
    (last.length ≥ 2 && (hostNumber? last).isSome && last.any fun c => c = 'x' || c = 'X')
  | none => false

/-- The text of a host that is given by a number in brackets, a name or a number. Where no
scheme says what hosts look like, a name stands for itself. -/
def hostOf? (isKnownScheme : Bool) (cs : List Char) : Option String :=
  match isKnownScheme, cs with
  | _, '[' :: rest =>
    if rest.getLast? = some ']' then (ipv6? rest.dropLast).map ipv6Text else none
  | false, cs =>
    if cs.any fun c => c.toNat < 127 && c ≠ '%' && isForbiddenInHost c then none
    else some (String.ofList (encodePart [] cs))
  | true, cs =>
    let name := (decodePercent cs).map Char.toLower
    let parts := splitWhere (· = '.') name
    let parts := if 1 < parts.length && parts.getLast? = some [] then parts.dropLast else parts
    if name.isEmpty || name.any isForbiddenInHost then none
    else if endsInNumber parts then (ipv4? parts).map dotted
    else some (String.ofList name)

/-- A host and the port after it. -/
def splitPort (cs : List Char) : List Char × Option (List Char) :=
  let tail := cs.reverse.takeWhile Char.isDigit
  match cs.reverse.drop tail.length with
  | ':' :: host => (host.reverse, some tail.reverse)
  | _ => (cs, none)

/-- The text of a host and its port. The usual port is left out. -/
def authority? (usual : Option Nat) (cs : List Char) : Option String := do
  let parts := splitWhere (· = '@') cs
  let (host, port) := splitPort (← parts.getLast?)
  let host ← hostOf? usual.isSome host
  match port with
  | none | some [] => return host
  | some digits =>
    let n ← numberOf? 10 digits
    if 65535 < n then none
    else if some n = usual then return host
    else return host ++ ":" ++ toString n

/-! ## Paths -/

/-- Whether a segment stays where it is. -/
def isSingleDot (segment : List Char) : Bool :=
  [".", "%2e"].contains (String.ofList (segment.map Char.toLower))

/-- Whether a segment goes back. -/
def isDoubleDot (segment : List Char) : Bool :=
  ["..", ".%2e", "%2e.", "%2e%2e"].contains (String.ofList (segment.map Char.toLower))

/-- The segments of a path after some others, without dot segments. A path that ends in a
dot segment ends in a slash. -/
def plainSegments (before : List (List Char)) : List (List Char) → List (List Char)
  | [] => before
  | [last] =>
    if isDoubleDot last then before.dropLast ++ [[]]
    else if isSingleDot last then before ++ [[]]
    else before ++ [last]
  | segment :: rest =>
    if isDoubleDot segment then plainSegments before.dropLast rest
    else if isSingleDot segment then plainSegments before rest
    else plainSegments (before ++ [segment]) rest

/-- The text of a path whose segments follow a slash each. -/
def pathText (segments : List (List Char)) : String :=
  String.ofList (segments.flatMap fun segment => '/' :: segment)

/-! ## Addresses -/

/-- What comes before a mark, and what comes after it if it is there. -/
def splitAt (mark : Char) (cs : List Char) : List Char × Option (List Char) :=
  match cs.dropWhile (· ≠ mark) with
  | [] => (cs, none)
  | _ :: rest => (cs.takeWhile (· ≠ mark), some rest)

/-- A text without blanks and controls at its ends, and without line breaks and tabs. -/
def cleaned (cs : List Char) : List Char :=
  let isEdge (c : Char) : Bool := c.toNat ≤ 32
  (((cs.dropWhile isEdge).reverse.dropWhile isEdge).reverse).filter fun c =>
    c ≠ '\t' && c ≠ '\n' && c ≠ '\r'

/-- The host and path that follow the slashes after a scheme. -/
def hierarchical? (usual : Option Nat) (isSlash : Char → Bool) (cs : List Char) :
    Option (String × String) := do
  let authority := cs.takeWhile (!isSlash ·)
  let host ← authority? usual authority
  let segments := match cs.dropWhile (!isSlash ·) with
    | [] => [[]]
    | _ :: rest => splitWhere isSlash rest
  return (host, pathText (plainSegments [] (segments.map (encodePart pathEscaped))))

/-- Reads an address. -/
def ofText? (s : String) : Option Url := do
  let (cs, fragment) := splitAt '#' (cleaned s.toList)
  let (cs, query) := splitAt '?' cs
  let (scheme, rest) ← splitScheme? cs
  let fragment := fragment.map fun cs => String.ofList (encodePart fragmentEscaped cs)
  let query := query.map fun cs => String.ofList (encodePart queryEscaped cs)
  match usualPorts.lookup scheme with
  | some usual =>
    let isSlash (c : Char) : Bool := c = '/' || c = '\\'
    let (host, path) ← hierarchical? (some usual) isSlash (rest.dropWhile isSlash)
    return { scheme, host := some host, path, query, fragment }
  | none =>
    match rest with
    | '/' :: '/' :: rest =>
      if rest.isEmpty || rest.head? = some '/' then
        return { scheme, host := none, path := "//" ++ String.ofList (encodePart pathEscaped rest),
                 query, fragment }
      else
        let (host, path) ← hierarchical? none (· = '/') rest
        return { scheme, host := some host, path, query, fragment }
    | rest =>
      return { scheme, host := none, path := String.ofList (encodeOpaque rest), query, fragment }

/-- The text of an address. -/
def text (u : Url) : String :=
  let host := match u.host with
    | some host => "//" ++ host
    | none => ""
  let query := match u.query with
    | some query => "?" ++ query
    | none => ""
  let fragment := match u.fragment with
    | some fragment => "#" ++ fragment
    | none => ""
  u.scheme ++ ":" ++ host ++ u.path ++ query ++ fragment

/-- Whether requests can be sent to an address. -/
def isWeb (u : Url) : Bool :=
  u.host.isSome && (u.scheme = "http" || u.scheme = "https")

end Url

end AppDeploy
