import AppDeploy.Yaml.Cursor

/-! Scalars as they are written: plain, in quotes, and as blocks.

A scalar that goes over several lines is folded: one break between two lines reads as a
space, and of several the first is dropped. Readers answer nothing when the text is not
well formed. -/
namespace AppDeploy.Yaml

/-! ## Folding -/

/-- What stands between two pieces of a scalar: blanks within a line, or a first break and
the breaks after it. -/
structure Gap where
  blanks : List Char := []
  first : List Char := []
  more : List Char := []
  broken : Bool := false
deriving Repr

/-- The text of breaks between two lines: a line feed folds, other breaks stay. -/
def foldBreaks (first more : List Char) : List Char :=
  if first = ['\n'] then (if more.isEmpty then [' '] else more) else first ++ more

/-- What a gap reads as. -/
def Gap.text (g : Gap) : List Char :=
  if g.broken then foldBreaks g.first g.more else g.blanks

/-- Reads a gap. In a plain scalar a tab may not stand where the lines of the block that
it is in are indented. -/
def readGap (tabsFrom : Nat) : (fuel : Nat) → Gap → Cursor → Option (Gap × Cursor)
  | 0, g, c => some (g, c)
  | fuel + 1, g, c =>
    match c.rest with
    | b :: _ =>
      if isBlank b then
        if g.broken && b = '\t' && c.column < tabsFrom then none
        else
          let g := if g.broken then g else { g with blanks := g.blanks ++ [b] }
          readGap tabsFrom fuel g (c.advance 1)
      else if isBreak b then
        let (text, next) := c.takeBreak
        let g := if g.broken then { g with more := g.more ++ text }
          else { first := text, broken := true }
        readGap tabsFrom fuel g next
      else some (g, c)
    | [] => some (g, c)

/-! ## Plain scalars -/

/-- The characters that end a plain scalar inside brackets. -/
def isFlowMark (c : Char) : Bool :=
  c = ',' || c = '[' || c = ']' || c = '\x7b' || c = '\x7d'

/-- The length of the next piece of a plain scalar, up to a blank or an indicator. Inside
brackets a colon may not stand right before another indicator. -/
def plainPiece (flow : Bool) : List Char → Option Nat
  | [] => some 0
  | c :: rest =>
    if isBlank c || isBreak c then some 0
    else if c = ':' && flow && (rest.head?.any fun d => isFlowMark d || d = '?') then none
    else if c = ':' && atBlank rest then some 0
    else if flow && isFlowMark c then some 0
    else (plainPiece flow rest).map (· + 1)

/-- Reads a plain scalar: its text, the place after it, and whether that place is on a
later line. -/
def readPlain (flow : Bool) (indent : Nat) : (fuel : Nat) → List Char → Gap → Cursor →
    Option (List Char × Cursor × Bool)
  | 0, text, gap, c => some (text, c, gap.broken)
  | fuel + 1, text, gap, c => do
    if c.atDocumentMark || c.rest.head? = some '#' then
      return (text, c, gap.broken)
    let count ← plainPiece flow c.rest
    let (text, gap) :=
      if count = 0 then (text, gap) else (text ++ gap.text ++ c.rest.take count, {})
    let c := c.advance count
    match c.rest with
    | b :: _ =>
      if isBlank b || isBreak b then
        let (gap, c) ← readGap indent c.rest.length gap c
        if !flow && c.column < indent then return (text, c, gap.broken)
        readPlain flow indent fuel text gap c
      else return (text, c, gap.broken)
    | [] => return (text, c, gap.broken)

/-! ## Quoted scalars -/

/-- The escapes of one character in double quotes. -/
def escapes : List (Char × Char) :=
  [('0', '\x00'), ('a', '\x07'), ('b', '\x08'), ('e', '\x1b'), ('f', '\x0c'), ('n', '\n'),
    ('r', '\r'), ('t', '\t'), ('\t', '\t'), ('v', '\x0b'), (' ', ' '), ('"', '"'), ('/', '/'),
    ('\\', '\\'), ('N', '\x85'), ('_', '\xa0'), ('L', '\u2028'), ('P', '\u2029')]

/-- The escapes of a character by its number, with the count of digits. -/
def numberEscapes : List (Char × Nat) :=
  [('x', 2), ('u', 4), ('U', 8)]

def hexValue? (c : Char) : Option Nat :=
  if c.isDigit then some (c.toNat - 48)
  else if 'a' ≤ c ∧ c ≤ 'f' then some (c.toNat - 87)
  else if 'A' ≤ c ∧ c ≤ 'F' then some (c.toNat - 55)
  else none

/-- The number that hexadecimal digits stand for. -/
def hexNumber? (digits : List Char) : Option Nat :=
  digits.foldlM (fun n c => (hexValue? c).map (n * 16 + ·)) 0

/-- The character of an escape, and how many characters the escape has after its
backslash. -/
def readEscape : List Char → Option (Char × Nat)
  | [] => none
  | e :: rest =>
    match escapes.lookup e, numberEscapes.lookup e with
    | some c, _ => some (c, 1)
    | none, some count => do
      guard (count ≤ rest.length)
      let n ← hexNumber? (rest.take count)
      guard (n < 0xD800 ∨ (0xDFFF < n ∧ n ≤ 0x10FFFF))
      return (Char.ofNat n, 1 + count)
    | none, none => none

/-- Reads the next piece of a quoted scalar, up to a blank, its closing quote, or an
escaped line break, which is taken and told. -/
def readQuotedPiece (single : Bool) : (fuel : Nat) → List Char → Cursor →
    Option (List Char × Cursor × Bool)
  | 0, text, c => some (text, c, false)
  | fuel + 1, text, c =>
    match c.rest with
    | [] => some (text, c, false)
    | q :: rest =>
      if isBlank q || isBreak q then some (text, c, false)
      else if single then
        if q = '\'' then
          if rest.head? = some '\'' then readQuotedPiece single fuel (text ++ ['\'']) (c.advance 2)
          else some (text, c, false)
        else readQuotedPiece single fuel (text ++ [q]) (c.advance 1)
      else if q = '"' then some (text, c, false)
      else if q = '\\' then
        if rest.head?.any isBreak then some (text, (c.advance 1).takeBreak.2, true)
        else do
          let (e, count) ← readEscape rest
          readQuotedPiece single fuel (text ++ [e]) (c.advance (1 + count))
      else readQuotedPiece single fuel (text ++ [q]) (c.advance 1)

/-- Reads a quoted scalar after its opening quote. -/
def readQuoted (single : Bool) : (fuel : Nat) → List Char → Cursor → Option (List Char × Cursor)
  | 0, _, _ => none
  | fuel + 1, text, c => do
    guard (!c.atDocumentMark)
    let (piece, c, joined) ← readQuotedPiece single (c.rest.length + 1) [] c
    let text := text ++ piece
    match c.rest with
    | [] => none
    | q :: _ =>
      if q = (if single then '\'' else '"') then return (text, c.advance 1)
      else
        let (gap, c) ← readGap 0 (c.rest.length + 1) { broken := joined } c
        readQuoted single fuel (text ++ gap.text) c

/-! ## Block scalars -/

/-- What becomes of the breaks at the end of a block scalar. -/
inductive Chomping where
  | strip
  | clip
  | keep
deriving DecidableEq, Repr

def chompingOf? : Char → Option Chomping
  | '+' => some .keep
  | '-' => some .strip
  | _ => none

/-- The indentation that a header asks for; it is not zero. -/
def readIndent (c : Cursor) : Option (Nat × Cursor) :=
  match c.rest with
  | d :: _ =>
    if d.isDigit then if d = '0' then none else some (d.toNat - 48, c.advance 1) else some (0, c)
  | [] => some (0, c)

/-- The header of a block scalar: chomping and indentation, in either order. -/
def readHeader (c : Cursor) : Option (Chomping × Nat × Cursor) :=
  match c.rest.head?.bind chompingOf? with
  | some chomping => (readIndent (c.advance 1)).map fun (n, c) => (chomping, n, c)
  | none => do
    let (n, c) ← readIndent c
    if n = 0 then return (.clip, 0, c)
    match c.rest.head?.bind chompingOf? with
    | some chomping => return (chomping, n, c.advance 1)
    | none => return (.clip, n, c)

/-- Reads the breaks between lines of a block scalar and the blanks that indent the next
line. While the indentation is not known (0), the longest one seen is returned with it. -/
def readBlockBreaks (indent : Nat) : (fuel : Nat) → (longest : Nat) → List Char → Cursor →
    Option (Nat × List Char × Cursor)
  | 0, longest, text, c => some (longest, text, c)
  | fuel + 1, longest, text, c =>
    let spaces := (c.rest.takeWhile (· = ' ')).length
    let c := c.advance (if indent = 0 then spaces else min spaces (indent - c.column))
    let longest := max longest c.column
    if (indent = 0 || c.column < indent) && c.rest.head? = some '\t' then none
    else if c.rest.head?.any isBreak then
      let (b, next) := c.takeBreak
      readBlockBreaks indent fuel longest (text ++ b) next
    else some (longest, text, c)

/-- Reads the lines of a block scalar. `first` is the break before the line, `more` are the
breaks after that one, and `blank` says whether the last line started with a blank. -/
def readBlockLines (literal : Bool) (indent : Nat) : (fuel : Nat) → (text first more : List Char) →
    (blank : Bool) → Cursor → Option (List Char × List Char × List Char × Cursor)
  | 0, text, first, more, _, c => some (text, first, more, c)
  | fuel + 1, text, first, more, blank, c =>
    if c.column ≠ indent || c.rest.isEmpty then some (text, first, more, c)
    else do
      let starts := c.rest.head?.any isBlank
      let joined :=
        if !literal && first = ['\n'] && !blank && !starts then
          (if more.isEmpty then [' '] else more)
        else first ++ more
      let (line, c) := c.span (!isBreak ·)
      let (first, c) := c.takeBreak
      let (_, more, c) ← readBlockBreaks indent (c.rest.length + 1) 0 [] c
      readBlockLines literal indent fuel (text ++ joined ++ line) first more starts c

/-- Reads a block scalar after its indicator, in a block that is indented by `outer`. -/
def readBlock (literal : Bool) (outer : Int) (c : Cursor) : Option (List Char × Cursor) := do
  let (chomping, increment, c) ← readHeader c
  let c ← c.endLine?
  let given : Nat := if increment = 0 then 0 else outer.toNat + increment
  let (longest, more, c) ← readBlockBreaks given (c.rest.length + 1) 0 [] c
  let indent := if given = 0 then max longest (max (outer + 1).toNat 1) else given
  let (text, first, more, c) ← readBlockLines literal indent (c.rest.length + 1) [] [] more false c
  let kept := if chomping = .strip then text else text ++ first
  return (if chomping = .keep then kept ++ more else kept, c)

end AppDeploy.Yaml
