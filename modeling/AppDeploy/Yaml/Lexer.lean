import AppDeploy.Yaml.Tag

/-! From text to tokens.

Blocks are told by indentation: a deeper line opens a block and a shallower one closes all
blocks that are deeper. Whether a piece of text is a key shows only at the colon after it,
so the lexer remembers, for every level of brackets, where a key could have started
(`PossibleKey`) and puts the tokens of a key there when its colon comes. -/
namespace AppDeploy.Yaml

/-- A place where a key could have started. -/
structure PossibleKey where
  /-- Whether nothing but a key can stand there. -/
  required : Bool
  /-- The count of tokens before it. -/
  position : Nat
  index : Nat
  line : Nat
  column : Nat
deriving Repr

structure Lexer where
  cursor : Cursor
  tokens : Array Token := #[]
  /-- The column of the innermost block, and those of the blocks around it. -/
  indent : Int := -1
  indents : List Int := []
  /-- Whether a key may start here. -/
  keyAllowed : Bool := true
  /-- The possible keys, innermost level of brackets first. -/
  key : Option PossibleKey := none
  keys : List (Option PossibleKey) := []
deriving Repr

namespace Lexer

/-- Whether the lexer is inside brackets. -/
def flow (l : Lexer) : Bool :=
  !l.keys.isEmpty

def push (l : Lexer) (token : Token) : Lexer :=
  { l with tokens := l.tokens.push token }

def insertAt (l : Lexer) (position : Nat) (token : Token) : Lexer :=
  { l with tokens := l.tokens.insertIdxIfInBounds position token }

def advance (l : Lexer) (count : Nat) : Lexer :=
  { l with cursor := l.cursor.advance count }

/-! ## Blocks -/

/-- Opens a block at a column, if it is deeper than the current one. -/
def openBlock (l : Lexer) (column : Nat) (position : Nat) (token : Token) : Lexer :=
  if !l.flow && l.indent < column then
    { l.insertAt position token with indent := column, indents := l.indent :: l.indents }
  else l

/-- Closes the blocks that are deeper than a column. -/
def closeBlocks (column : Int) (l : Lexer) : (indents : List Int) → Lexer
  | [] => l
  | outer :: rest =>
    if !l.flow && column < l.indent then
      closeBlocks column { l.push .blockEnd with indent := outer, indents := rest } rest
    else l

def unroll (l : Lexer) (column : Int) : Lexer :=
  closeBlocks column l l.indents

/-! ## Possible keys -/

/-- Gives up a possible key; a required one must have had its colon. -/
def dropKey (l : Lexer) : Option Lexer :=
  if l.key.any (·.required) then none else some { l with key := none }

/-- Notes that a key may start here. -/
def saveKey (l : Lexer) : Option Lexer := do
  if !l.keyAllowed then return l
  let c := l.cursor
  let l ← l.dropKey
  let required := !l.flow && l.indent == (c.column : Int)
  return { l with key := some ⟨required, l.tokens.size, c.index, c.line, c.column⟩ }

/-- A key is on one line and has at most 1024 characters. -/
def isStale (c : Cursor) (k : PossibleKey) : Bool :=
  k.line < c.line || k.index + 1024 < c.index

/-- Gives up the keys that can no longer be one. -/
def dropStale (l : Lexer) : Option Lexer := do
  let stale (k : Option PossibleKey) : Bool := k.any (isStale l.cursor)
  guard !((l.key :: l.keys).any fun k => stale k && k.any (·.required))
  let keep (k : Option PossibleKey) := if stale k then none else k
  return { l with key := keep l.key, keys := l.keys.map keep }

/-! ## Tokens -/

/-- Skips blanks, comments and breaks before the next token. -/
def skip : (fuel : Nat) → Lexer → Lexer
  | 0, l => l
  | fuel + 1, l =>
    let c := l.cursor
    let c := if c.index = 0 && c.rest.head? = some '\ufeff' then c.advance 1 else c
    let c := c.skipWhile fun b => b = ' ' || ((l.flow || !l.keyAllowed) && b = '\t')
    let c := match c.rest with
      | '#' :: _ => c.skipWhile (!isBreak ·)
      | _ => c
    if c.rest.head?.any isBreak then
      skip fuel { l with cursor := c.takeBreak.2, keyAllowed := l.keyAllowed || !l.flow }
    else { l with cursor := c }

/-- A token that belongs to the document as a whole: all blocks end before it. -/
def documentToken (l : Lexer) (token : Token) (cursor : Cursor) : Option Lexer := do
  let l ← (l.unroll (-1)).dropKey
  return { l.push token with cursor, keyAllowed := false }

/-- A bracket that opens. -/
def openFlow (l : Lexer) (token : Token) : Option Lexer := do
  let l ← l.saveKey
  return { (l.push token).advance 1 with keys := l.key :: l.keys, key := none, keyAllowed := true }

/-- A bracket that closes. -/
def closeFlow (l : Lexer) (token : Token) : Option Lexer := do
  let l ← l.dropKey
  let (key, keys) := match l.keys with
    | k :: rest => (k, rest)
    | [] => (l.key, [])
  return { (l.push token).advance 1 with key, keys, keyAllowed := false }

/-- The comma between items in brackets. -/
def flowEntry (l : Lexer) : Option Lexer := do
  let l ← l.dropKey
  return { (l.push .flowEntry).advance 1 with keyAllowed := true }

/-- The dash before an item of a block. -/
def blockEntry (l : Lexer) : Option Lexer := do
  guard (l.flow || l.keyAllowed)
  let l := l.openBlock l.cursor.column l.tokens.size .blockSequenceStart
  let l ← l.dropKey
  return { (l.push .blockEntry).advance 1 with keyAllowed := true }

/-- The question mark before a key. -/
def explicitKey (l : Lexer) : Option Lexer := do
  guard (l.flow || l.keyAllowed)
  let l := l.openBlock l.cursor.column l.tokens.size .blockMappingStart
  let l ← l.dropKey
  return { (l.push .key).advance 1 with keyAllowed := !l.flow }

/-- The colon before a value. When a key could have started before it, it did. -/
def valueMark (l : Lexer) : Option Lexer := do
  match l.key with
  | some k =>
    let l := l.insertAt k.position .key
    let l := l.openBlock k.column k.position .blockMappingStart
    return { (l.push .value).advance 1 with key := none, keyAllowed := false }
  | none =>
    guard (l.flow || l.keyAllowed)
    let l := l.openBlock l.cursor.column l.tokens.size .blockMappingStart
    return { (l.push .value).advance 1 with keyAllowed := !l.flow }

/-- A token in front of which a key may start. -/
def keyToken (l : Lexer) (read : Cursor → Option (Token × Cursor)) : Option Lexer := do
  let l ← l.saveKey
  let (token, cursor) ← read l.cursor
  return { l.push token with cursor, keyAllowed := false }

def quotedScalar (l : Lexer) (single : Bool) : Option Lexer :=
  l.keyToken fun c => do
    let (text, c) ← readQuoted single (c.rest.length + 1) [] (c.advance 1)
    return (.scalar (String.ofList text) (if single then .singleQuoted else .doubleQuoted), c)

def blockScalar (l : Lexer) (literal : Bool) : Option Lexer := do
  let l ← l.dropKey
  let (text, cursor) ← readBlock literal l.indent (l.cursor.advance 1)
  let token := Token.scalar (String.ofList text) (if literal then .literal else .folded)
  return { l.push token with cursor, keyAllowed := true }

def plainScalar (l : Lexer) : Option Lexer := do
  let l ← l.saveKey
  let c := l.cursor
  let (text, cursor, broken) ← readPlain l.flow (l.indent + 1).toNat (c.rest.length + 1) [] {} c
  return { l.push (.scalar (String.ofList text) .plain) with cursor, keyAllowed := broken }

/-- The characters that no plain scalar starts with. -/
def isIndicator (c : Char) : Bool :=
  "-?:,[]\x7b\x7d#&*!|>'\"%@`".toList.contains c

/-- Whether a plain scalar starts here. -/
def startsPlain (flow : Bool) (c : Char) (rest : List Char) : Bool :=
  (!isIndicator c && !isBlank c) || (c = '-' && !(rest.head?.any isBlank)) ||
    (!flow && (c = '?' || c = ':') && !atBlank rest)

/-- Reads the token at a character. -/
def tokenAt (l : Lexer) (c : Char) (rest : List Char) : Option Lexer :=
  if l.cursor.column = 0 && c = '%' then do
    let (token, cursor) ← readDirective l.cursor
    l.documentToken token cursor
  else if l.cursor.atDocumentMark then
    l.documentToken (if c = '-' then .documentStart else .documentEnd) (l.cursor.advance 3)
  else if c = '[' then l.openFlow .flowSequenceStart
  else if c = '\x7b' then l.openFlow .flowMappingStart
  else if c = ']' then l.closeFlow .flowSequenceEnd
  else if c = '\x7d' then l.closeFlow .flowMappingEnd
  else if c = ',' then l.flowEntry
  else if c = '-' && atBlank rest then l.blockEntry
  else if c = '?' && (l.flow || atBlank rest) then l.explicitKey
  else if c = ':' && (l.flow || atBlank rest) then l.valueMark
  else if c = '*' then l.keyToken fun c => do
    let (name, c) ← readAnchor (c.advance 1)
    return (.alias name, c)
  else if c = '&' then l.keyToken fun c => do
    let (name, c) ← readAnchor (c.advance 1)
    return (.anchor name, c)
  else if c = '!' then l.keyToken (readTag l.flow)
  else if c = '|' && !l.flow then l.blockScalar true
  else if c = '>' && !l.flow then l.blockScalar false
  else if c = '\'' then l.quotedScalar true
  else if c = '"' then l.quotedScalar false
  else if startsPlain l.flow c rest then l.plainScalar
  else none

/-- The end of the text ends all blocks. -/
def finish (l : Lexer) : Option (Array Token) := do
  let l ← (l.unroll (-1)).dropKey
  return l.tokens

/-- Reads tokens up to the end of the text. -/
def run : (fuel : Nat) → Lexer → Option (Array Token)
  | 0, _ => none
  | fuel + 1, l => do
    let l ← (l.skip (l.cursor.rest.length + 1)).dropStale
    let l := l.unroll l.cursor.column
    match l.cursor.rest with
    | [] => l.finish
    | c :: rest => l.tokenAt c rest >>= run fuel

end Lexer

/-- The characters that YAML text may hold. -/
def isTextChar (c : Char) : Bool :=
  let n := c.toNat
  n = 9 || n = 10 || n = 13 || (32 ≤ n && n ≤ 0x7E) || n = 0x85 || (0xA0 ≤ n && n ≤ 0xFFFD) ||
    0x10000 ≤ n

/-- The tokens of a text, if they can be told. A byte order mark at its start is skipped. -/
def tokens? (s : String) : Option (List Token) := do
  let cs := match s.toList with
    | '\ufeff' :: rest => rest
    | cs => cs
  guard (cs.all isTextChar)
  let tokens ← Lexer.run (cs.length + 1) { cursor := { rest := cs } }
  return tokens.toList

end AppDeploy.Yaml
