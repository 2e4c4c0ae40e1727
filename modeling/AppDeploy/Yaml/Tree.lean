import AppDeploy.Yaml.Token

/-! From tokens to the tree of a document, in which aliases still refer to anchors.

An anchor gets a number when its node starts: the count of the names that are anchored so
far. Anchoring a name again gives that name a new number, which a later name can get as
well; an alias refers to a number, and so to the last node that got it. -/
namespace AppDeploy.Yaml

/-- A scalar: its text, how it is written, and its tag. -/
structure Scalar where
  text : String
  style : Style
  tag : Option String
deriving DecidableEq, Repr

/-- A value that is not written at all. -/
def Scalar.absent : Scalar := ⟨"", .plain, none⟩

inductive Tree where
  | scalar (s : Scalar)
  | list (tag : Option String) (items : List Tree)
  | table (tag : Option String) (entries : List (Tree × Tree))
  | alias (number : Nat)
deriving Inhabited

namespace Tree

/-- The anchors of the nodes that were started so far. -/
structure Anchors where
  /-- The numbers of the anchored names. -/
  names : List (String × Nat) := []
  /-- For numbers, last first, the node that got them. Nodes are counted by their start. -/
  holders : List (Nat × Nat) := []
  /-- The anchored nodes that are complete. -/
  nodes : List (Nat × Tree) := []

/-- Gives a number to a name. The node that starts with it is the returned one. -/
def Anchors.start (a : Anchors) (name : String) : Nat × Anchors :=
  let number := a.names.length
  let node := a.holders.length
  (node, { a with
    names := (name, number) :: a.names.filter (·.1 != name)
    holders := (number, node) :: a.holders })

def Anchors.complete (a : Anchors) (node : Nat) (tree : Tree) : Anchors :=
  { a with nodes := (node, tree) :: a.nodes }

/-- The node that a number refers to. -/
def Anchors.node? (a : Anchors) (number : Nat) : Option Tree :=
  (a.holders.lookup number).bind fun node => a.nodes.lookup node

/-- What a parser goes by: the handles of tags, the anchors, and the tokens that are left. -/
structure State where
  handles : List (String × String)
  anchors : Anchors
  tokens : List Token

/-- A parser of a part of a document. -/
abbrev Parser (α : Type) := State → Option (α × State)

/-! ## Parts of a node -/

/-- The properties of a node. -/
structure Properties where
  anchor : Option String := none
  tag : Option (String × String) := none

/-- An anchor and a tag, in either order. -/
def readProperties : List Token → Properties × List Token
  | .anchor a :: .tag h s :: rest => ({ anchor := some a, tag := some (h, s) }, rest)
  | .anchor a :: rest => ({ anchor := some a }, rest)
  | .tag h s :: .anchor a :: rest => ({ anchor := some a, tag := some (h, s) }, rest)
  | .tag h s :: rest => ({ tag := some (h, s) }, rest)
  | tokens => ({}, tokens)

/-- The full tag of a handle and a suffix. -/
def expandTag (handles : List (String × String)) : Option (String × String) → Option (Option String)
  | none => some none
  | some (handle, suffix) =>
    if handle.isEmpty then some (some suffix)
    else (handles.lookup handle).map fun expansion => some (expansion ++ suffix)

/-- A scalar with a tag; a lone exclamation mark stands for no tag. -/
def taggedScalar (text : String) (style : Style) (tag : Option String) : Scalar :=
  ⟨text, style, if tag = some "!" then none else tag⟩

def absent : Tree := .scalar .absent

/-- Whether the next token is one of those that leave a node out. -/
def isNext (p : Token → Bool) (tokens : List Token) : Bool :=
  match tokens with
  | t :: _ => p t
  | [] => false

def endsBlockItem : Token → Bool
  | .blockEntry | .blockEnd => true
  | _ => false

def endsPlainItem : Token → Bool
  | .blockEntry | .key | .value | .blockEnd => true
  | _ => false

def endsBlockPart : Token → Bool
  | .key | .value | .blockEnd => true
  | _ => false

def endsFlowKey : Token → Bool
  | .value | .flowEntry | .flowMappingEnd => true
  | _ => false

def endsFlowValue : Token → Bool
  | .flowEntry | .flowMappingEnd => true
  | _ => false

def endsPairKey : Token → Bool
  | .value | .flowEntry | .flowSequenceEnd => true
  | _ => false

def endsPairValue : Token → Bool
  | .flowEntry | .flowSequenceEnd => true
  | _ => false

/-! ## Nodes -/

mutual

/-- Reads a node. Block collections count where `block` is set; where `plain` is set, a
sequence may stand that is not indented. -/
def readNode (block plain : Bool) : (fuel : Nat) → Parser Tree
  | 0, _ => none
  | fuel + 1, s =>
    match s.tokens with
    | .alias name :: rest => do
      let number ← s.anchors.names.lookup name
      return (.alias number, { s with tokens := rest })
    | tokens => do
      let (properties, rest) := readProperties tokens
      let tag ← expandTag s.handles properties.tag
      let s := { s with tokens := rest }
      match properties.anchor with
      | none => readContent block plain tag false fuel s
      | some name =>
        let (node, anchors) := s.anchors.start name
        let (tree, s) ← readContent block plain tag true fuel { s with anchors }
        return (tree, { s with anchors := s.anchors.complete node tree })

/-- Reads what a node has after its properties. -/
def readContent (block plain : Bool) (tag : Option String) (anchored : Bool) :
    (fuel : Nat) → Parser Tree
  | 0, _ => none
  | fuel + 1, s =>
    match s.tokens with
    | .scalar text style :: rest =>
      some (.scalar (taggedScalar text style tag), { s with tokens := rest })
    | .flowSequenceStart :: rest => do
      let (items, s) ← readFlowItems true fuel { s with tokens := rest }
      return (.list tag items, s)
    | .flowMappingStart :: rest => do
      let (entries, s) ← readFlowEntries true fuel { s with tokens := rest }
      return (.table tag entries, s)
    | tokens =>
      match block, plain, tokens with
      | _, true, .blockEntry :: _ => do
        let (items, s) ← readPlainItems fuel s
        return (.list tag items, s)
      | true, _, .blockSequenceStart :: rest => do
        let (items, s) ← readBlockItems fuel { s with tokens := rest }
        return (.list tag items, s)
      | true, _, .blockMappingStart :: rest => do
        let (entries, s) ← readBlockEntries fuel { s with tokens := rest }
        return (.table tag entries, s)
      | _, _, _ =>
        if anchored || tag.isSome then some (.scalar (taggedScalar "" .plain tag), s) else none

/-- Reads a node unless the next token says that it is left out. -/
def readUnless (p : Token → Bool) (block plain : Bool) : (fuel : Nat) → Parser Tree
  | 0, _ => none
  | fuel + 1, s =>
    if isNext p s.tokens then some (absent, s) else readNode block plain fuel s

/-- The items of an indented sequence. -/
def readBlockItems : (fuel : Nat) → Parser (List Tree)
  | 0, _ => none
  | fuel + 1, s =>
    match s.tokens with
    | .blockEntry :: rest => do
      let (item, s) ← readUnless endsBlockItem true false fuel { s with tokens := rest }
      let (items, s) ← readBlockItems fuel s
      return (item :: items, s)
    | .blockEnd :: rest => some ([], { s with tokens := rest })
    | _ => none

/-- The items of a sequence that is not indented. -/
def readPlainItems : (fuel : Nat) → Parser (List Tree)
  | 0, _ => none
  | fuel + 1, s =>
    match s.tokens with
    | .blockEntry :: rest => do
      let (item, s) ← readUnless endsPlainItem true false fuel { s with tokens := rest }
      let (items, s) ← readPlainItems fuel s
      return (item :: items, s)
    | _ => some ([], s)

/-- The value of an entry, if its colon is there. -/
def readValue (p : Token → Bool) (block : Bool) : (fuel : Nat) → Parser Tree
  | 0, _ => none
  | fuel + 1, s =>
    match s.tokens with
    | .value :: rest => readUnless p block block fuel { s with tokens := rest }
    | _ => some (absent, s)

/-- The entries of a block mapping. -/
def readBlockEntries : (fuel : Nat) → Parser (List (Tree × Tree))
  | 0, _ => none
  | fuel + 1, s =>
    match s.tokens with
    | .key :: rest => do
      let (key, s) ← readUnless endsBlockPart true true fuel { s with tokens := rest }
      let (value, s) ← readValue endsBlockPart true fuel s
      let (entries, s) ← readBlockEntries fuel s
      return ((key, value) :: entries, s)
    | .blockEnd :: rest => some ([], { s with tokens := rest })
    | _ => none

/-- The items of a sequence in brackets. An item that is marked as a key is an entry, and
stands for a mapping of its own. -/
def readFlowItems (first : Bool) : (fuel : Nat) → Parser (List Tree)
  | 0, _ => none
  | fuel + 1, s =>
    match first, s.tokens with
    | _, .flowSequenceEnd :: rest => some ([], { s with tokens := rest })
    | false, .flowEntry :: rest => readFlowItem fuel { s with tokens := rest }
    | false, _ => none
    | true, _ => readFlowItem fuel s

/-- The next item in brackets, and those after it. -/
def readFlowItem : (fuel : Nat) → Parser (List Tree)
  | 0, _ => none
  | fuel + 1, s =>
    match s.tokens with
    | .flowSequenceEnd :: rest => some ([], { s with tokens := rest })
    | .key :: rest => do
      let (pair, s) ← readPair fuel { s with tokens := rest }
      let (items, s) ← readFlowItems false fuel s
      return (.table none [pair] :: items, s)
    | _ => do
      let (item, s) ← readNode false false fuel s
      let (items, s) ← readFlowItems false fuel s
      return (item :: items, s)

/-- The entry that an item in brackets stands for. When its key is left out, the token
that says so is lost. -/
def readPair : (fuel : Nat) → Parser (Tree × Tree)
  | 0, _ => none
  | fuel + 1, s => do
    let (key, s) ←
      if isNext endsPairKey s.tokens then some (absent, { s with tokens := s.tokens.drop 1 })
      else readNode false false fuel s
    let (value, s) ← readValue endsPairValue false fuel s
    return ((key, value), s)

/-- The entries of a mapping in braces. -/
def readFlowEntries (first : Bool) : (fuel : Nat) → Parser (List (Tree × Tree))
  | 0, _ => none
  | fuel + 1, s =>
    match first, s.tokens with
    | _, .flowMappingEnd :: rest => some ([], { s with tokens := rest })
    | false, .flowEntry :: rest => readFlowEntry fuel { s with tokens := rest }
    | false, _ => none
    | true, _ => readFlowEntry fuel s

/-- The next entry in braces, and those after it. Without a mark it has no value. -/
def readFlowEntry : (fuel : Nat) → Parser (List (Tree × Tree))
  | 0, _ => none
  | fuel + 1, s =>
    match s.tokens with
    | .flowMappingEnd :: rest => some ([], { s with tokens := rest })
    | .key :: rest => do
      let (key, s) ← readUnless endsFlowKey false false fuel { s with tokens := rest }
      let (value, s) ← readValue endsFlowValue false fuel s
      let (entries, s) ← readFlowEntries false fuel s
      return ((key, value) :: entries, s)
    | _ => do
      let (key, s) ← readNode false false fuel s
      let (entries, s) ← readFlowEntries false fuel s
      return ((key, absent) :: entries, s)

end

/-! ## Documents -/

/-- The handles that are always known. -/
def standardHandles : List (String × String) :=
  [("!", "!"), ("!!", "tag:yaml.org,2002:")]

/-- The directives before a document: the version is 1.1 or 1.2 and given once, and no
handle is given twice. -/
def readDirectives (version : Bool) (handles : List (String × String)) :
    List Token → Option (List (String × String) × List Token)
  | .version major minor :: rest => do
    guard (!version && major = 1 && (minor = 1 || minor = 2))
    readDirectives true handles rest
  | .tagHandle handle expansion :: rest => do
    guard (handles.lookup handle).isNone
    readDirectives version (handles ++ [(handle, expansion)]) rest
  | tokens => some (handles ++ standardHandles, tokens)

/-- Whether a document has no node before this token. -/
def endsDocument : List Token → Bool
  | [] => true
  | .version _ _ :: _ | .tagHandle _ _ :: _ | .documentStart :: _ | .documentEnd :: _ => true
  | _ => false

def isDirective : Token → Bool
  | .version _ _ | .tagHandle _ _ => true
  | _ => false

/-- The one document of some tokens. There is none when there are no tokens, and the
answer is missing when the tokens are not those of one document. -/
def document? (tokens : List Token) : Option (Option (Tree × Anchors)) := do
  if tokens.isEmpty then return none
  let fuel := 6 * tokens.length + 8
  let (handles, rest) ← readDirectives false [] tokens
  let explicit := isNext isDirective tokens || isNext (· == .documentStart) rest
  guard (!explicit || isNext (· == .documentStart) rest)
  let start : State := ⟨handles, {}, if explicit then rest.drop 1 else rest⟩
  let (tree, s) ←
    if explicit && endsDocument start.tokens then some (absent, start)
    else readNode true false fuel start
  guard (s.tokens.all (· == .documentEnd))
  return some (tree, s.anchors)

end Tree

end AppDeploy.Yaml
