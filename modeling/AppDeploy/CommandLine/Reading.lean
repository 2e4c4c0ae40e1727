import AppDeploy.CommandLine.Usage

/-! Reading the arguments of one command.

An option gets its operand in the same text or in the next one. Its operand is looked at when
the next argument that is known comes, or at the end, so an unknown argument is noticed
before a bad operand. After `--` everything goes by position. -/
namespace AppDeploy.CommandLine

/-- What has been read of the arguments of a command. -/
structure Reading where
  /-- The arguments that were given, with their operands, in order of first use. -/
  given : List (Argument × List String) := []
  /-- The argument whose operands are not looked at yet. -/
  pending : Option (Argument × List String) := none
  /-- Whether the pending option gets the next text. -/
  isOpen : Bool := false
  /-- Whether the position is taken. -/
  positioned : Bool := false
  /-- Whether everything goes by position. -/
  trailing : Bool := false

namespace Reading

/-! ## Operands -/

/-- What is wrong with the digits that follow those of a number. The first bad character or
the first digit too many is what counts. -/
def digitsFault? (n : Nat) : List Char → Option String
  | [] => none
  | c :: rest =>
    let next := n * 10 + (c.toNat - 48)
    if !c.isDigit then some "invalid digit found in string"
    else if Nat.pow 2 64 ≤ next then some "number too large to fit in target type"
    else digitsFault? next rest

/-- Why a text is no natural number of 64 bits. -/
def numberFault? (cs : List Char) : Option String :=
  match cs with
  | [] => some "cannot parse integer from empty string"
  | '+' :: c :: rest => digitsFault? 0 (c :: rest)
  | cs => digitsFault? 0 cs

/-- What is wrong with an operand. -/
def operandError? (a : Argument) (text : String) : Option UsageError :=
  match a.operand with
  | .none | .text => none
  | .path => if text.isEmpty then some (.missingOperand a) else none
  | .number => (numberFault? text.toList).map (.badNumber text a)

def isGiven (r : Reading) (a : Argument) : Bool :=
  r.given.any (·.1 == a)

/-- Adds operands to those of an argument. -/
def addTo (a : Argument) (operands : List String) :
    List (Argument × List String) → List (Argument × List String)
  | [] => [(a, operands)]
  | (b, before) :: rest =>
    if b = a then (b, before ++ operands) :: rest else (b, before) :: addTo a operands rest

/-- Keeps an argument with its operands. -/
def keep (r : Reading) (a : Argument) (operands : List String) : Except UsageError Reading := do
  if !a.isSwitch && operands.isEmpty then throw (.missingOperand a)
  if r.isGiven a && !a.repeatable then throw (.repeatedArgument a)
  match operands.findSome? (operandError? a) with
  | some e => throw e
  | none => return { r with given := addTo a operands r.given }

/-- Looks at the operands of the pending argument. -/
def settle (r : Reading) : Except UsageError Reading :=
  match r.pending with
  | none => .ok r
  | some (a, operands) => { r with pending := none }.keep a operands

/-! ## Arguments -/

def stop (found : Except UsageError α) : Except Stop α :=
  found.mapError .usage

/-- Takes a switch. -/
def takeSwitch (r : Reading) (a : Argument) : Except Stop Reading := do
  let r ← stop r.settle
  match a.effect with
  | .showHelp => throw .help
  | .showVersion => throw .version
  | .keep => stop ({ r with isOpen := false }.keep a [])

/-- Takes an option with the operand that stands in the same text, if there is one. -/
def takeOption (r : Reading) (a : Argument) (attached : Option String) : Except Stop Reading := do
  let r ← stop r.settle
  match attached with
  | some text => stop ({ r with isOpen := false }.keep a [text])
  | none => return { r with pending := some (a, []), isOpen := true }

/-- A text before and after its first equals sign. -/
def splitEquals (cs : List Char) : List Char × Option String :=
  match cs.dropWhile (· ≠ '=') with
  | [] => (cs, none)
  | _ :: rest => (cs.takeWhile (· ≠ '='), some (String.ofList rest))

/-- Takes an option by its name. -/
def takeLong (arguments : List Argument) (r : Reading) (cs : List Char) : Except Stop Reading := do
  let (name, attached) := splitEquals cs
  let name := String.ofList name
  let isNamed (a : Argument) : Bool :=
    !a.isPosition && (a.name == name || a.otherName == some name)
  match arguments.find? isNamed with
  | none => throw (.usage (.unexpectedArgument s!"--{name}"))
  | some a =>
    match a.isSwitch, attached with
    | true, some text => throw (.usage (.needlessOperand text a))
    | true, none => r.takeSwitch a
    | false, attached => r.takeOption a attached

/-- The operand that follows an option in a cluster; an equals sign may stand before it. -/
def clusterOperand : List Char → Option String
  | [] => none
  | '=' :: rest => some (String.ofList rest)
  | cs => some (String.ofList cs)

/-- Takes a cluster of options by their letters. -/
def takeShort (arguments : List Argument) (r : Reading) : List Char → Except Stop Reading
  | [] => .ok r
  | c :: rest => do
    match arguments.find? (·.short == some c) with
    | none => throw (.usage (.unexpectedArgument s!"-{c}"))
    | some a =>
      if a.isSwitch then takeShort arguments (← r.takeSwitch a) rest
      else r.takeOption a (clusterOperand rest)

/-- Takes a text by its position. -/
def takePosition (arguments : List Argument) (r : Reading) (text : String) :
    Except Stop Reading := do
  match arguments.find? (·.isPosition), r.positioned with
  | some a, false =>
    let r ← stop r.settle
    return { r with pending := some (a, [text]), isOpen := false, positioned := true }
  | _, _ => throw (.usage (.unexpectedArgument text))

/-- Gives a text to the option that waits for it, or takes it by its position. -/
def takePlain (arguments : List Argument) (r : Reading) (text : String) : Except Stop Reading :=
  match r.pending, r.isOpen with
  | some (a, operands), true =>
    .ok { r with pending := some (a, operands ++ [text]), isOpen := false }
  | _, _ => r.takePosition arguments text

/-- Whether a text is an option or a cluster of them. -/
def isOption (text : String) : Bool :=
  match text.toList with
  | '-' :: _ :: _ => true
  | _ => false

/-- Takes one text. -/
def take (arguments : List Argument) (r : Reading) (text : String) : Except Stop Reading :=
  if r.trailing then r.takePosition arguments text
  else
    match text.toList with
    | ['-', '-'] => .ok { r with trailing := true }
    | '-' :: '-' :: rest => r.takeLong arguments rest
    | '-' :: c :: rest => r.takeShort arguments (c :: rest)
    | _ => r.takePlain arguments text

def takeAll (arguments : List Argument) (r : Reading) : List String → Except Stop Reading
  | [] => stop r.settle
  | text :: rest => do takeAll arguments (← r.take arguments text) rest

/-! ## What was read -/

/-- The first of the given arguments that another given one excludes. -/
def conflict? (r : Reading) (excluding : List (Argument × Argument)) : Option UsageError :=
  r.given.findSome? fun (a, _) =>
    (excluding.find? fun (b, c) => b = a && r.isGiven c).map fun (_, c) => .conflict a c

/-- The operands of the argument with a name. -/
def operands (r : Reading) (name : String) : List String :=
  match r.given.find? (·.1.name == name) with
  | some (_, operands) => operands
  | none => []

def operand? (r : Reading) (name : String) : Option String :=
  (r.operands name).head?

def has (r : Reading) (name : String) : Bool :=
  r.given.any (·.1.name == name)

end Reading

end AppDeploy.CommandLine
