import AppDeploy.Number.Shortest
import AppDeploy.Text.Quoted

/-! What can be wrong with the shape of a document that a record is read from, where in the
document it was noticed, and how both are told. -/
namespace AppDeploy.Record

/-- What a document holds at a place where something else was wanted. -/
inductive Found where
  | nothing
  | flag (value : Bool)
  | integer (value : Int)
  | wide (value : Int)
  | real (value : Binary64)
  | text (value : String)
  | list
  | table
  | choice
deriving DecidableEq, Repr

inductive Fault where
  | wrongKind (found : Found) (expected : String)
  | wrongValue (found : Found) (expected : String)
  | wrongLength (length : Nat) (expected : String)
  | missingField (name : String)
  | duplicateField (name : String)
  | unknownVariant (name : String) (known : List String)
  | refused (reason : String)
  | numberTooLarge
  | nestedTooDeep
  | repeatedTooOften
  | malformed
deriving DecidableEq, Repr

/-- One step from a document into one of its parts. -/
inductive Step where
  | field (name : String)
  | item (index : Nat)
deriving DecidableEq, Repr

abbrev Path := List Step

/-- A fault with the place where it was noticed. A reader that only looks at a text it was
given leaves the place open, and the record around it fills in its own. -/
structure ShapeError where
  place : Option Path
  fault : Fault
deriving DecidableEq, Repr

namespace Path

/-- The text of a path after the steps before it. -/
def textAfter (before : String) : Path → String
  | [] => before
  | .field name :: rest =>
    textAfter (if before.isEmpty then name else before ++ "." ++ name) rest
  | .item index :: rest => textAfter (before ++ "[" ++ toString index ++ "]") rest

def text (path : Path) : String :=
  textAfter "" path

end Path

/-- The names among which a choice is made. -/
def oneOf : List String → String
  | [a] => s!"`{a}`"
  | [a, b] => s!"`{a}` or `{b}`"
  | names => "one of " ++ ", ".intercalate (names.map fun name => s!"`{name}`")

/-- The text of a fault, given how its notation describes what it holds. -/
def Fault.message (describe : Found → String) : Fault → String
  | .wrongKind found expected => s!"invalid type: {describe found}, expected {expected}"
  | .wrongValue found expected => s!"invalid value: {describe found}, expected {expected}"
  | .wrongLength length expected => s!"invalid length {length}, expected {expected}"
  | .missingField name => s!"missing field `{name}`"
  | .duplicateField name => s!"duplicate field `{name}`"
  | .unknownVariant name known => s!"unknown variant `{name}`, expected {oneOf known}"
  | .refused reason => reason
  | .numberTooLarge => "JSON number out of range"
  | .nestedTooDeep => "recursion limit exceeded"
  | .repeatedTooOften => "repetition limit exceeded"
  | .malformed => "malformed document"

/-- Whether a fault concerns the whole document rather than one place in it. -/
def Fault.isGlobal : Fault → Bool
  | .nestedTooDeep | .repeatedTooOften | .malformed => true
  | _ => false

/-- The text of an error with its place in front. -/
def ShapeError.placedMessage (describe : Found → String) (e : ShapeError) : String :=
  let path := (e.place.getD []).text
  if path.isEmpty || e.fault.isGlobal then e.fault.message describe
  else path ++ ": " ++ e.fault.message describe

/-- The result of a reading with its fault put at a place, if it has none yet. -/
def placed (path : Path) : Except ShapeError α → Except ShapeError α
  | .error ⟨none, fault⟩ => .error ⟨some path, fault⟩
  | result => result

/-- The result of reading one piece of a document at a place. -/
def located (path : Path) : Except Fault α → Except ShapeError α
  | .error fault => .error ⟨some path, fault⟩
  | .ok a => .ok a

/-- A fault whose place is left to the record around it. -/
def fail (fault : Fault) : Except ShapeError α :=
  .error ⟨none, fault⟩

end AppDeploy.Record
