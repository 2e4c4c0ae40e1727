import AppDeploy.Table
import AppDeploy.Text.Blank

/-! Assignments written as `NAME=VALUE`: the name is what stands before the first equals
sign, without the blanks around it, and the value is everything after the sign. -/
namespace AppDeploy

structure Assignment where
  name : String
  value : String
deriving DecidableEq, Repr

namespace Assignment

/-- Why a text is no assignment. -/
inductive Error where
  | missingSeparator (text : String)
  | emptyName (text : String)
deriving DecidableEq, Repr

def Error.message : Error → String
  | .missingSeparator text => s!"'{text}' must be in the format NAME=VALUE"
  | .emptyName text => s!"'{text}' has an empty name"

/-- The parts of a text before and after its first equals sign. -/
def split? : List Char → Option (List Char × List Char)
  | [] => none
  | c :: rest =>
    if c = '=' then some ([], rest)
    else (split? rest).map fun (before, after) => (c :: before, after)

/-- Reads one assignment. -/
def ofText (s : String) : Except Error Assignment :=
  match split? s.toList with
  | none => .error (.missingSeparator s)
  | some (before, after) =>
    match Text.trimChars before with
    | [] => .error (.emptyName s)
    | name => .ok ⟨String.ofList name, String.ofList after⟩

/-- A table with assignments written into it, up to the first text that is none. -/
def readInto (t : Table String) : List String → Except Error (Table String)
  | [] => .ok t
  | s :: rest => do
    let a ← ofText s
    readInto (t.insert a.name a.value) rest

/-- The table of some assignments; of several to one name the last counts. -/
def readAll (texts : List String) : Except Error (Table String) :=
  readInto .empty texts

end Assignment

end AppDeploy
