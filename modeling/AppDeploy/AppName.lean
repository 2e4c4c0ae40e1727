import AppDeploy.Record.Fields

/-! App names.

A name becomes a host name and a repository, so it is a DNS label: small ASCII letters,
digits and hyphens, at most 63 of them, with no hyphen at either end. -/
namespace AppDeploy

namespace AppName

/-- Why a text is no app name. -/
inductive Error where
  | empty
  | tooLong
  | edgeHyphen
  | notLowercase
  | invalidChar (c : Char)
deriving DecidableEq, Repr

def Error.message : Error → String
  | .empty => "app name cannot be empty"
  | .tooLong => "app name exceeds maximum length of 63 characters"
  | .edgeHyphen => "app name cannot start or end with a hyphen"
  | .notLowercase => "app name must be lowercase"
  | .invalidChar c => s!"invalid character in app name: '{c}'"

/-- The greatest length of a name, in bytes. -/
def maxLength : Nat := 63

/-- The characters of names. -/
def isNameChar (c : Char) : Bool :=
  c.isLower || c.isDigit || c = '-'

/-- What is wrong with a single character. -/
def charError? (c : Char) : Option Error :=
  if c.isUpper then some .notLowercase
  else if isNameChar c then none
  else some (.invalidChar c)

/-- The length of a text in bytes. -/
def byteLength : List Char → Nat
  | [] => 0
  | c :: rest => c.utf8Size + byteLength rest

/-- What is wrong with the characters of a name: the length is looked at first, then the
ends, then the characters in order. -/
def charsError? (cs : List Char) : Option Error :=
  if cs = [] then some .empty
  else if maxLength < byteLength cs then some .tooLong
  else if cs.head? = some '-' ∨ cs.getLast? = some '-' then some .edgeHyphen
  else cs.findSome? charError?

end AppName

/-- The name of an app. -/
structure AppName where
  text : String
  sound : AppName.charsError? text.toList = none

namespace AppName

theorem ext_text {a b : AppName} (h : a.text = b.text) : a = b := by
  cases a; cases b; simp_all

instance : DecidableEq AppName := fun a b =>
  decidable_of_iff (a.text = b.text) ⟨ext_text, congrArg text⟩

instance : Repr AppName := ⟨fun a n => reprPrec a.text n⟩

/-- Reads a name. -/
def ofText (s : String) : Except Error AppName :=
  match h : charsError? s.toList with
  | none => .ok ⟨s, h⟩
  | some e => .error e

/-- A name in a record. The place of a bad one is that of the record it is in. -/
def read [Record.Source δ] : Record.Reader δ AppName := fun path d => do
  match ofText (← Record.text path d) with
  | .ok name => return name
  | .error e => Record.fail (.refused e.message)

end AppName

end AppDeploy
