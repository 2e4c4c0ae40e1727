import AppDeploy.Record.Fields
import AppDeploy.Yaml.Node
import AppDeploy.Yaml.Plain

/-! Reading records from YAML. -/
namespace AppDeploy.Yaml

open Record (Fault Found ShapeError Path Items Entries Body Source)

/-- How a message describes what a document holds. -/
def describe : Found → String
  | .nothing => "unit value"
  | .flag b => s!"boolean `{b}`"
  | .integer n => s!"integer `{n}`"
  | .wide n => if n < 0 then s!"integer `{n}` as i128" else s!"integer `{n}` as u128"
  | .real x => s!"floating point `{x.positionalText}`"
  | .text s => s!"string {Text.quoted s}"
  | .list => "sequence"
  | .table => "map"
  | .choice => "enum"

/-- What the value of a plain scalar is called. -/
def Plain.Value.found : Plain.Value → Found
  | .nothing => .nothing
  | .flag b => .flag b
  | .integer n => .integer n
  | .wide n => .wide n
  | .real x => .real x
  | .text s => .text s

/-! ## Tags -/

def coreTag (name : String) : String :=
  "tag:yaml.org,2002:" ++ name

/-- The name in a tag of one's own. -/
def ownTag? (tag : Option String) : Option String :=
  tag.bind fun t =>
    match t.toList with
    | '!' :: name => some (String.ofList name)
    | _ => none

namespace Scalar

/-- A scalar under a tag of the core schema, which has to fit. -/
def underTag (s : Scalar) (expected : String) (value : Option Plain.Value) :
    Except Fault Plain.Value :=
  match value with
  | some v => .ok v
  | none => .error (.wrongValue (.text s.text) expected)

/-- What a scalar stands for, by its tag and, if it is plain, by its text. -/
def resolve (s : Scalar) : Except Fault Plain.Value :=
  let plain : Plain.Value := if s.style = .plain then Plain.value s.text else .text s.text
  match s.tag with
  | none => .ok plain
  | some tag =>
    if tag = coreTag "bool" then
      s.underTag "a boolean" ((Plain.flag? s.text).map .flag)
    else if tag = coreTag "int" then s.underTag "an integer" (Plain.integer? s.text)
    else if tag = coreTag "float" then s.underTag "a float" ((Plain.real? s.text).map .real)
    else if tag = coreTag "null" then
      s.underTag "null" (if Plain.isNull s.text then some .nothing else none)
    else if (ownTag? s.tag).isSome then .ok plain
    else .ok (.text s.text)

/-- Whether a scalar may stand for a value of a core type: it is plain, or a literal block
under the tag of that type. -/
def mayBe (s : Scalar) (type : String) : Bool :=
  s.style = .plain || (s.style = .literal && s.tag = some (coreTag type))

/-- Whether a scalar is left out. -/
def isAbsent (s : Scalar) : Bool :=
  s.text.isEmpty && s.style = .plain

end Scalar

namespace Node

/-- What a node holds, if it holds anything. -/
def found : Node → Except Fault Found
  | .scalar s => s.resolve.map Plain.Value.found
  | .list _ _ => .ok .list
  | .table _ _ => .ok .table
  | .nothing => .error .malformed
  | .tooDeep => .error .nestedTooDeep
  | .tooOften => .error .repeatedTooOften

/-- The fault of a node where something else was wanted. -/
def mismatch (expected : String) (n : Node) : Except Fault α := do
  throw (.wrongKind (← n.found) expected)

/-- Any scalar reads as a text. -/
def asText (expected : String) : Node → Except Fault String
  | .scalar s => .ok s.text
  | n => n.mismatch expected

def asFlag (n : Node) : Except Fault Bool :=
  match n with
  | .scalar s =>
    match if s.mayBe "bool" then Plain.flag? s.text else none with
    | some b => .ok b
    | none => n.mismatch "a boolean"
  | n => n.mismatch "a boolean"

def asNatural (expected : String) (limit : Nat) (n : Node) : Except Fault Nat :=
  match n with
  | .scalar s =>
    match if s.mayBe "int" then Plain.natural? (Nat.pow 2 64) s.text.toList else none with
    | some k => if k < limit then .ok k else .error (.wrongValue (.integer k) expected)
    | none => n.mismatch expected
  | n => n.mismatch expected

/-- A value is absent when a plain scalar says so. Under the tag of nothing, no other text
may stand; that fault is placed by the record around it. -/
def asPresent? (n : Node) : Except ShapeError (Option Node) :=
  match n with
  | .scalar s =>
    if s.style ≠ .plain then .ok (some n)
    else if s.tag = some (coreTag "null") then
      if Plain.isNull s.text then .ok none
      else Record.fail (.wrongValue (.text s.text) "null")
    else if s.tag.isSome then .ok (some n)
    else .ok (if Plain.isNothing s.text then none else some n)
  | .nothing => .ok none
  | n => .ok (some n)

def asList (n : Node) : Except Fault (Items Node) :=
  match n with
  | .list _ items => .ok ⟨items, true⟩
  | .nothing => .ok ⟨[], true⟩
  | .scalar s => if s.isAbsent then .ok ⟨[], true⟩ else n.mismatch "a sequence"
  | n => n.mismatch "a sequence"

def asEntries (expected : String) (n : Node) : Except Fault (Entries Node) :=
  match n with
  | .table _ entries => .ok ⟨entries, true⟩
  | .nothing => .ok ⟨[], true⟩
  | .scalar s => if s.isAbsent then .ok ⟨[], true⟩ else n.mismatch expected
  | n => n.mismatch expected

/-- What stands for a case without contents. -/
def asUnit (n : Node) : Except Fault Unit :=
  match n with
  | .scalar s =>
    if s.style = .plain && Plain.isNothing s.text then .ok ()
    else .error (.wrongValue (.text s.text) "null")
  | n => n.mismatch "unit"

/-- A case is named by a tag of one's own, with nothing under it, or by a text. A tag that
names no case is placed by the record around it. -/
def asChoice (path : Path) (known : String → Except Fault α) (n : Node) : Except ShapeError α :=
  let tagged (name : String) : Except ShapeError α := do
    match known name with
    | .error fault => Record.fail fault
    | .ok a =>
      Record.located path n.asUnit
      return a
  match n with
  | .scalar s =>
    match ownTag? s.tag with
    | some name => tagged name
    | none => Record.located path (known s.text)
  | .list tag _ | .table tag _ =>
    match ownTag? tag with
    | some name => tagged name
    | none => Record.located path (n.mismatch "a YAML tag starting with '!'")
  | n => Record.located path (n.mismatch "a YAML tag starting with '!'")

/-- The JSON of what a plain scalar stands for. Numbers that are not finite become null. -/
def jsonOf : Plain.Value → Except Fault Json
  | .nothing => .ok .null
  | .flag b => .ok (.bool b)
  | .integer n => .ok (.num (.integer n))
  | .wide _ => .error .numberTooLarge
  | .real x =>
    match x with
    | .finite _ _ _ => .ok (.num (.real x))
    | _ => .ok .null
  | .text s => .ok (.str s)

/-- What any value is wanted as. -/
def anyValue : String := "any valid JSON value"

/-- The JSON of a scalar. Tags of one's own have none. -/
def scalarValue (s : Scalar) : Except Fault Json :=
  if (ownTag? s.tag).isSome then .error (.wrongKind .choice anyValue)
  else s.resolve >>= jsonOf

mutual

/-- Any value. -/
def asValue (path : Path) : Node → Except ShapeError Json
  | .scalar s => Record.located path (scalarValue s)
  | .list tag items => do
    if (ownTag? tag).isSome then Record.located path (.error (.wrongKind .choice anyValue))
    return .arr (← asValues path 0 items)
  | .table tag entries => do
    if (ownTag? tag).isSome then Record.located path (.error (.wrongKind .choice anyValue))
    return .object (← asEntryValues path "a string key" entries)
  | .nothing => .ok .null
  | .tooDeep => Record.located path (.error .nestedTooDeep)
  | .tooOften => Record.located path (.error .repeatedTooOften)

def asValues (path : Path) (index : Nat) : List Node → Except ShapeError (List Json)
  | [] => .ok []
  | n :: rest => do
    let item ← asValue (path ++ [.item index]) n
    let items ← asValues path (index + 1) rest
    return item :: items

/-- The entries of a table; the first key has a name of its own in messages. -/
def asEntryValues (path : Path) (keyName : String) :
    List (Node × Node) → Except ShapeError (List (String × Json))
  | [] => .ok []
  | (key, n) :: rest => do
    let name ← Record.located path (key.asText keyName)
    let item ← asValue (path ++ [.field name]) n
    let fields ← asEntryValues path "a string" rest
    return (name, item) :: fields

end

instance : Source Node where
  describe := describe
  text := asText
  flag n := n.asFlag
  natural expected limit n := n.asNatural expected limit
  present? _ n := n.asPresent?
  list n := n.asList
  table n := n.asEntries "a map"
  body expected n := (n.asEntries expected).map Body.named
  name := asText
  choice path known n := n.asChoice path known
  value := asValue

end Node

/-- Why a text gives no record: it is not YAML, or it has another shape. -/
inductive ReadError where
  | malformed
  | shape (error : ShapeError)
deriving DecidableEq, Repr

/-- The text of an error; what is wrong with text that is not YAML is not told. -/
def ReadError.message : ReadError → String
  | .malformed => "malformed document"
  | .shape e => e.placedMessage describe

/-- Reads a record from a text. -/
def decode (read : Record.Reader Node α) (s : String) : Except ReadError α :=
  match Node.ofText? s with
  | none => .error .malformed
  | some n => (read [] n).mapError .shape

end AppDeploy.Yaml
