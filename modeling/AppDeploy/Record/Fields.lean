import AppDeploy.Record.Source

/-! Reading records.

A record is described by its fields, in order (`Fields`). Faults are reported in the order
of the document, so the fields that are there are looked at first, one after the other:
a name that was seen before is refused, then the value has to be sound. Only then is a
field missed, in the order of the description. Fields nobody knows are skipped. -/
namespace AppDeploy.Record

variable {δ : Type} [Source δ] {α β : Type}

/-- How a value is read from the document at a place. -/
abbrev Reader (δ α : Type) := Path → δ → Except ShapeError α

/-! ## Readers of single values -/

def text : Reader δ String := fun path d =>
  located path (Source.text "a string" d)

def flag : Reader δ Bool := fun path d =>
  located path (Source.flag d)

/-- A natural number of 16 bits. -/
def word16 : Reader δ Nat := fun path d =>
  located path (Source.natural "u16" (Nat.pow 2 16) d)

/-- A natural number of 32 bits. -/
def word32 : Reader δ Nat := fun path d =>
  located path (Source.natural "u32" (Nat.pow 2 32) d)

def value : Reader δ Json :=
  Source.value

/-- A value that may be absent. -/
def option (read : Reader δ α) : Reader δ (Option α) := fun path d => do
  match ← Source.present? path d with
  | none => return none
  | some d => return some (← read path d)

/-- One of the cases that `known` lists. -/
def choice (known : List (String × α)) (names : List String) : Reader δ α := fun path d =>
  Source.choice path (fun name =>
    match known.lookup name with
    | some a => .ok a
    | none => .error (.unknownVariant name names)) d

/-- A text that `parse` understands, wanted as `expected`. -/
def parsedText (expected : String) (parse : String → Except Fault α) : Reader δ α :=
  fun path d => located path (Source.text expected d >>= parse)

/-- The items of a list, from a position on. -/
def itemsFrom (read : Reader δ α) (path : Path) : Nat → List δ → Except ShapeError (List α)
  | _, [] => .ok []
  | index, d :: rest => do
    let a ← read (path ++ [.item index]) d
    let rest ← itemsFrom read path (index + 1) rest
    return a :: rest

/-- What a list or table that breaks off leads to. -/
def closing (path : Path) (closed : Bool) : Except ShapeError Unit :=
  if closed then .ok () else located path (.error .malformed)

def list (read : Reader δ α) : Reader δ (List α) := fun path d => placed path do
  let parts ← located path (Source.list d)
  let items ← itemsFrom read path 0 parts.items
  closing path parts.closed
  return items

def entriesOf (read : Reader δ α) (path : Path) :
    List (δ × δ) → Except ShapeError (List (String × α))
  | [] => .ok []
  | (name, d) :: rest => do
    let name ← located path (Source.name "a string" name)
    let a ← read (path ++ [.field name]) d
    let rest ← entriesOf read path rest
    return (name, a) :: rest

/-- A table; of several entries with one name the last counts. -/
def table (read : Reader δ α) : Reader δ (Table α) := fun path d => placed path do
  let parts ← located path (Source.table d)
  let entries ← entriesOf read path parts.entries
  closing path parts.closed
  return .ofList entries

/-! ## Descriptions of records -/

/-- One field: its name, whether it has to be there, and the look at its value. -/
structure Field (δ : Type) where
  name : String
  required : Bool
  check : Reader δ Unit

/-- The fields of a record, and how the record is built from those that are there. -/
structure Fields (δ α : Type) where
  fields : List (Field δ)
  build : Path → List (String × δ) → Except ShapeError α

namespace Fields

/-- A value that takes no fields. -/
def always (a : α) : Fields δ α :=
  ⟨[], fun _ _ => .ok a⟩

/-- A function's fields, and then those of its argument. -/
def apply (f : Fields δ (α → β)) (x : Fields δ α) : Fields δ β :=
  ⟨f.fields ++ x.fields, fun path present => do
    let f ← f.build path present
    let a ← x.build path present
    return f a⟩

instance : Applicative (Fields δ) where
  pure := always
  seq f x := apply f (x ())

/-- A field that has to be there. -/
def required (name : String) (read : Reader δ α) : Fields δ α :=
  ⟨[⟨name, true, fun path d => (read path d).map fun _ => ()⟩], fun path present =>
    match present.lookup name with
    | some d => read (path ++ [.field name]) d
    | none => fail (.missingField name)⟩

/-- A field with a value to take when it is not there. -/
def default (name : String) (read : Reader δ α) (absent : α) : Fields δ α :=
  ⟨[⟨name, false, fun path d => (read path d).map fun _ => ()⟩], fun path present =>
    match present.lookup name with
    | some d => read (path ++ [.field name]) d
    | none => .ok absent⟩

end Fields

/-- Looks at the named values of a record in the order of the document: the known ones,
in that order. -/
def scan (fields : List (Field δ)) (path : Path) (seen : List (String × δ)) :
    List (δ × δ) → Except ShapeError (List (String × δ))
  | [] => .ok seen
  | (name, d) :: rest => do
    let name ← located path (Source.name "field identifier" name)
    match fields.find? (·.name == name) with
    | none => scan fields path seen rest
    | some field =>
      if (seen.lookup name).isSome then fail (.duplicateField name)
      else
        field.check (path ++ [.field name]) d
        scan fields path (seen ++ [(name, d)]) rest

/-- Looks at the values of a record that go by their order. -/
def scanOrdered (path : Path) : List (Field δ) → List δ → Except ShapeError (List (String × δ))
  | field :: fields, d :: rest => do
    field.check (path ++ [.field field.name]) d
    let present ← scanOrdered path fields rest
    return (field.name, d) :: present
  | _, _ => .ok []

/-- The first required field that is not present. -/
def firstMissing? (fields : List (Field δ)) (present : List (String × δ)) : Option (Field δ) :=
  fields.find? fun field => field.required && (present.lookup field.name).isNone

/-- How many elements a record has when it is written by their order. -/
def elementCount (name : String) (count : Nat) : String :=
  let noun := if count = 1 then "element" else "elements"
  s!"struct {name} with {count} {noun}"

/-- Reads a record. -/
def record (name : String) (shape : Fields δ α) : Reader δ α := fun path d => placed path do
  match ← located path (Source.body s!"struct {name}" d) with
  | .named parts =>
    let present ← scan shape.fields path [] parts.entries
    closing path parts.closed
    match firstMissing? shape.fields present with
    | some field => fail (.missingField field.name)
    | none => shape.build path present
  | .ordered parts =>
    let present ← scanOrdered path shape.fields parts.items
    let count := shape.fields.length
    closing path (parts.closed && parts.items.length ≤ count)
    match firstMissing? shape.fields present with
    | some field =>
      let index := shape.fields.findIdx (·.name == field.name)
      fail (.wrongLength index (elementCount name count))
    | none => shape.build path present

end AppDeploy.Record
