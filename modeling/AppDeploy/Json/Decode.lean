import AppDeploy.Json.Document
import AppDeploy.Record.Fields

/-! Reading records from JSON. -/
namespace AppDeploy.Json

open Record (Fault Found ShapeError Path Items Entries Body Source)

namespace Document

/-- How a message describes what a document holds. -/
def describe : Found → String
  | .nothing => "null"
  | .flag b => s!"boolean `{b}`"
  | .integer n | .wide n => s!"integer `{n}`"
  | .real x => s!"floating point `{x.scientificText}`"
  | .text s => s!"string {Text.quoted s}"
  | .list => "sequence"
  | .table => "map"
  | .choice => "enum"

/-- What a document holds, if it holds anything. -/
def found : Document → Except Fault Found
  | .null => .ok .nothing
  | .bool b => .ok (.flag b)
  | .number (.integer n) => .ok (.integer n)
  | .number (.real x) => .ok (.real x)
  | .text s => .ok (.text s)
  | .list _ _ => .ok .list
  | .record _ _ => .ok .table
  | .unreadable | .tooDeep | .broken => .error .malformed

/-- The fault of a document where something else was wanted. -/
def mismatch (expected : String) (d : Document) : Except Fault α := do
  throw (.wrongKind (← d.found) expected)

def asText (expected : String) : Document → Except Fault String
  | .text s => .ok s
  | d => d.mismatch expected

def asFlag : Document → Except Fault Bool
  | .bool b => .ok b
  | d => d.mismatch "a boolean"

def asNatural (expected : String) (limit : Nat) : Document → Except Fault Nat
  | .number (.integer n) =>
    if 0 ≤ n ∧ n < limit then .ok n.toNat else .error (.wrongValue (.integer n) expected)
  | d => d.mismatch expected

def asPresent? : Document → Option Document
  | .null => none
  | d => some d

def asList : Document → Except Fault (Items Document)
  | .list items closed => .ok ⟨items, closed⟩
  | d => d.mismatch "a sequence"

def asTable : Document → Except Fault (Entries Document)
  | .record fields closed => .ok ⟨fields, closed⟩
  | d => d.mismatch "a map"

def asBody (expected : String) : Document → Except Fault (Body Document)
  | .record fields closed => .ok (.named ⟨fields, closed⟩)
  | .list items closed => .ok (.ordered ⟨items, closed⟩)
  | d => d.mismatch expected

/-- A name is a string, or the text is not JSON. -/
def asName : Document → Except Fault String
  | .text s => .ok s
  | _ => .error .malformed

/-- A case is written as its name, or as an object with that name and nothing in it. -/
def asChoice (known : String → Except Fault α) : Document → Except Fault α
  | .text s => known s
  | .record ((name, contents) :: rest) closed => do
    let a ← name.asText "variant identifier" >>= known
    match contents with
    | .null => if closed && rest.isEmpty then return a else throw .malformed
    | contents => contents.mismatch "unit"
  | _ => .error .malformed

mutual

/-- Any value; of several fields with one name the last counts. -/
def asValue : Document → Except Fault Json
  | .null => .ok .null
  | .bool b => .ok (.bool b)
  | .number n => .ok (.num n)
  | .text s => .ok (.str s)
  | .list items closed => do
    let items ← asValues items
    if closed then return .arr items else throw .malformed
  | .record fields closed => do
    let fields ← asFieldValues fields
    if closed then return .object fields else throw .malformed
  | .unreadable | .tooDeep | .broken => .error .malformed

def asValues : List Document → Except Fault (List Json)
  | [] => .ok []
  | d :: rest => do
    let item ← asValue d
    let items ← asValues rest
    return item :: items

def asFieldValues : List (Document × Document) → Except Fault (List (String × Json))
  | [] => .ok []
  | (name, d) :: rest => do
    let name ← name.asName
    let item ← asValue d
    let fields ← asFieldValues rest
    return (name, item) :: fields

end

instance : Source Document where
  describe := describe
  text := asText
  flag := asFlag
  natural := asNatural
  present? _ d := .ok d.asPresent?
  list := asList
  table := asTable
  body := asBody
  name _ := asName
  choice path known d := Record.located path (d.asChoice known)
  value path d := Record.located path d.asValue

end Document

/-- Why a text gives no record: it is not JSON, or it has another shape. -/
inductive ReadError where
  | malformed
  | shape (fault : Fault)
deriving DecidableEq, Repr

def ReadError.ofFault : Fault → ReadError
  | .malformed | .nestedTooDeep => .malformed
  | fault => .shape fault

/-- Reads a record from a text that holds nothing else. -/
def decode (read : Record.Reader Document α) (s : String) : Except ReadError α :=
  let (d, alone) := Document.ofText s
  match read [] d with
  | .ok a => if alone then .ok a else .error .malformed
  | .error e => .error (.ofFault e.fault)

/-- Reads a record from a value. -/
def decodeValue (read : Record.Reader Document α) (v : Json) : Except ReadError α :=
  match read [] (.ofJson v) with
  | .ok a => .ok a
  | .error e => .error (.ofFault e.fault)

end AppDeploy.Json
