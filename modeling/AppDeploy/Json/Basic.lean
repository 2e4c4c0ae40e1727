import AppDeploy.Number.Shortest
import AppDeploy.Table

/-! JSON values.

The fields of an object are a list in the order of their names, each name once
(`Json.Canonical`); `Json.ofTable` builds an object from a table. Numbers are exact
integers or doubles. -/
namespace AppDeploy

/-- A JSON number: an integer, or a finite double. -/
inductive Json.Number where
  | integer (value : Int)
  | real (value : Binary64)
deriving DecidableEq, Repr

inductive Json where
  | null
  | bool (value : Bool)
  | num (value : Json.Number)
  | str (value : String)
  | arr (items : List Json)
  | obj (fields : List (String × Json))
deriving Inhabited

namespace Json

def nat (n : Nat) : Json :=
  .num (.integer n)

def ofTable (t : Table Json) : Json :=
  .obj t.entries

/-- A table of texts as an object. -/
def ofTexts (t : Table String) : Json :=
  ofTable (t.map .str)

def ofOption (f : α → Json) : Option α → Json
  | some a => f a
  | none => .null

/-- A field that is left out when there is no value. -/
def optional (name : String) (value : Option Json) : List (String × Json) :=
  match value with
  | some value => [(name, value)]
  | none => []

/-- An object with the given fields, the last of a name winning. -/
def object (fields : List (String × Json)) : Json :=
  ofTable (Table.ofList fields)

def field? (name : String) : Json → Option Json
  | .obj fields => fields.lookup name
  | _ => none

/-- Objects all the way down have their names in strictly increasing order. -/
inductive Canonical : Json → Prop where
  | null : Canonical .null
  | bool (b : Bool) : Canonical (.bool b)
  | num (n : Number) : Canonical (.num n)
  | str (s : String) : Canonical (.str s)
  | arr {items : List Json} (h : ∀ item ∈ items, Canonical item) : Canonical (.arr items)
  | obj {fields : List (String × Json)} (sorted : fields.Pairwise (·.1 < ·.1))
      (h : ∀ field ∈ fields, Canonical field.2) : Canonical (.obj fields)

end Json

end AppDeploy
