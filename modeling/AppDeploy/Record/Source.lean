import AppDeploy.Json.Basic
import AppDeploy.Record.Fault

/-! What a notation has to offer so that records can be read from its documents.

A document need not be sound all the way: a list or table that is not `closed` breaks off
after the parts it has, and whoever reads that far meets a malformed document. -/
namespace AppDeploy.Record

/-- The parts of a list. -/
structure Items (δ : Type) where
  items : List δ
  closed : Bool

/-- The parts of a table, names first. -/
structure Entries (δ : Type) where
  entries : List (δ × δ)
  closed : Bool

/-- The two ways of writing a record: by the names of its fields, or by their order. -/
inductive Body (δ : Type) where
  | named (entries : Entries δ)
  | ordered (items : Items δ)

/-- A notation that records are read from. -/
class Source (δ : Type) where
  describe : Found → String
  /-- A text, wanted as `expected`. -/
  text (expected : String) : δ → Except Fault String
  flag : δ → Except Fault Bool
  /-- A natural number below `limit`, wanted as `expected`. -/
  natural (expected : String) (limit : Nat) : δ → Except Fault Nat
  /-- The document of a value that may be absent. -/
  present? (path : Path) : δ → Except ShapeError (Option δ)
  list : δ → Except Fault (Items δ)
  table : δ → Except Fault (Entries δ)
  /-- A record, wanted as `expected`. -/
  body (expected : String) : δ → Except Fault (Body δ)
  /-- The name of a field or of a table's entry. -/
  name (expected : String) : δ → Except Fault String
  /-- One of several named cases without contents. -/
  choice {α : Type} (path : Path) (known : String → Except Fault α) : δ → Except ShapeError α
  /-- Any value. -/
  value (path : Path) : δ → Except ShapeError Json

end AppDeploy.Record
