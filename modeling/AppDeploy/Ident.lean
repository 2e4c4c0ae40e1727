import AppDeploy.Json.Text
import AppDeploy.Record.Fields

/-! Names of records at the control plane. The kind of record is part of the type, so that
one kind of name is never taken for another. -/
namespace AppDeploy

namespace Ident

/-- The kinds of records that are referred to by name. -/
inductive Kind where
  | release
  | releaseCommand
  | evaluation
  | rollout
deriving DecidableEq, Repr

end Ident

/-- The name of a record of a kind: any text. -/
structure Ident (kind : Ident.Kind) where
  text : String
deriving DecidableEq, Repr

namespace Ident

variable {kind : Kind}

def toJson (id : Ident kind) : Json :=
  .str id.text

def read [Record.Source δ] : Record.Reader δ (Ident kind) := fun path d =>
  (Record.text path d).map Ident.mk

end Ident

abbrev ReleaseId := Ident .release
abbrev ReleaseCommandId := Ident .releaseCommand
abbrev EvaluationId := Ident .evaluation
abbrev RolloutId := Ident .rollout

end AppDeploy
