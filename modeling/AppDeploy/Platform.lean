import AppDeploy.Record.Fields
import AppDeploy.Text.Blank
import AppDeploy.Text.Case

/-! The two platforms that run apps: one schedules releases, the other runs machines. -/
namespace AppDeploy

inductive Platform where
  | releases
  | machines
deriving DecidableEq, Repr

namespace Platform

def name : Platform → String
  | .releases => "releases"
  | .machines => "machines"

def toJson (p : Platform) : Json :=
  .str p.name

/-- The names a platform has in records, the older one of `releases` among them. -/
def names : List (String × Platform) :=
  [("nomad", .releases), ("releases", .releases), ("machines", .machines)]

/-- A platform as a record spells it. -/
def read [Record.Source δ] : Record.Reader δ Platform :=
  Record.choice names (names.map (·.1))

/-- The platform that a marker stands for, in any case and with blanks around it. -/
def ofMarker? (marker : String) : Option Platform :=
  names.lookup (Text.lowerAscii (Text.trim marker))

/-- A marker in a record; one that says nothing counts as absent. -/
def readMarker [Record.Source δ] : Record.Reader δ (Option Platform) := fun path d => do
  return (← Record.option Record.text path d).bind ofMarker?

end Platform

end AppDeploy
