import AppDeploy.Number.Binary64

/-! Sizes in bytes for people to read. -/
namespace AppDeploy.Size

def units : List String :=
  ["B", "kB", "MB", "GB", "TB", "PB", "EB"]

/-- Divides by a thousand until the value is below that or the units end. -/
def scale (value : Binary64) : List String → Binary64 × String
  | [] => (value, "")
  | [unit] => (value, unit)
  | unit :: rest =>
    if value.isBelow 1000 then (value, unit) else scale (value.div (.ofNat 1000)) rest

/-- A value in tenths, a half going up. -/
def inTenths (value : Binary64) : Binary64 :=
  let raised := (value.mul (.ofNat 10)).addMagnitudes (.ofRatio false 1 2)
  (Binary64.ofNat raised.floorNat).div (.ofNat 10)

/-- The text of a size: one digit after the point below ten units, none from there on. -/
def text (bytes : Nat) : String :=
  if bytes < 10 then s!"{bytes} B"
  else
    let (value, unit) := scale (.ofNat bytes) units
    let rounded := inTenths value
    rounded.fixed (if rounded.isBelow 10 then 1 else 0) ++ " " ++ unit

end AppDeploy.Size
