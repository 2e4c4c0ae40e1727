/-! What can go wrong with a request to the control plane. -/
namespace AppDeploy

inductive ApiError where
  | notFound (subject : String)
  | unauthorized
  | status (code : Nat) (path body : String)
  | transport (reason : String)
  | other (text : String)
deriving DecidableEq, Repr

namespace ApiError

def message : ApiError → String
  | .notFound subject => s!"not found: {subject}"
  | .unauthorized => "unauthorized; check HANGAR_ACCESS_TOKEN"
  | .status code path body => s!"API returned {code} for {path}: {body}"
  | .transport reason => s!"request failed: {reason}"
  | .other text => text

/-- The error that a status outside the successful ones stands for. -/
def ofStatus (code : Nat) (path body : String) : ApiError :=
  if code = 401 ∨ code = 403 then .unauthorized
  else if code = 404 then .notFound path
  else .status code path body

end ApiError

end AppDeploy
