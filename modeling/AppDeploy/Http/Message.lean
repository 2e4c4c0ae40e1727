import AppDeploy.Http.Url
import AppDeploy.Json.Basic

/-! Requests and replies. -/
namespace AppDeploy.Http

inductive Method where
  | get
  | post
deriving DecidableEq, Repr

def Method.name : Method → String
  | .get => "GET"
  | .post => "POST"

structure Request where
  method : Method
  url : Url
  body : Option Json := none
  authorization : String
  userAgent : String

structure Reply where
  status : Nat
  body : String
deriving DecidableEq, Repr

/-- Whether a reply is about something that went well. -/
def Reply.isSuccess (r : Reply) : Bool :=
  200 ≤ r.status && r.status < 300

/-- Why there is no reply. -/
inductive Failure where
  | unreachable
  | disconnected
deriving DecidableEq, Repr

end AppDeploy.Http
