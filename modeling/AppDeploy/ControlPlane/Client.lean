import AppDeploy.ControlPlane.Order
import AppDeploy.ControlPlane.Resource
import AppDeploy.Deploy.Service
import AppDeploy.Outside
import AppDeploy.Settings

/-! The control plane, reached as a web service. -/
namespace AppDeploy

/-- How the control plane is reached, and how often it is polled. -/
structure ControlPlane where
  address : String
  authorization : String
  pace : Pace
deriving DecidableEq, Repr

namespace ControlPlane

/-- How the program introduces itself. -/
def userAgent : String := "hangar/0.1.0"

/-- Whether a character may stand in a header. -/
def isHeaderChar (c : Char) : Bool :=
  c = '\t' || (32 ≤ c.toNat && c.toNat ≠ 127)

/-- The control plane that the settings name. -/
def ofSettings (s : Settings) : Except ApiError ControlPlane :=
  if s.accessToken.toList.all isHeaderChar then
    .ok {
      address := s.apiUrl
      authorization := "Bearer " ++ s.accessToken
      pace := ⟨s.pollInterval, s.watchTimeout⟩ }
  else .error (.other "access token contains invalid characters")

/-! ## Requests -/

/-- The record in a reply. -/
def readReply (read : Record.Reader Json.Document α) (path : String) (r : Http.Reply) :
    Except ApiError α :=
  if r.isSuccess then
    (Json.decode read r.body).mapError fun _ => .transport "error decoding response body"
  else .error (.ofStatus r.status path r.body)

/-- What was found out with a request to an address. -/
def readAnswer (read : Record.Reader Json.Document α) (path : String) (url : Url) :
    Except Http.Failure Http.Reply → Except ApiError α
  | .ok r => readReply read path r
  | .error _ => .error (.transport s!"error sending request for url ({url.text})")

/-- The address of a path, if requests can be sent to it. -/
def url (c : ControlPlane) (path : String) : Except ApiError Url :=
  match Url.ofText? (c.address ++ path) with
  | none => .error (.transport "builder error")
  | some url =>
    if url.isWeb then .ok url
    else .error (.transport s!"builder error for url ({url.text})")

/-- Sends a request and reads the record in its reply. -/
def exchange (c : ControlPlane) (method : Http.Method) (resource : Resource) (body : Option Json)
    (read : Record.Reader Json.Document α) : Plan Outside (Timed (Except ApiError α)) := do
  match c.url resource.path with
  | .error e => return ⟨.error e, .zero⟩
  | .ok url =>
    let answer ← Plan.request (S := Outside) <|
      .send { method, url, body, authorization := c.authorization, userAgent }
    return ⟨readAnswer read resource.path url answer.value, answer.took⟩

/-- The record of a resource. -/
def get (c : ControlPlane) (resource : Resource) (read : Record.Reader Json.Document α) :
    Plan Outside (Except ApiError α) :=
  (c.exchange .get resource none read).bind fun answer => .done answer.value

/-- Adds something to a resource. -/
def post (c : ControlPlane) (resource : Resource) (body : Json)
    (read : Record.Reader Json.Document α) : Plan Outside (Except ApiError α) :=
  (c.exchange .post resource (some body) read).bind fun answer => .done answer.value

/-! ## What a deploy asks for -/

/-- Carries out what a watch asks for. -/
def carryStatus (c : ControlPlane) : (q : Status.Request) → Plan Outside (Status.Answer q)
  | .report subject => c.exchange .get subject.resource none StatusReport.read
  | .wait span => Plan.request (S := Outside) (.wait span)

/-- Watches something. -/
def watch (c : ControlPlane) (subject : Watched) : Plan Outside (Except WatchError Unit) :=
  (subject.watch c.pace).through c.carryStatus

/-- Opens the config of an app, which there is only if the app can be seen. -/
def openConfig (c : ControlPlane) (app : AppName) : Plan Outside (Except ApiError Unit) :=
  (c.get (.app app) AppSummary.read).bind fun found => .done (found.map fun _ => ())

def machinesDefault (c : ControlPlane) (organization : String) :
    Plan Outside (Except ApiError Bool) :=
  (c.get (.organization organization) OrgSettings.read).bind fun found =>
    .done (found.map (·.machinesDefaultOn))

/-- Starts a rollout and watches it. -/
def runRollout (c : ControlPlane) (r : NewRollout) : Plan Outside (Except RolloutError Unit) := do
  let created ← c.post (.rollouts r.app) r.toJson CreatedRollout.read
  match created with
  | .error e => return .error (.api e)
  | .ok created =>
    let result ← c.watch (.rollout r.app created.id)
    return result.mapError .watch

end ControlPlane

end AppDeploy
