import AppDeploy.Deploy.Watch
import AppDeploy.Text.Percent

/-! The resources of the control plane's web service and their paths.

Names in a path are percent-encoded, so that no name runs into the next segment. -/
namespace AppDeploy

inductive Resource where
  | app (app : AppName)
  | config (app : AppName)
  | organization (slug : String)
  | releases (app : AppName)
  | release (app : AppName) (id : ReleaseId)
  | releaseCommand (app : AppName) (id : ReleaseCommandId)
  | evaluation (app : AppName) (id : EvaluationId)
  | rollouts (app : AppName)
  | rollout (app : AppName) (id : RolloutId)
deriving DecidableEq, Repr

namespace Resource

/-- The path of an app. -/
def appPath (app : AppName) : String :=
  "/v1/apps/" ++ Text.Percent.encode app.text

def path : Resource → String
  | .app a => appPath a
  | .config a => appPath a ++ "/config"
  | .organization slug => "/v1/orgs/" ++ Text.Percent.encode slug ++ "/settings"
  | .releases a => appPath a ++ "/releases"
  | .release a id => appPath a ++ "/releases/" ++ Text.Percent.encode id.text
  | .releaseCommand a id => appPath a ++ "/release_commands/" ++ Text.Percent.encode id.text
  | .evaluation a id => appPath a ++ "/evaluations/" ++ Text.Percent.encode id.text
  | .rollouts a => appPath a ++ "/rollouts"
  | .rollout a id => appPath a ++ "/rollouts/" ++ Text.Percent.encode id.text

end Resource

/-- Where the reports on something are found. -/
def Watched.resource : Watched → Resource
  | .releaseCommand app id => .releaseCommand app id
  | .deployment app id => .evaluation app id
  | .rollout app id => .rollout app id

end AppDeploy
