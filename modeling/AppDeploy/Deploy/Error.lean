import AppDeploy.Config.Error
import AppDeploy.Deploy.Watch
import AppDeploy.Image.Error

/-! Why a deploy fails, and whose fault it is. -/
namespace AppDeploy

inductive RolloutError where
  | api (error : ApiError)
  | watch (error : WatchError)
deriving DecidableEq, Repr

def RolloutError.message : RolloutError → String
  | .api e => s!"rollout request failed: {e.message}"
  | .watch e => e.message

/-- The stage of a deploy that failed, and why. -/
inductive DeployError where
  | config (error : ConfigError)
  | appLookup (app : AppName) (error : ApiError)
  | invalidMachinesConfig (error : ConfigError)
  | image (error : BuildError)
  | createRelease (error : ApiError)
  | refreshRelease (release : ReleaseId) (error : ApiError)
  | releaseCommand (error : WatchError)
  | monitor (error : WatchError)
  | rollout (error : RolloutError)
deriving DecidableEq, Repr

/-- The kinds of failures. -/
inductive DeployError.Kind where
  /-- There is no sound config. -/
  | configuration
  /-- Something that is needed could not be found or made. -/
  | resolution
  /-- The platform did not take the deploy. -/
  | backend
  /-- The deploy was under way, but watching it failed. -/
  | monitoring
deriving DecidableEq, Repr

namespace DeployError

def message : DeployError → String
  | .config e => e.message
  | .appLookup app e => s!"failed to look up app {app.text}: {e.message}"
  | .invalidMachinesConfig e => s!"Can't deploy an invalid app config: {e.message}"
  | .image e => s!"failed to fetch an image or build from source: {e.message}"
  | .createRelease e => e.message
  | .refreshRelease release e => s!"failed to refresh release {release.text}: {e.message}"
  | .releaseCommand e => e.message
  | .monitor e => e.message
  | .rollout e => e.message

def kind : DeployError → Kind
  | .config _ | .invalidMachinesConfig _ => .configuration
  | .appLookup _ _ | .image _ => .resolution
  | .createRelease _ | .refreshRelease _ _ | .rollout (.api _) => .backend
  | .releaseCommand _ | .monitor _ | .rollout (.watch _) => .monitoring

/-- The advice for a deploy that may still be under way. -/
def progressHint : String :=
  "the deployment may still be progressing; check its status before redeploying"

/-- What to do about a failure, if there is something to say. -/
def hint (e : DeployError) : Option String :=
  if e.kind = .monitoring then some progressHint else none

end DeployError

end AppDeploy
