import AppDeploy.ControlPlane.Order
import AppDeploy.Deploy.Error
import AppDeploy.Image.Request

/-! What a deploy asks of others: the control plane, a builder of images, a watcher, and
the engine that rolls images out over machines. -/
namespace AppDeploy

namespace Deploy

inductive Request where
  /-- Opens the place where the control plane keeps the config of an app. -/
  | openConfig (app : AppName)
  | fetchConfig (app : AppName)
  | summary (app : AppName)
  /-- Whether an organization deploys new apps to machines. -/
  | machinesDefault (organization : String)
  | findImage (request : ReferenceRequest)
  | startHeartbeat
  | buildImage (request : BuildRequest)
  | releaseHeartbeat
  | createRelease (release : NewRelease)
  | release (app : AppName) (id : ReleaseId)
  | watchReleaseCommand (app : AppName) (id : ReleaseCommandId)
  | watchDeployment (app : AppName) (id : EvaluationId)
  | runRollout (rollout : NewRollout)

@[reducible] def Answer : Request → Type
  | .openConfig _ => Except ApiError Unit
  | .fetchConfig _ => Except ApiError AppConfig
  | .summary _ => Except ApiError AppSummary
  | .machinesDefault _ => Except ApiError Bool
  | .findImage _ => Except BuildError (Option DeploymentImage)
  | .startHeartbeat => Unit
  | .buildImage _ => Except BuildError (Option DeploymentImage)
  | .releaseHeartbeat => Unit
  | .createRelease _ => Except ApiError CreatedRelease
  | .release _ _ => Except ApiError Release
  | .watchReleaseCommand _ _ => Except WatchError Unit
  | .watchDeployment _ _ => Except WatchError Unit
  | .runRollout _ => Except RolloutError Unit

end Deploy

@[reducible] def Deploy : Service := ⟨Deploy.Request, Deploy.Answer⟩

end AppDeploy
