import AppDeploy.ControlPlane.Client
import AppDeploy.Deploy.Course
import AppDeploy.Image.Builder

/-! Deploys in the world outside: the control plane is a web service, and docker builds the
images. -/
namespace AppDeploy.Deploy

/-- Carries out what a deploy asks for. Heartbeats need nothing to be done. -/
def carry (c : ControlPlane) (b : ImageBuilder) (files : Files) :
    (q : Deploy.Request) → Plan Outside (Deploy.Answer q)
  | .openConfig app => c.openConfig app
  | .fetchConfig app => c.get (.config app) AppConfig.read
  | .summary app => c.get (.app app) AppSummary.read
  | .machinesDefault organization => c.machinesDefault organization
  | .findImage r => (b.find r).run
  | .startHeartbeat => .done ()
  | .buildImage r => (b.build files r).run
  | .releaseHeartbeat => .done ()
  | .createRelease r => c.post (.releases r.app) r.toJson CreatedRelease.read
  | .release app id => c.get (.release app id) Release.read
  | .watchReleaseCommand app id => c.watch (.releaseCommand app id)
  | .watchDeployment app id => c.watch (.deployment app id)
  | .runRollout r => c.runRollout r

/-- A deploy in the world outside. -/
def runOutside (c : ControlPlane) (b : ImageBuilder) (console : Console) (files : Files)
    (o : DeployOptions) (localConfig : Option AppConfig) : Task Outside DeployError Report :=
  ExceptT.mk ((run console files o localConfig).run.through (carry c b files))

end AppDeploy.Deploy
