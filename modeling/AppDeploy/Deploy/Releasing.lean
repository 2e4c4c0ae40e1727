import AppDeploy.Config.Encode
import AppDeploy.Deploy.Service
import AppDeploy.Options
import AppDeploy.Plan

/-! Deploys to the platform that schedules releases: a release is created, its command is
waited for if it has one, and then it is watched until it is live. -/
namespace AppDeploy.Deploy

/-- The spelling of a strategy in a release, as in `ROLLING_ONE`. -/
def releaseStrategy (strategy : String) : String :=
  Text.upper (String.ofList (strategy.toList.map fun c => if c = '-' then '_' else c))

/-- The release of an image with a config. -/
def newRelease (o : DeployOptions) (c : AppConfig) (image : DeploymentImage) : NewRelease where
  app := o.app
  image := image.tag
  strategy := o.wantedStrategy.map releaseStrategy
  definition := some c.definition

/-- Waits for the command of a release, and then looks at the release again. -/
def awaitCommand (console : Console) (app : AppName) (created : Release)
    (command : ReleaseCommand) : Task Deploy DeployError Release := do
  Task.print (console.progress s!"Release command detected: {command.command}")
  Task.print (console.detail
    "This release will not be available until the release command succeeds.")
  Task.attempt .releaseCommand (Plan.request (S := Deploy) (.watchReleaseCommand app command.id))
  Task.attempt (.refreshRelease created.id)
    (Plan.request (S := Deploy) (.release app created.id))

/-- The release to watch: the created one, or what has become of it once its command is
done. -/
def effectiveRelease (console : Console) (app : AppName) (created : CreatedRelease) :
    Task Deploy DeployError Release :=
  match created.releaseCommand with
  | some command => awaitCommand console app created.release command
  | none => pure created.release

/-- Waits until a release is live; an immediate one is so at once. -/
def awaitRelease (app : AppName) (r : Release) : Task Deploy DeployError Unit :=
  if r.isImmediate then pure ()
  else Task.attempt .monitor (Plan.request (S := Deploy) (.watchDeployment app r.evaluationId))

/-- Deploys an image as a release. -/
def deployRelease (console : Console) (o : DeployOptions) (c : AppConfig)
    (image : DeploymentImage) : Task Deploy DeployError Unit := do
  Task.print (console.progress "Creating release")
  let created ←
    Task.attempt .createRelease (Plan.request (S := Deploy) (.createRelease (newRelease o c image)))
  Task.print (console.detail s!"release v{created.release.version} created")
  if o.detach then return
  Task.print (console.detail
    "You can detach the terminal anytime without stopping the deployment")
  let release ← effectiveRelease console o.app created
  awaitRelease o.app release

end AppDeploy.Deploy
