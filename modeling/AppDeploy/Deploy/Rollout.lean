import AppDeploy.Config.Machines
import AppDeploy.Deploy.Service
import AppDeploy.Options
import AppDeploy.Plan

/-! Deploys to machines: the rollout engine is handed everything it needs, and brings the
image to the machines of the app. -/
namespace AppDeploy.Deploy

/-- The region of a rollout. -/
def rolloutRegion (o : DeployOptions) (c : AppConfig) : Option String :=
  o.wantedRegion <|> present (some c.primaryRegion)

/-- The rollout of an image with a config. -/
def newRollout (o : DeployOptions) (c : AppConfig) (app : AppSummary) (image : DeploymentImage) :
    Except ConfigError NewRollout := do
  let env ← (Assignment.readAll o.env).mapError .env
  return {
    app := o.app
    organization := app.organization.slug
    image
    strategy := o.wantedStrategy <|> c.deployStrategy
    env
    primaryRegion := rolloutRegion o c
    waitTimeout := o.waitTimeout
    leaseTimeout := o.leaseTimeout
    skipHealthChecks := o.detach
    config := c }

/-- What is logged of a rollout that failed. -/
def failureEntry (r : NewRollout) (e : RolloutError) : LogEntry where
  level := .error
  message := "machines rollout failed"
  values := [("app", r.app.text), ("org", r.organization), ("stage", "deploy"),
    ("error", e.message)]

/-- Runs a rollout, and logs its failure. -/
def runRollout (r : NewRollout) : Plan Deploy (Except RolloutError Unit) := do
  let result ← Plan.request (S := Deploy) (.runRollout r)
  match result with
  | .ok _ => return .ok ()
  | .error e =>
    Plan.notes [.logged (failureEntry r e)]
    return .error e

/-- Deploys an image to the machines of an app. -/
def deployMachines (console : Console) (o : DeployOptions) (c : AppConfig) (app : AppSummary)
    (image : DeploymentImage) : Task Deploy DeployError Unit := do
  Task.fromExcept .invalidMachinesConfig c.ensureMachines
  let rollout ← Task.fromExcept .config (newRollout o c app image)
  Task.print (console.progress
    s!"Rolling out {rollout.image.tag} to machines of {rollout.app.text}")
  Task.attempt .rollout (runRollout rollout)

end AppDeploy.Deploy
