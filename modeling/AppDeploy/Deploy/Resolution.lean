import AppDeploy.Config.Validation
import AppDeploy.Deploy.Service
import AppDeploy.Options
import AppDeploy.Plan

/-! The config of a deploy: the local one, or else the one the control plane keeps, with the
wishes of the deploy written over it. Nothing is deployed that is not valid. -/
namespace AppDeploy

namespace AppConfig

/-- A config with the wishes of a deploy written over it. -/
def withOptions (c : AppConfig) (o : DeployOptions) : Except ConfigError AppConfig := do
  let vars ← (Assignment.readAll o.env).mapError .env
  let c := c.setVariables vars
  return { c with app := some o.app, primaryRegion := o.wantedRegion.getD c.primaryRegion }

end AppConfig

namespace Deploy

/-- The config that a deploy starts from. -/
def baseConfig (app : AppName) (localConfig : Option AppConfig) :
    Task Deploy ConfigError AppConfig :=
  match localConfig with
  | some config => pure config
  | none => do
    Task.attempt .remoteClient (Plan.request (S := Deploy) (.openConfig app))
    Task.attempt .remoteFetch (Plan.request (S := Deploy) (.fetchConfig app))

/-- The config of a deploy. What is only worth a remark is reported before a config is
refused. -/
def resolveConfig (console : Console) (o : DeployOptions) (localConfig : Option AppConfig) :
    Task Deploy ConfigError AppConfig := do
  Task.print (console.progress "Verifying app config")
  let base ← baseConfig o.app localConfig
  let config ← Task.fromExcept id (base.withOptions o)
  let validation := config.validate
  Task.notes (validation.advisories.flatMap fun text => (Advisory.ofConfig text).report console)
  Task.fromExcept id validation.toResult
  Task.print (console.detail "Verified app config")
  return config

end Deploy

end AppDeploy
