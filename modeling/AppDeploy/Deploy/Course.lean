import AppDeploy.Deploy.Acquisition
import AppDeploy.Deploy.Releasing
import AppDeploy.Deploy.Resolution
import AppDeploy.Deploy.Rollout
import AppDeploy.Deploy.Selection

/-! The course of a deploy: the config, the app, the platform, the image, and then one of the
two platforms. The first failure ends it. -/
namespace AppDeploy.Deploy

/-- What a deploy has done. -/
structure Report where
  platform : Platform
  image : DeploymentImage
  /-- Whether the image went to the platform. -/
  dispatched : Bool
deriving DecidableEq, Repr

def Report.toJson (r : Report) : Json :=
  .object [("platform", r.platform.toJson), ("image", r.image.toJson),
    ("dispatched", .bool r.dispatched)]

/-- The platform of a deploy. An organization whose settings cannot be had is taken for one
that does not deploy to machines. -/
def choosePlatform (o : DeployOptions) (app : AppSummary) : Plan Deploy Platform := do
  let machinesDefault ← Plan.request (S := Deploy) (.machinesDefault app.organization.slug)
  let on := match machinesDefault with
    | .ok on => on
    | .error _ => false
  return .select app o.forceReleases o.forceMachines on

/-- Hands an image to a platform. -/
def dispatch (console : Console) (o : DeployOptions) (c : AppConfig) (app : AppSummary)
    (image : DeploymentImage) : Platform → Task Deploy DeployError Unit
  | .machines => deployMachines console o c app image
  | .releases => deployRelease console o c image

/-- What a platform wants of a config before an image is made for it. -/
def ensurePlatform (c : AppConfig) : Platform → Except ConfigError Unit
  | .machines => c.ensureMachines
  | .releases => .ok ()

/-- Obtains the image for a platform that is chosen, and hands it over unless it is only to be
built. -/
def deliver (console : Console) (files : Files) (o : DeployOptions) (c : AppConfig)
    (app : AppSummary) (platform : Platform) : Task Deploy DeployError Report := do
  Task.fromExcept .invalidMachinesConfig (ensurePlatform c platform)
  let image ← (obtainImage console files o c).adapt .image
  if o.buildOnly then return { platform, image, dispatched := false }
  dispatch console o c.tellPrimaryRegion app image platform
  return { platform, image, dispatched := true }

/-- A deploy. -/
def run (console : Console) (files : Files) (o : DeployOptions) (localConfig : Option AppConfig) :
    Task Deploy DeployError Report := do
  let config ← (resolveConfig console o localConfig).adapt .config
  let app ← Task.attempt (.appLookup o.app) (Plan.request (S := Deploy) (.summary o.app))
  let platform ← ExceptT.lift (choosePlatform o app)
  deliver console files o config app platform

end AppDeploy.Deploy
