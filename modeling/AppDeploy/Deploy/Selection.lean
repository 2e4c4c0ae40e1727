import AppDeploy.ControlPlane.Record

/-! Which platform a deploy goes to. -/
namespace AppDeploy.Platform

/-- The platform for an app. One that was deployed before stays where it is, or goes to
`releases` if nothing is recorded. A new one goes where it is forced to, then to machines if
that is recorded, then where its organization has new apps. -/
def select (app : AppSummary) (forceReleases forceMachines machinesDefault : Bool) : Platform :=
  if app.deployed then app.platform.getD .releases
  else if forceReleases then .releases
  else if forceMachines || app.platform = some .machines then .machines
  else if machinesDefault then .machines
  else .releases

end AppDeploy.Platform
