import AppDeploy.ControlPlane.Record

/-! What the control plane is told to do. -/
namespace AppDeploy

/-- A release to create. -/
structure NewRelease where
  app : AppName
  image : String
  strategy : Option String := none
  /-- The definition of the app that goes with the release. -/
  definition : Option Json := none

namespace NewRelease

def toJson (r : NewRelease) : Json :=
  .object <|
    [("app_id", .str r.app.text), ("image", .str r.image)] ++ textField "strategy" r.strategy ++
    Json.optional "definition" r.definition

end NewRelease

/-- An image to roll out over the machines of an app. -/
structure NewRollout where
  app : AppName
  organization : String
  image : DeploymentImage
  strategy : Option String
  /-- The variables that were given for this deploy; all of them are in the config. -/
  env : Table String
  primaryRegion : Option String
  waitTimeout : Span
  leaseTimeout : Span
  skipHealthChecks : Bool
  config : AppConfig

namespace NewRollout

def toJson (r : NewRollout) : Json :=
  .object <|
    [("app", .str r.app.text), ("organization", .str r.organization), ("image", r.image.toJson)] ++
    textField "strategy" r.strategy ++ [("env", .ofTexts r.env)] ++
    textField "primary_region" r.primaryRegion ++
    [("wait_timeout", .str r.waitTimeout.text), ("lease_timeout", .str r.leaseTimeout.text),
      ("skip_health_checks", .bool r.skipHealthChecks), ("config", r.config.toJson)]

end NewRollout

end AppDeploy
