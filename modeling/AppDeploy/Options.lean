import AppDeploy.AppName
import AppDeploy.Config.Basic
import AppDeploy.Time.Span

/-! What one deploy was asked to do. -/
namespace AppDeploy

/-- How an image is to be built. -/
structure BuildFlags where
  localOnly : Bool := false
  remoteOnly : Bool := false
  push : Bool := false
  noCache : Bool := false
  nixpacks : Bool := false
  target : Option String := none
  dockerfile : Option String := none
  ignorefile : Option String := none
  /-- Arguments of the build, as `NAME=VALUE`. -/
  args : List String := []
  /-- Secrets of the build, as `NAME=VALUE`. -/
  secrets : List String := []
deriving DecidableEq, Repr, Inhabited

/-- The wishes for one deploy. -/
structure DeployOptions where
  /-- The app to deploy, whatever app a config names. -/
  app : AppName
  workingDir : String
  region : Option String := none
  image : Option String := none
  imageLabel : Option String := none
  build : BuildFlags := {}
  strategy : Option String := none
  /-- Variables of the app, as `NAME=VALUE`. -/
  env : List String := []
  detach : Bool := false
  buildOnly : Bool := false
  /-- Accepted, but no decision looks at it. -/
  autoConfirm : Bool := false
  waitTimeout : Span := .ofSeconds 120
  leaseTimeout : Span := .ofSeconds 13
  forceReleases : Bool := false
  forceMachines : Bool := false
deriving DecidableEq, Repr

namespace DeployOptions

def wantedRegion (o : DeployOptions) : Option String :=
  present o.region

def wantedImage (o : DeployOptions) : Option String :=
  present o.image

def wantedLabel (o : DeployOptions) : Option String :=
  present o.imageLabel

def wantedStrategy (o : DeployOptions) : Option String :=
  present o.strategy

end DeployOptions

end AppDeploy
