import AppDeploy.AppName
import AppDeploy.Json.Basic
import AppDeploy.Platform
import AppDeploy.Time.Span

/-! App configs: what an app is built from, how it runs, and how it is deployed. -/
namespace AppDeploy

/-- A text that counts: an empty one is as good as none. -/
def present (value : Option String) : Option String :=
  value.filter (!·.isEmpty)

/-- How the image of an app is obtained. -/
structure BuildConfig where
  image : Option String := none
  builder : Option String := none
  buildpacks : List String := []
  builtin : Option String := none
  settings : Table Json := .empty
  args : Table String := .empty
  dockerfile : Option String := none
  ignorefile : Option String := none
  buildTarget : Option String := none
deriving Inhabited

/-- How new versions of an app are brought up. -/
structure DeployConfig where
  strategy : Option String := none
  releaseCommand : Option String := none
deriving DecidableEq, Repr, Inhabited

/-- A port of a service that the world sees. -/
structure ServicePort where
  port : Nat
  handlers : List String := []
deriving DecidableEq, Repr

/-- A service of an app: the port it listens on and the process groups that offer it. -/
structure ServiceConfig where
  internalPort : Nat
  protocol : String := "tcp"
  processes : List String := []
  ports : List ServicePort := []
deriving DecidableEq, Repr

inductive CheckKind where
  | tcp
  | http
deriving DecidableEq, Repr

/-- A health check. -/
structure CheckConfig where
  kind : CheckKind
  port : Option Nat := none
  path : Option String := none
  interval : Option Span := none
  timeout : Option Span := none
  processes : List String := []
deriving DecidableEq, Repr

/-- The config of an app. `path` is the file it was read from, and empty when it came from
elsewhere; it is no part of what is written down. -/
structure AppConfig where
  app : Option AppName := none
  primaryRegion : String := ""
  env : Table String := .empty
  build : Option BuildConfig := none
  platform : Option Platform := none
  deploy : Option DeployConfig := none
  processes : Table String := .empty
  services : List ServiceConfig := []
  checks : Table CheckConfig := .empty
  path : String := ""
deriving Inhabited

namespace BuildConfig

/-- The ways of building that a build section declares, in words. -/
def strategies (b : BuildConfig) : List String :=
  (match present b.image with
    | some image => [s!"the \"{image}\" docker image"]
    | none => []) ++
  (if (present b.builder).isSome || !b.buildpacks.isEmpty then ["a buildpack"] else []) ++
  (if (present b.dockerfile).isSome || (present b.buildTarget).isSome then ["a dockerfile"]
    else []) ++
  (match present b.builtin with
    | some builtin => [s!"the \"{builtin}\" builtin"]
    | none => [])

end BuildConfig

namespace AppConfig

/-- The variable that tells an app its primary region. -/
def primaryRegionVariable : String := "PRIMARY_REGION"

/-! ## What a config says about building and deploying -/

def buildStrategies (c : AppConfig) : List String :=
  (c.build.map BuildConfig.strategies).getD []

def buildImage (c : AppConfig) : Option String :=
  c.build.bind fun b => present b.image

def dockerfile (c : AppConfig) : Option String :=
  c.build.bind fun b => present b.dockerfile

def ignorefile (c : AppConfig) : Option String :=
  c.build.bind fun b => present b.ignorefile

def buildTarget (c : AppConfig) : Option String :=
  c.build.bind fun b => present b.buildTarget

def deployStrategy (c : AppConfig) : Option String :=
  c.deploy.bind fun d => present d.strategy

/-! ## Changes -/

/-- A config with variables written over its own. -/
def setVariables (c : AppConfig) (vars : Table String) : AppConfig :=
  { c with env := c.env.overlay vars }

def setVariable (c : AppConfig) (name value : String) : AppConfig :=
  { c with env := c.env.insert name value }

/-- Whether the app is told a primary region by its own variables. -/
def setsPrimaryRegion (c : AppConfig) : Bool :=
  (present (c.env.get? primaryRegionVariable)).isSome

/-- A config whose variables tell the app its primary region, unless they do already or
there is none. -/
def tellPrimaryRegion (c : AppConfig) : AppConfig :=
  if c.primaryRegion.isEmpty || c.setsPrimaryRegion then c
  else c.setVariable primaryRegionVariable c.primaryRegion

end AppConfig

end AppDeploy
