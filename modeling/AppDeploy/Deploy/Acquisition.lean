import AppDeploy.Deploy.Service
import AppDeploy.Image.BuildFile
import AppDeploy.Options
import AppDeploy.Plan
import AppDeploy.Size

/-! The image of a deploy: the one the user names, or else the one the config names, or else
one that is built. -/
namespace AppDeploy.Deploy

/-- The image that is named, by the user or in the config. -/
def namedImage (o : DeployOptions) (c : AppConfig) : Option String :=
  o.wantedImage <|> c.buildImage

/-- The Dockerfile to build from, if one is named. -/
def dockerfile (files : Files) (o : DeployOptions) (c : AppConfig) :
    Except BuildError (Option String) :=
  BuildFile.resolve files.current c.dockerfile c.path o.build.dockerfile o.workingDir

/-- The Dockerfile of the working directory, when another one or none is named. -/
def ignoredDockerfile? (files : Files) (o : DeployOptions) (c : AppConfig) : Option String := do
  let found ← BuildFile.discover files o.workingDir
  let found := match BuildFile.absolute files.current found o.workingDir with
    | .ok path => path
    | .error _ => found
  let named := match dockerfile files o c with
    | .ok path => path
    | .error _ => none
  if named = some found then none else some found

/-- The remark about a Dockerfile that is not used. Without any declared way of building it
would be used. -/
def dockerfileAdvisory? (files : Files) (o : DeployOptions) (c : AppConfig) : Option Advisory :=
  if c.buildStrategies.isEmpty then none
  else (ignoredDockerfile? files o c).map .ofIgnoredDockerfile

/-- What to ask for an image that is named. -/
def referenceRequest (o : DeployOptions) (reference : String) : ReferenceRequest where
  app := o.app
  workingDir := o.workingDir
  publish := !o.buildOnly
  reference
  label := o.wantedLabel

/-- What to ask for an image that is to be built. -/
def buildRequest (files : Files) (o : DeployOptions) (c : AppConfig) :
    Except BuildError BuildRequest := do
  let build := c.build.getD {}
  let secrets ← (Assignment.readAll o.build.secrets).mapError .secrets
  let args ← (mergeBuildArgs build.args o.build.args).mapError .args
  let dockerfile ← dockerfile files o c
  let ignorefile ←
    BuildFile.resolve files.current c.ignorefile c.path o.build.ignorefile o.workingDir
  return {
    app := o.app
    workingDir := o.workingDir
    publish := o.build.push || !o.buildOnly
    label := o.wantedLabel
    noCache := o.build.noCache
    builtin := present build.builtin
    builtinSettings := build.settings
    builder := present build.builder
    buildpacks := build.buildpacks
    args
    secrets
    dockerfile
    ignorefile
    target := c.buildTarget <|> present o.build.target }

/-- Builds an image under a heartbeat. -/
def buildAlive (r : BuildRequest) : Plan Deploy (Except BuildError (Option DeploymentImage)) := do
  Plan.request (S := Deploy) .startHeartbeat
  let built ← Plan.request (S := Deploy) (.buildImage r)
  Plan.request (S := Deploy) .releaseHeartbeat
  return built

/-- Tells which image was found; without one there is nothing to deploy. -/
def announceImage (console : Console) (found : Option DeploymentImage) :
    Task Deploy BuildError DeploymentImage := do
  let some image := found | throw .noImage
  Task.print (console.detail s!"image: {image.tag}")
  let size := Size.text image.size
  Task.print (console.detail s!"image size: {size}")
  return image

/-- The image of a deploy. -/
def obtainImage (console : Console) (files : Files) (o : DeployOptions) (c : AppConfig) :
    Task Deploy BuildError DeploymentImage := do
  Task.print (console.progress "Building image")
  Task.notes ((dockerfileAdvisory? files o c).toList.flatMap (Advisory.report console))
  match namedImage o c with
  | some reference =>
    let request := referenceRequest o reference
    announceImage console (← Task.attempt id (Plan.request (S := Deploy) (.findImage request)))
  | none =>
    let request ← Task.fromExcept id (buildRequest files o c)
    announceImage console (← Task.attempt id (buildAlive request))

end AppDeploy.Deploy
