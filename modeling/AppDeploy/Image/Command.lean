import AppDeploy.Image.Request

/-! The commands that build, tag and push images.

The arguments and secrets of a build are listed in the order of their names. The value of a
secret is never an argument: it is handed over in a variable, and the command line only
tells which. -/
namespace AppDeploy

/-- A command to run: a program, its arguments, and variables to set for it. -/
structure Command where
  program : String
  args : List String
  env : Table String := .empty
deriving DecidableEq, Repr

namespace Command

/-- The label of every image that names its app. -/
def appLabel : String := "hangar.app"

/-- What the variables of secrets begin with. -/
def secretVariableStart : String := "HANGAR_BUILD_SECRET_"

/-- A character of a secret's name in the name of its variable: an ASCII letter in its big
form or a digit, and an underscore for any other. -/
def variableChar (c : Char) : Char :=
  if c.isAlphanum then c.toUpper else '_'

/-- The variable that holds the value of a secret. -/
def secretVariable (id : String) : String :=
  secretVariableStart ++ String.ofList (id.toList.map variableChar)

/-- The variables of some secrets with their values. -/
def secretVariables (secrets : Table String) : Table String :=
  .ofList (secrets.entries.map fun (id, value) => (secretVariable id, value))

/-- An option once for each entry of a table, as in `--env NAME=VALUE`. -/
def assignments (option : String) (t : Table String) : List String :=
  t.entries.flatMap fun (name, value) => [option, s!"{name}={value}"]

/-- The options that tell where secrets are found. -/
def secretOptions (secrets : Table String) : List String :=
  secrets.keys.flatMap fun id => ["--secret", s!"id={id},env={secretVariable id}"]

/-- An option with a value that may be absent. -/
def optionalOption (option : String) (value : Option String) : List String :=
  match value with
  | some value => [option, value]
  | none => []

def switch (option : String) (on : Bool) : List String :=
  if on then [option] else []

/-- The arguments of a build with docker. -/
def dockerBuildArgs (r : BuildRequest) (tag dockerfile : String) : List String :=
  ["build", "--tag", tag, "--file", dockerfile, "--label", s!"{appLabel}={r.app.text}"] ++
  assignments "--build-arg" r.args ++ secretOptions r.secrets ++
  optionalOption "--target" r.target ++ switch "--no-cache" r.noCache ++ [r.workingDir]

/-- Builds from a Dockerfile. -/
def dockerBuild (r : BuildRequest) (tag dockerfile : String) : Command where
  program := "docker"
  args := dockerBuildArgs r tag dockerfile
  env := (secretVariables r.secrets).insert "DOCKER_BUILDKIT" "1"

/-- Builds with buildpacks. -/
def packBuild (r : BuildRequest) (tag builder : String) : Command where
  program := "pack"
  args :=
    ["build", tag, "--builder", builder, "--path", r.workingDir] ++
    r.buildpacks.flatMap (["--buildpack", ·]) ++ assignments "--env" r.args ++
    switch "--clear-cache" r.noCache

/-- Builds with nixpacks. -/
def nixpacksBuild (r : BuildRequest) (tag : String) : Command where
  program := "nixpacks"
  args :=
    ["build", r.workingDir, "--name", tag] ++ assignments "--env" r.args ++
    switch "--no-cache" r.noCache

/-- Gives an image one more tag. -/
def tagImage (reference tag : String) : Command where
  program := "docker"
  args := ["tag", reference, tag]

/-- Sends an image to its registry. -/
def push (tag : String) : Command where
  program := "docker"
  args := ["push", tag]

end Command

end AppDeploy
