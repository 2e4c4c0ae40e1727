import AppDeploy.Assignment
import AppDeploy.Config.Basic

/-! What a builder of images is asked for. -/
namespace AppDeploy

/-- A wish for an image that is there already. -/
structure ReferenceRequest where
  app : AppName
  workingDir : String
  /-- Whether the image has to be in the registry in the end. -/
  publish : Bool
  reference : String
  label : Option String := none
deriving DecidableEq, Repr

/-- A wish for an image that is to be built. -/
structure BuildRequest where
  app : AppName
  workingDir : String
  /-- Whether the image has to be in the registry in the end. -/
  publish : Bool := false
  label : Option String := none
  noCache : Bool := false
  builtin : Option String := none
  builtinSettings : Table Json := .empty
  builder : Option String := none
  buildpacks : List String := []
  args : Table String := .empty
  secrets : Table String := .empty
  dockerfile : Option String := none
  ignorefile : Option String := none
  target : Option String := none

/-- A request with all its fields. -/
def ReferenceRequest.toJson (r : ReferenceRequest) : Json :=
  .object [("app", .str r.app.text), ("working_dir", .str r.workingDir),
    ("publish", .bool r.publish), ("image_ref", .str r.reference),
    ("image_label", .ofOption .str r.label)]

/-- A request with all its fields. -/
def BuildRequest.toJson (r : BuildRequest) : Json :=
  .object [("app", .str r.app.text), ("working_dir", .str r.workingDir),
    ("publish", .bool r.publish), ("image_label", .ofOption .str r.label),
    ("no_cache", .bool r.noCache), ("builtin", .ofOption .str r.builtin),
    ("builtin_settings", .ofTable r.builtinSettings), ("builder", .ofOption .str r.builder),
    ("buildpacks", .arr (r.buildpacks.map .str)), ("build_args", .ofTexts r.args),
    ("build_secrets", .ofTexts r.secrets), ("dockerfile", .ofOption .str r.dockerfile),
    ("ignorefile", .ofOption .str r.ignorefile), ("target", .ofOption .str r.target)]

/-- Arguments of a build with more of them, written as `NAME=VALUE`, over them. -/
def mergeBuildArgs (declared : Table String) (given : List String) :
    Except Assignment.Error (Table String) :=
  (Assignment.readAll given).map declared.overlay

end AppDeploy
