import AppDeploy.Config.Decode
import AppDeploy.Json.Basic

/-! How app configs are written as JSON: what is absent or empty is left out, but the
variables of an app are always there. -/
namespace AppDeploy

open Json (optional)

/-- A field that is left out when its list is empty. -/
def listField (name : String) (encode : α → Json) (items : List α) : List (String × Json) :=
  if items.isEmpty then [] else [(name, .arr (items.map encode))]

/-- A field that is left out when its table is empty. -/
def tableField (name : String) (encode : α → Json) (t : Table α) : List (String × Json) :=
  if t.isEmpty then [] else [(name, .ofTable (t.map encode))]

def textField (name : String) (value : Option String) : List (String × Json) :=
  optional name (value.map .str)

def BuildConfig.toJson (b : BuildConfig) : Json :=
  .object <|
    textField "image" b.image ++ textField "builder" b.builder ++
    listField "buildpacks" .str b.buildpacks ++ textField "builtin" b.builtin ++
    tableField "settings" id b.settings ++ tableField "args" .str b.args ++
    textField "dockerfile" b.dockerfile ++ textField "ignorefile" b.ignorefile ++
    textField "build_target" b.buildTarget

def DeployConfig.toJson (d : DeployConfig) : Json :=
  .object (textField "strategy" d.strategy ++ textField "release_command" d.releaseCommand)

def ServicePort.toJson (p : ServicePort) : Json :=
  .object ([("port", .nat p.port)] ++ listField "handlers" .str p.handlers)

def ServiceConfig.toJson (s : ServiceConfig) : Json :=
  .object <|
    [("internal_port", .nat s.internalPort), ("protocol", .str s.protocol)] ++
    listField "processes" .str s.processes ++ listField "ports" ServicePort.toJson s.ports

def CheckConfig.toJson (c : CheckConfig) : Json :=
  .object <|
    [("type", .str c.kind.name)] ++ optional "port" (c.port.map .nat) ++
    textField "path" c.path ++ textField "interval" (c.interval.map Span.text) ++
    textField "timeout" (c.timeout.map Span.text) ++ listField "processes" .str c.processes

namespace AppConfig

/-- The fields that are sent to the control plane. -/
def definitionFields (c : AppConfig) : List (String × Json) :=
  (if c.primaryRegion.isEmpty then [] else [("primary_region", .str c.primaryRegion)]) ++
  [("env", .ofTexts c.env)] ++ optional "platform" (c.platform.map Platform.toJson) ++
  optional "deploy" (c.deploy.map DeployConfig.toJson) ++
  tableField "processes" .str c.processes ++
  listField "services" ServiceConfig.toJson c.services ++
  tableField "checks" CheckConfig.toJson c.checks

def toJson (c : AppConfig) : Json :=
  .object <|
    textField "app" (c.app.map AppName.text) ++
    optional "build" (c.build.map BuildConfig.toJson) ++ c.definitionFields

/-- The definition of an app as the control plane stores it: the config without the name
of the app and without what only concerns building. -/
def definition (c : AppConfig) : Json :=
  .object c.definitionFields

end AppConfig

end AppDeploy
