import AppDeploy.Config.Basic
import AppDeploy.Record.Fields

/-! How app configs are read from records. -/
namespace AppDeploy

open Record

variable {δ : Type} [Source δ]

/-- A span of time in a record. -/
def Span.read : Reader δ Span :=
  parsedText "a duration" fun s =>
    (Span.ofText s).mapError fun _ => .wrongValue (.text s) "a duration"

def optionalText (name : String) : Fields δ (Option String) :=
  .default name (option text) none

def texts (name : String) : Fields δ (List String) :=
  .default name (list text) []

def textTable (name : String) : Fields δ (Table String) :=
  .default name (table text) .empty

def BuildConfig.read : Reader δ BuildConfig :=
  record "BuildConfig" <|
    BuildConfig.mk <$> optionalText "image" <*> optionalText "builder" <*> texts "buildpacks" <*>
      optionalText "builtin" <*> .default "settings" (table value) .empty <*>
      textTable "args" <*> optionalText "dockerfile" <*> optionalText "ignorefile" <*>
      optionalText "build_target"

def DeployConfig.read : Reader δ DeployConfig :=
  record "DeployConfig" <|
    DeployConfig.mk <$> optionalText "strategy" <*> optionalText "release_command"

def ServicePort.read : Reader δ ServicePort :=
  record "ServicePort" <|
    ServicePort.mk <$> .required "port" word16 <*> texts "handlers"

def ServiceConfig.read : Reader δ ServiceConfig :=
  record "ServiceConfig" <|
    ServiceConfig.mk <$> .required "internal_port" word16 <*> .default "protocol" text "tcp" <*>
      texts "processes" <*> .default "ports" (list ServicePort.read) []

namespace CheckKind

def name : CheckKind → String
  | .tcp => "tcp"
  | .http => "http"

def read : Reader δ CheckKind :=
  choice [("tcp", .tcp), ("http", .http)] ["tcp", "http"]

end CheckKind

def CheckConfig.read : Reader δ CheckConfig :=
  record "CheckConfig" <|
    CheckConfig.mk <$> .required "type" CheckKind.read <*>
      .default "port" (option word16) none <*> optionalText "path" <*>
      .default "interval" (option Span.read) none <*>
      .default "timeout" (option Span.read) none <*> texts "processes"

/-- A config that came from no file. -/
def AppConfig.read : Reader δ AppConfig :=
  record "AppConfig" <|
    AppConfig.mk <$> .default "app" (option AppName.read) none <*>
      .default "primary_region" text "" <*> textTable "env" <*>
      .default "build" (option BuildConfig.read) none <*>
      .default "platform" (option Platform.read) none <*>
      .default "deploy" (option DeployConfig.read) none <*> textTable "processes" <*>
      .default "services" (list ServiceConfig.read) [] <*>
      .default "checks" (table CheckConfig.read) .empty <*> pure ""

end AppDeploy
