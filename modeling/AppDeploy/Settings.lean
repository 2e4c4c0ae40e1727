import AppDeploy.Config.Basic
import AppDeploy.Text.Blank
import AppDeploy.Time.Span

/-! The settings that come from environment variables. -/
namespace AppDeploy

/-- The variables that are set. -/
abbrev Environment := Table String

namespace Environment

/-- The value of a variable; a blank one is as good as none. -/
def filled? (env : Environment) (name : String) : Option String :=
  (env.get? name).filter (!Text.isAllBlank ·)

/-- The variables that are looked at. -/
def names : List String :=
  ["CI", "HANGAR_ACCESS_TOKEN", "HANGAR_API_URL", "HANGAR_POLL_INTERVAL", "HANGAR_REGISTRY",
    "HANGAR_REMOTE_BUILDER", "HANGAR_WATCH_TIMEOUT"]

/-- Whether a build server is at work. -/
def isBuildServer (env : Environment) : Bool :=
  match filled? env "CI" with
  | some value => value ≠ "false" && value ≠ "0"
  | none => false

end Environment

/-- How to reach the control plane, the registry and the remote builder, and how to wait. -/
structure Settings where
  apiUrl : String
  accessToken : String
  registry : String
  remoteBuilder : Option String
  pollInterval : Span
  watchTimeout : Span
deriving DecidableEq, Repr

namespace Settings

inductive Error where
  | missingVariable (name : String)
  | invalidDuration (name : String) (error : Span.Error)
deriving DecidableEq, Repr

def Error.message : Error → String
  | .missingVariable name => s!"missing required environment variable: {name}"
  | .invalidDuration name e => s!"invalid duration in {name}: {e.message}"

def defaultApiUrl : String := "https://api.hangar.dev"
def defaultRegistry : String := "registry.hangar.dev"
def defaultPollInterval : Span := .ofSeconds 2
def defaultWatchTimeout : Span := .ofSeconds 900

/-- An address without the slashes at its end. -/
def trimSlashes (url : String) : String :=
  String.ofList (url.toList.reverse.dropWhile (· = '/')).reverse

/-- A span of time in a variable. -/
def spanOf (env : Environment) (name : String) (absent : Span) : Except Error Span :=
  match env.filled? name with
  | some text => (Span.ofText text).mapError (.invalidDuration name)
  | none => .ok absent

/-- The settings in an environment. The access token has no default. -/
def ofEnvironment (env : Environment) : Except Error Settings := do
  let some accessToken := env.filled? "HANGAR_ACCESS_TOKEN"
    | throw (.missingVariable "HANGAR_ACCESS_TOKEN")
  let pollInterval ← spanOf env "HANGAR_POLL_INTERVAL" defaultPollInterval
  let watchTimeout ← spanOf env "HANGAR_WATCH_TIMEOUT" defaultWatchTimeout
  return {
    apiUrl := ((env.filled? "HANGAR_API_URL").map trimSlashes).getD defaultApiUrl
    accessToken
    registry := (env.filled? "HANGAR_REGISTRY").getD defaultRegistry
    remoteBuilder := env.filled? "HANGAR_REMOTE_BUILDER"
    pollInterval
    watchTimeout }

end Settings

end AppDeploy
