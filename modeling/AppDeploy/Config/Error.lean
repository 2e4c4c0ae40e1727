import AppDeploy.Assignment
import AppDeploy.ControlPlane.Error
import AppDeploy.Files
import AppDeploy.Yaml.Decode

/-! Why there is no config to deploy. -/
namespace AppDeploy

inductive ConfigError where
  | notFound (path : String)
  | read (path : String) (error : Files.Error)
  | yaml (error : Yaml.ReadError)
  | env (error : Assignment.Error)
  | remoteClient (error : ApiError)
  | remoteFetch (error : ApiError)
  | invalid (problems : List String)
  | machinesIncompatible (problems : List String)
deriving DecidableEq, Repr

namespace ConfigError

def joinProblems (problems : List String) : String :=
  "; ".intercalate problems

def message : ConfigError → String
  | .notFound path => s!"configuration file not found: {path}"
  | .read path e => s!"failed to read {path}: {e.message}"
  | .yaml e => s!"YAML parse error: {e.message}"
  | .env e => s!"failed parsing environment: {e.message}"
  | .remoteClient e => s!"could not create config client: {e.message}"
  | .remoteFetch e => s!"failed to fetch app config from the control plane: {e.message}"
  | .invalid problems => s!"invalid app config: {joinProblems problems}"
  | .machinesIncompatible problems =>
    s!"config is not compatible with machines: {joinProblems problems}"

end ConfigError

end AppDeploy
