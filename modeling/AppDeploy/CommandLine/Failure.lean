import AppDeploy.AppName
import AppDeploy.Deploy.Error
import AppDeploy.Settings

/-! Why the program fails, in the words it uses for it. -/
namespace AppDeploy

inductive Failure where
  | config (error : ConfigError)
  | deploy (error : DeployError)
  | settings (error : Settings.Error)
  | client (error : ApiError)
  | builder (error : BuildError)
  | appName (error : AppName.Error)
  | missingAppName
  | workingDir (path : String)
  | interrupted
  | io (reason : String)
deriving DecidableEq, Repr

namespace Failure

def message : Failure → String
  | .config e => e.message
  | .deploy e => e.message
  | .settings e => e.message
  | .client e => s!"could not create API client: {e.message}"
  | .builder e => s!"could not set up image builder: {e.message}"
  | .appName e => s!"invalid app name: {e.message}"
  | .missingAppName => "the app name must be specified with --app or in the config file"
  | .workingDir dir => s!"working directory not found: {dir}"
  | .interrupted => "interrupted"
  | .io reason => s!"I/O error: {reason}"

/-- What to do about a failure, if there is something to say. -/
def hint : Failure → Option String
  | .deploy e => e.hint
  | .interrupted => some DeployError.progressHint
  | _ => none

end Failure

end AppDeploy
