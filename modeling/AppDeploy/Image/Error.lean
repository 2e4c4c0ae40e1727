import AppDeploy.Assignment

/-! Why there is no image to deploy. -/
namespace AppDeploy

/-- What can go wrong with a docker daemon. -/
inductive DaemonError where
  /-- There is no socket of a local daemon. -/
  | noSocket (path : String)
  /-- No connection could be made. -/
  | unreachable
  /-- The connection was lost before an answer came. -/
  | disconnected
  /-- The daemon answered with a status outside the successful ones. -/
  | status (code : Nat) (message : String)
  /-- The daemon gave up in the middle of a download. -/
  | stream (message : String)
  /-- The daemon's answer is not what was asked for. -/
  | undecodable (reason : String)
deriving DecidableEq, Repr

def DaemonError.message : DaemonError → String
  | .noSocket path => s!"Socket not found: {path}"
  | .unreachable => "Error in the hyper legacy client: client error (Connect)"
  | .disconnected => "Error in the hyper legacy client: client error (SendRequest)"
  | .status code message => s!"Docker responded with status code {code}: {message}"
  | .stream message => s!"Docker stream error: {message}"
  | .undecodable reason => s!"Failed to deserialize JSON: {reason}"

inductive BuildError where
  | args (error : Assignment.Error)
  | secrets (error : Assignment.Error)
  | path (path reason : String)
  /-- Everything went well, but there is no image. -/
  | noImage
  | noBuilder (reason : String)
  | unsupported (reason : String)
  | daemon (error : DaemonError)
  | command (program reason : String)
  | io (reason : String)
deriving DecidableEq, Repr

def BuildError.message : BuildError → String
  | .args e => s!"invalid build args: {e.message}"
  | .secrets e => s!"invalid build secrets: {e.message}"
  | .path p reason => s!"failed to resolve path {p}: {reason}"
  | .noImage => "no image specified"
  | .noBuilder reason => s!"no builder available: {reason}"
  | .unsupported reason => s!"unsupported build configuration: {reason}"
  | .daemon e => s!"docker daemon error: {e.message}"
  | .command program reason => s!"{program} failed: {reason}"
  | .io reason => s!"I/O error: {reason}"

end AppDeploy
