import AppDeploy.Image.Error
import AppDeploy.Options

/-! Which docker daemon builds an image. -/
namespace AppDeploy

/-- The daemons that may be used, and which of them comes first. -/
structure DaemonChoice where
  allowLocal : Bool
  allowRemote : Bool
  preferLocal : Bool
  nixpacks : Bool
deriving DecidableEq, Repr

/-- A docker daemon. -/
inductive Daemon where
  | here
  | remote (address : String)
deriving DecidableEq, Repr

namespace DaemonChoice

/-- The daemons that the flags of a build leave; a build server prefers its own. -/
def ofFlags (flags : BuildFlags) (isBuildServer : Bool) : DaemonChoice where
  allowLocal := !flags.remoteOnly
  allowRemote := !flags.localOnly
  preferLocal := isBuildServer
  nixpacks := flags.nixpacks

def isNone (c : DaemonChoice) : Bool :=
  !c.allowLocal && !c.allowRemote

/-- The daemon to use when the remote builder has the given address: the remote one, unless
the local one is preferred or there is no other. -/
def select (c : DaemonChoice) (remoteBuilder : Option String) : Except BuildError Daemon :=
  if c.isNone then .error (.noBuilder "both local and remote builders were disabled")
  else
    match remoteBuilder.filter fun _ => c.allowRemote && !(c.allowLocal && c.preferLocal) with
    | some address => .ok (.remote address)
    | none =>
      if c.allowLocal then .ok .here
      else
        .error (.noBuilder "remote builds requested but HANGAR_REMOTE_BUILDER is not set")

end DaemonChoice

/-- The address of a daemon that is not the local one. -/
def Daemon.address? : Daemon → Option String
  | .here => none
  | .remote address => some address

end AppDeploy
