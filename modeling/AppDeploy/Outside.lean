import AppDeploy.Http.Message
import AppDeploy.Image.Command
import AppDeploy.Image.Daemon
import AppDeploy.Plan
import AppDeploy.Time.Timestamp

/-! What a deploy needs from the world outside: time, the control plane's web service,
docker daemons, and the programs that build images. -/
namespace AppDeploy

/-- How a program ended. -/
inductive ExitStatus where
  | code (n : Nat)
  | signal (n : Nat)
deriving DecidableEq, Repr

namespace Outside

inductive Request where
  /-- The point in time. -/
  | now
  /-- Lets time pass. -/
  | wait (span : Span)
  /-- Sends a request to a web service. -/
  | send (request : Http.Request)
  /-- Looks for the socket of the local docker daemon. -/
  | findDaemon
  /-- Asks a docker daemon for the description of an image. -/
  | inspect (daemon : Daemon) (reference : String)
  /-- Lets a docker daemon download an image. -/
  | pull (daemon : Daemon) (reference : String)
  /-- Runs a program; the builders among them use the given daemon. -/
  | run (command : Command) (daemon : Daemon)

/-- What a request is answered with. A socket that is not there is answered with its path,
and a program that cannot be run with the reason. -/
@[reducible] def Answer : Request → Type
  | .now => Timestamp
  | .wait _ => Unit
  | .send _ => Timed (Except Http.Failure Http.Reply)
  | .findDaemon => Except String Unit
  | .inspect _ _ => Except Http.Failure Http.Reply
  | .pull _ _ => Except Http.Failure Http.Reply
  | .run _ _ => Except String ExitStatus

end Outside

@[reducible] def Outside : Service := ⟨Outside.Request, Outside.Answer⟩

end AppDeploy
