import AppDeploy.ControlPlane.Record

/-! How far something is that the control plane runs. -/
namespace AppDeploy

inductive Progress where
  | inFlight (status : String)
  | succeeded
  | failed (reason : String)
deriving DecidableEq, Repr

namespace StatusReport

def successStatuses : List String :=
  ["succeeded", "successful", "complete", "completed"]

def failureStatuses : List String :=
  ["failed", "cancelled", "canceled", "timeout", "timed_out", "terminated"]

/-- The progress that a report tells, in any case of its letters. A failure without a
message is explained by its status. -/
def progress (r : StatusReport) : Progress :=
  let status := Text.lowerAscii r.status
  if successStatuses.contains status then .succeeded
  else if failureStatuses.contains status then .failed (r.message.getD r.status)
  else .inFlight status

end StatusReport

end AppDeploy
