import AppDeploy.ControlPlane.Error
import AppDeploy.ControlPlane.Progress
import AppDeploy.Plan

/-! Waiting for something that the control plane runs.

A watch polls at once and then at a steady pace: a poll begins one interval after the poll
before it began, or as soon as that one has ended if it took longer. The watch ends with
the first report of success or failure, with the first error, or when its time is up. -/
namespace AppDeploy

inductive WatchError where
  | failed (what reason : String)
  | timedOut (what : String) (after : Span)
  | api (what : String) (error : ApiError)
  /-- There is no time between polls, and no watch can begin. This stands for the end of the program
  then and there: its timer takes no period of zero. The program itself has no such error, and a
  deploy never gets to handle it. -/
  | noInterval
deriving DecidableEq, Repr

/-- How an error is told. The program has no words for `noInterval`; those here are for the reader
of a run. -/
def WatchError.message : WatchError → String
  | .failed what reason => s!"{what} failed: {reason}"
  | .timedOut what after => s!"timed out after {after.text} waiting for {what}"
  | .api what e => s!"failed to check {what} status: {e.message}"
  | .noInterval => "cannot watch without an interval between polls"

/-- How often to poll, and for how long. -/
structure Pace where
  interval : Span
  timeout : Span
deriving DecidableEq, Repr

namespace Pace

/-- The most polls that fit into a watch. -/
def pollLimit (p : Pace) : Nat :=
  p.timeout.nanoseconds / p.interval.nanoseconds + 1

/-- When a poll begins that follows one with the given beginning and end. -/
def next (p : Pace) (start finish : Span) : Span :=
  max (start + p.interval) finish

end Pace

/-- The way a watch ends with the answer to a poll, unless it goes on. -/
def watchEnd? (what : String) : Except ApiError StatusReport → Option (Except WatchError Unit)
  | .error e => some (.error (.api what e))
  | .ok report =>
    match report.progress with
    | .succeeded => some (.ok ())
    | .failed reason => some (.error (.failed what reason))
    | .inFlight _ => none

namespace Plan

variable {S : Service}

/-- The polls of a watch from a time on that has passed since it began; so many are made at
most. -/
def watchFrom (what : String) (pace : Pace) (wait : Span → Plan S Unit)
    (poll : Plan S (Timed (Except ApiError StatusReport))) :
    Nat → Span → Plan S (Except WatchError Unit)
  | 0, _ => done (.error (.timedOut what pace.timeout))
  | count + 1, start => do
    let answer ← poll
    let finish := start + answer.took
    if pace.timeout < finish then return .error (.timedOut what pace.timeout)
    match watchEnd? what answer.value with
    | some result => return result
    | none =>
      let next := pace.next start finish
      if pace.timeout < next then
        wait (pace.timeout - finish)
        return .error (.timedOut what pace.timeout)
      else
        wait (next - finish)
        watchFrom what pace wait poll count next

/-- Polls until there is a report of success or failure. -/
def watch (what : String) (pace : Pace) (wait : Span → Plan S Unit)
    (poll : Plan S (Timed (Except ApiError StatusReport))) : Plan S (Except WatchError Unit) :=
  if pace.interval = .zero then done (.error .noInterval)
  else watchFrom what pace wait poll pace.pollLimit .zero

end Plan

/-! ## What is watched -/

/-- Something that the control plane runs for an app. -/
inductive Watched where
  | releaseCommand (app : AppName) (id : ReleaseCommandId)
  | deployment (app : AppName) (id : EvaluationId)
  | rollout (app : AppName) (id : RolloutId)
deriving DecidableEq, Repr

namespace Status

/-- What a watch needs: reports, and time to pass. -/
inductive Request where
  | report (subject : Watched)
  | wait (span : Span)

@[reducible] def Answer : Request → Type
  | .report _ => Timed (Except ApiError StatusReport)
  | .wait _ => Unit

end Status

@[reducible] def Status : Service := ⟨Status.Request, Status.Answer⟩

namespace Watched

def name : Watched → String
  | .releaseCommand _ _ => "release command"
  | .deployment _ _ => "deployment"
  | .rollout _ _ => "rollout"

/-- Polls for the reports on something until it has ended. -/
def watch (subject : Watched) (pace : Pace) : Plan Status (Except WatchError Unit) :=
  Plan.watch subject.name pace (fun span => Plan.request (S := Status) (.wait span))
    (Plan.request (S := Status) (.report subject))

end Watched

end AppDeploy
