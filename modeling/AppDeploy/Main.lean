import AppDeploy.CommandLine.Program
import Std.Time.DateTime.Timestamp

/-! The command line. It gives a plan its clock, its files and its variables, and prints what
the plan notes. Web services and docker daemons are out of its reach and it starts no
program, so a plan is told so whenever it asks for one of them. -/
namespace AppDeploy.CommandLine

/-- Where the socket of the local docker daemon is. -/
def socketPath : String := "/var/run/docker.sock"

/-- The point in time. -/
def readClock : IO Timestamp := do
  return Timestamp.ofEpoch (← Std.Time.Timestamp.now).toNanosecondsSinceUnixEpoch.val

/-- Lets time pass. -/
def sleepFor (span : Span) : IO Unit :=
  IO.sleep (UInt32.ofNat (min ((span.nanoseconds + 999999) / 1000000) 4294967295))

/-- Looks for the socket of the local docker daemon. -/
def findSocket : IO (Except String Unit) := do
  match ← (IO.FS.realPath socketPath).toBaseIO with
  | .ok _ => return .ok ()
  | .error _ => return .error socketPath

/-- Answers a plan. -/
def answer : (q : Outside.Request) → IO (Outside.Answer q)
  | .now => readClock
  | .wait span => sleepFor span
  | .send _ => return ⟨.error .unreachable, .zero⟩
  | .findDaemon => findSocket
  | .inspect _ _ => return .error .unreachable
  | .pull _ _ => return .error .unreachable
  | .run _ _ => return .error "programs cannot be started"

/-- Shows a note; what is kept for later is not shown. -/
def printNote : Note → IO Unit
  | .printed ⟨.out, text⟩ => IO.println text
  | .printed ⟨.err, text⟩ => IO.eprintln text
  | .logged entry => IO.eprintln entry.text
  | .remarked _ => return ()

/-- Carries out a plan. -/
def perform {α : Type} : Plan Outside α → IO α
  | .done a => return a
  | .note n next => do
    printNote n
    perform next
  | .ask q next => do perform (next (← answer q))

/-- What there is at a place. -/
def lookUp (place : List String) : IO (Option (List String × FileEntry)) := do
  match ← (IO.FS.realPath (FilePath.textOf place)).toBaseIO with
  | .error _ => return none
  | .ok path =>
    if ← path.isDir then return some (place, .directory)
    match ← (IO.FS.readBinFile path).toBaseIO with
    | .ok bytes => return some (place, .file bytes)
    | .error _ => return none

/-- The files that a call looks at. -/
def readFiles (texts : List String) : IO Files := do
  let current := FilePath.steps (← IO.currentDir).toString
  match read texts with
  | .ok call => return Files.ofList ((← (placesOf call current).mapM lookUp).filterMap id) current
  | .error _ => return Files.ofList [] current

/-- The variables that are looked at. -/
def readEnvironment : IO Environment := do
  let found ← Environment.names.mapM fun name => do
    return (← IO.getEnv name).map fun value => (name, value)
  return Table.ofList (found.filterMap id)

end AppDeploy.CommandLine

def main (args : List String) : IO UInt32 := do
  let env ← AppDeploy.CommandLine.readEnvironment
  let files ← AppDeploy.CommandLine.readFiles args
  let status ← AppDeploy.CommandLine.perform (AppDeploy.CommandLine.program env files args)
  return UInt32.ofNat status
