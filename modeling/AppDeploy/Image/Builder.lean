import AppDeploy.ControlPlane.Record
import AppDeploy.Image.BuildFile
import AppDeploy.Image.Tag
import AppDeploy.Outside
import AppDeploy.Settings

/-! Images by docker: existing ones are looked up and downloaded, new ones are built with a
Dockerfile, with buildpacks or with nixpacks, and both are sent to the registry on demand. -/
namespace AppDeploy

structure ImageBuilder where
  daemon : Daemon
  registry : String
  nixpacks : Bool
deriving DecidableEq, Repr

/-! ## How programs end -/

namespace ExitStatus

def signalNames : List String :=
  ["SIGHUP", "SIGINT", "SIGQUIT", "SIGILL", "SIGTRAP", "SIGABRT", "SIGBUS", "SIGFPE", "SIGKILL",
    "SIGUSR1", "SIGSEGV", "SIGUSR2", "SIGPIPE", "SIGALRM", "SIGTERM", "SIGSTKFLT", "SIGCHLD",
    "SIGCONT", "SIGSTOP", "SIGTSTP", "SIGTTIN", "SIGTTOU", "SIGURG", "SIGXCPU", "SIGXFSZ",
    "SIGVTALRM", "SIGPROF", "SIGWINCH", "SIGIO", "SIGPWR", "SIGSYS"]

def text : ExitStatus → String
  | .code n => s!"exit status: {n}"
  | .signal n =>
    match if n = 0 then none else signalNames[n - 1]? with
    | some name => s!"signal: {n} ({name})"
    | none => s!"signal: {n}"

end ExitStatus

/-! ## What daemons answer -/

/-- What a daemon knows of an image. -/
structure ImageDescription where
  id : Option String
  digests : Option (List String)
  labels : Option (Option (Table String))
  size : Option Int

namespace ImageDescription

open Record (Reader record)

/-- A size; daemons without one give a number below zero. -/
def readSize : Reader Json.Document (Option Int) := fun path d => do
  match ← Record.value path d with
  | .null => return none
  | .num (.integer n) =>
    if -9223372036854775808 ≤ n ∧ n < 9223372036854775808 then return some n
    else Record.fail (.wrongValue (.integer n) "i64")
  | _ => Record.fail (.wrongKind .nothing "i64")

def readLabels : Reader Json.Document (Option (Table String)) :=
  record "ImageConfig" (.default "Labels" (Record.option (Record.table Record.text)) none)

def read : Reader Json.Document ImageDescription :=
  record "ImageInspect" <|
    ImageDescription.mk <$> .default "Id" (Record.option Record.text) none <*>
      .default "RepoDigests" (Record.option (Record.list Record.text)) none <*>
      .default "Config" (Record.option readLabels) none <*> .default "Size" readSize none

/-- What follows the first `@` of a reference. -/
def digestOf? (reference : String) : Option String :=
  match reference.toList.dropWhile (· ≠ '@') with
  | [] => none
  | _ :: digest => some (String.ofList digest)

/-- The image with a description. -/
def image (d : ImageDescription) (reference : String) : DeploymentImage where
  tag := reference
  id := d.id
  digest := (d.digests.getD []).findSome? digestOf?
  size := (d.size.getD 0).toNat
  labels := d.labels.join.getD .empty

end ImageDescription

namespace DaemonError

def ofFailure : Http.Failure → DaemonError
  | .unreachable => .unreachable
  | .disconnected => .disconnected

/-- The text of an answer about a failure: its message, or all of it. -/
def messageIn (body : String) : String :=
  let read : Record.Reader Json.Document String :=
    Record.record "DockerServerErrorMessage" (.required "message" Record.text)
  match Json.decode read body with
  | .ok message => message
  | .error _ => body

def ofReply (r : Http.Reply) : DaemonError :=
  .status r.status (messageIn r.body)

def ofReadError : Json.ReadError → DaemonError
  | .malformed => .undecodable "malformed document"
  | .shape fault => .undecodable (fault.message Json.Document.describe)

end DaemonError

/-- What the answer of a daemon says about an image; one that is not found is no failure. -/
def readInspection (reference : String) :
    Except Http.Failure Http.Reply → Except DaemonError (Option DeploymentImage)
  | .error e => .error (.ofFailure e)
  | .ok r =>
    if r.status = 404 then .ok none
    else if r.isSuccess then
      ((Json.decode ImageDescription.read r.body).mapError .ofReadError).map fun d =>
        some (d.image reference)
    else .error (.ofReply r)

/-- What the lines of a download say: the first that tells an error ends it. -/
def readProgress : List String → Except DaemonError Unit
  | [] => .ok ()
  | line :: rest => do
    if Text.isAllBlank line then readProgress rest
    else
      let read : Record.Reader Json.Document (Option String) :=
        Record.record "CreateImageInfo" (.default "error" (Record.option Record.text) none)
      match ← (Json.decode read line).mapError DaemonError.ofReadError with
      | some message => throw (.stream message)
      | none => readProgress rest

/-- What the answer of a daemon says about a download. -/
def readDownload : Except Http.Failure Http.Reply → Except DaemonError Unit
  | .error e => .error (.ofFailure e)
  | .ok r =>
    if r.isSuccess then readProgress (r.body.splitOn "\n") else .error (.ofReply r)

namespace ImageBuilder

/-- The builder that flags and settings choose. The local daemon has to be there; a remote
one is only called on when it is needed. -/
def connect (s : Settings) (choice : DaemonChoice) : Task Outside BuildError ImageBuilder := do
  let daemon ← Task.fromExcept id (choice.select s.remoteBuilder)
  if daemon = .here then
    Task.attempt (fun path => .daemon (.noSocket path)) (Plan.request (S := Outside) .findDaemon)
  return { daemon, registry := s.registry, nixpacks := choice.nixpacks }

/-- Looks an image up. -/
def inspect (b : ImageBuilder) (reference : String) :
    Task Outside BuildError (Option DeploymentImage) := do
  let answer ← ExceptT.lift (Plan.request (S := Outside) (.inspect b.daemon reference))
  Task.fromExcept .daemon (readInspection reference answer)

/-- Downloads an image. -/
def pull (b : ImageBuilder) (reference : String) : Task Outside BuildError Unit := do
  let answer ← ExceptT.lift (Plan.request (S := Outside) (.pull b.daemon reference))
  Task.fromExcept .daemon (readDownload answer)

/-- What the end of a command means. -/
def readExit (program : String) : Except String ExitStatus → Except BuildError Unit
  | .error reason => .error (.command program reason)
  | .ok (.code 0) => .ok ()
  | .ok status => .error (.command program s!"exited with {status.text}")

/-- Runs a command to a good end. -/
def run (b : ImageBuilder) (command : Command) : Task Outside BuildError Unit := do
  let exit ← ExceptT.lift (Plan.request (S := Outside) (.run command b.daemon))
  Task.fromExcept id (readExit command.program exit)

/-- The label of a new image: the one that is wanted, or the time. -/
def labelFor (wanted : Option String) : Task Outside BuildError String :=
  match wanted with
  | some label => pure label
  | none => do return ImageTag.labelAt (← ExceptT.lift (Plan.request (S := Outside) .now))

/-- The tag of a new image of an app. -/
def tagFor (b : ImageBuilder) (app : AppName) (label : Option String) :
    Task Outside BuildError String := do
  return ImageTag.text b.registry app (← labelFor label)

/-- Gives an image a tag in the registry and sends it there. -/
def publish (b : ImageBuilder) (r : ReferenceRequest) :
    Task Outside BuildError (Option DeploymentImage) := do
  let tag ← b.tagFor r.app r.label
  b.run (.tagImage r.reference tag)
  b.run (.push tag)
  b.inspect tag

/-- Finds an image that is there already. One that is not at hand is downloaded; only one
that is at hand is published. -/
def find (b : ImageBuilder) (r : ReferenceRequest) :
    Task Outside BuildError (Option DeploymentImage) := do
  match ← b.inspect r.reference with
  | some image => if r.publish then b.publish r else return some image
  | none =>
    b.pull r.reference
    b.inspect r.reference

/-- The remark that the ignorefile of a request is not used. -/
def ignorefileNotes (r : BuildRequest) : List Note :=
  match r.ignorefile with
  | some path =>
    let message :=
      "docker reads .dockerignore from the build context; custom ignore file not applied"
    [.logged ⟨.warn, message, [("path", path)]⟩]
  | none => []

/-- The command that builds an image: with a Dockerfile if there is one, else with
buildpacks if a builder is named, else with nixpacks if that is allowed. -/
def command? (b : ImageBuilder) (files : Files) (r : BuildRequest) (tag : String) :
    Option (List Note × Command) :=
  match r.dockerfile <|> BuildFile.discover files r.workingDir, r.builder with
  | some dockerfile, _ => some (ignorefileNotes r, .dockerBuild r tag dockerfile)
  | none, some builder => some ([], .packBuild r tag builder)
  | none, none => if b.nixpacks then some ([], .nixpacksBuild r tag) else none

/-- Builds an image. Nothing is built when there is nothing to build from. -/
def build (b : ImageBuilder) (files : Files) (r : BuildRequest) :
    Task Outside BuildError (Option DeploymentImage) := do
  if let some builtin := r.builtin then
    throw (.unsupported s!"the \"{builtin}\" builtin cannot be built by the docker builder")
  let tag ← b.tagFor r.app r.label
  let some (remarks, command) := b.command? files r tag | return none
  Task.notes remarks
  b.run command
  if r.publish then b.run (.push tag)
  b.inspect tag

end ImageBuilder

end AppDeploy
