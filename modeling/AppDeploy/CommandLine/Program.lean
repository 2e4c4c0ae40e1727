import AppDeploy.CommandLine.Arguments
import AppDeploy.CommandLine.Failure
import AppDeploy.Config.Discovery
import AppDeploy.Deploy.Carried

/-! The program: it reads its call, finds out everything it can without asking anybody, and
then deploys. -/
namespace AppDeploy.CommandLine

/-! ## Before anything is asked for -/

/-- The config at hand: the one that is named, or else the one in the working directory. -/
def localConfig (files : Files) (call : Call) (workingDir : String) :
    Except ConfigError (Option AppConfig) :=
  match call.config with
  | some path => (AppConfig.load files (FilePath.join workingDir path)).map some
  | none => AppConfig.discover files workingDir

/-- The places that a call looks at, seen from the current directory: those on the way to
every file that may be read. -/
def placesOf (call : Call) (current : List String) : List (List String) :=
  let dir := call.workingDirectory.getD "."
  let names := "." :: AppConfig.candidates ++ BuildFile.dockerfileNames ++ call.config.toList
  names.flatMap fun name =>
    let path := FilePath.join dir name
    Files.trail (if FilePath.isAbsolute path then [] else current) (FilePath.pieces path.toList)

/-- The app to deploy: the one that is named, or else the one of the config at hand. -/
def chooseApp (call : Call) (config : Option AppConfig) : Except Failure AppName :=
  match call.app with
  | some name => (AppName.ofText name).mapError .appName
  | none =>
    match config.bind (·.app) with
    | some app => .ok app
    | none => .error .missingAppName

/-- All that a deploy starts from. -/
structure Preparation where
  options : DeployOptions
  config : Option AppConfig
  settings : Settings
  controlPlane : ControlPlane

/-- What the arguments, the files and the variables make of a call. The first step that
fails is the failure of the program. -/
def prepare (env : Environment) (files : Files) (call : Call) : Except Failure Preparation := do
  let dir := call.workingDirectory.getD "."
  let some workingDir := files.canonical? dir | throw (.workingDir dir)
  let config ← (localConfig files call workingDir).mapError .config
  let app ← chooseApp call config
  let settings ← (Settings.ofEnvironment env).mapError .settings
  let controlPlane ← (ControlPlane.ofSettings settings).mapError .client
  return { options := call.options app workingDir, config, settings, controlPlane }

/-! ## The deploy -/

/-- What is said of a deploy that went well. -/
def successText (o : DeployOptions) (r : Deploy.Report) : String :=
  if !r.dispatched then s!"Built image {r.image.tag}"
  else if o.detach then s!"Started deploy of {o.app.text} on {r.platform.name}"
  else s!"Deployed {o.app.text} on {r.platform.name}"

/-- Deploys what a call asks for. -/
def deploy (env : Environment) (files : Files) (call : Call) : Task Outside Failure Unit := do
  let start ← ExceptT.lift (Plan.request (S := Outside) .now)
  let p ← Task.fromExcept id (prepare env files call)
  let choice := DaemonChoice.ofFlags p.options.build env.isBuildServer
  let builder ← (ImageBuilder.connect p.settings choice).adapt .builder
  let console : Console := ⟨call.mode⟩
  let report ←
    (Deploy.runOutside p.controlPlane builder console files p.options p.config).adapt .deploy
  let finish ← ExceptT.lift (Plan.request (S := Outside) .now)
  Task.print (console.success (successText p.options report) (some (start.spanTo finish)))

/-! ## The program -/

/-- What is printed about a failure. -/
def failureLines (console : Console) (e : Failure) : List Line :=
  console.error e.message none ++
    match e.hint with
    | some hint => console.detail hint
    | none => []

def about : String := "Deploy applications from source or an image"

def helpText : List String :=
  [about, "", s!"Usage: {programName} [OPTIONS] <COMMAND>"]

/-- What is printed when a call does not get to its command. -/
def stopLines : Stop → List Line
  | .usage e =>
    [⟨.err, s!"error: {e.message}"⟩, ⟨.err, ""⟩,
      ⟨.err, "For more information, try '--help'."⟩]
  | .help => helpText.map (⟨.out, ·⟩)
  | .version => [⟨.out, s!"{programName} 0.1.0"⟩]
  | .empty => helpText.map (⟨.err, ·⟩)

/-- The exit status after a call that does not get to its command. -/
def stopStatus : Stop → Nat
  | .usage _ | .empty => 2
  | .help | .version => 0

/-- The program, up to its exit status. -/
def program (env : Environment) (files : Files) (texts : List String) : Plan Outside Nat := do
  match read texts with
  | .error s =>
    Plan.print (stopLines s)
    return stopStatus s
  | .ok call =>
    match ← (deploy env files call).run with
    | .ok _ => return 0
    | .error e =>
      Plan.print (failureLines ⟨call.mode⟩ e)
      return 1

/-- What is printed when the program is interrupted. -/
def interruptionLines (texts : List String) : List Line :=
  match read texts with
  | .ok call => failureLines ⟨call.mode⟩ .interrupted
  | .error _ => []

/-- A run of the program in a world that may interrupt it: what is printed, the exit status,
and the world after it. -/
def runProgram (interrupted : ω → Bool) (w : World Outside ω) (env : Environment) (files : Files)
    (texts : List String) (state : ω) : List Line × Nat × ω :=
  let (events, status, state) := (program env files texts).runUntil interrupted w state
  let lines := (events.filterMap Event.note?).filterMap Note.line?
  match status with
  | some status => (lines, status, state)
  | none => (lines ++ interruptionLines texts, 1, state)

end AppDeploy.CommandLine
