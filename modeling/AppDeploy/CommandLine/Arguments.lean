import AppDeploy.CommandLine.Reading
import AppDeploy.Console
import AppDeploy.Options

/-! The command line of the program: one command, `deploy`, and switches that may stand
before it or among its arguments. -/
namespace AppDeploy.CommandLine

/-! ## What there is to give -/

def verbose : Argument := { name := "verbose", short := 'v' }
def quiet : Argument := { name := "quiet", short := 'q' }
def json : Argument := { name := "json" }
def help : Argument := { name := "help", short := 'h', effect := .showHelp }
def version : Argument := { name := "version", short := 'V', effect := .showVersion }

/-- The switches that may stand before the command or among its arguments. -/
def commonSwitches : List Argument := [verbose, quiet, json, help]

/-- The switches that exclude each other. -/
def excluding : List (Argument × Argument) := [(quiet, json), (json, quiet)]

/-- An option with a text. -/
def textOption (name operandName : String) (short : Option Char) : Argument :=
  { name, short, operand := .text, operandName }

def pathOption (name operandName : String) (short : Option Char) : Argument :=
  { name, short, operand := .path, operandName }

def numberOption (name operandName : String) : Argument :=
  { name, operand := .number, operandName }

/-- An option that may be given more than once, with a name and a value each time. -/
def assignmentOption (name : String) (short : Option Char) : Argument :=
  { name, short, operand := .text, operandName := "NAME=VALUE", repeatable := true }

def workingDirectory : Argument :=
  { name := "", operand := .path, operandName := "WORKING_DIRECTORY", isPosition := true }

/-- The arguments of the command. -/
def deployArguments : List Argument :=
  [workingDirectory,
    textOption "app" "APP" 'a',
    pathOption "config" "CONFIG" 'c',
    textOption "region" "REGION" 'r',
    textOption "image" "IMAGE" 'i',
    { name := "local-only" },
    { name := "remote-only" },
    { name := "push" },
    { name := "no-cache" },
    textOption "build-target" "BUILD_TARGET" none,
    pathOption "dockerfile" "DOCKERFILE" none,
    pathOption "ignorefile" "IGNOREFILE" none,
    assignmentOption "build-arg" none,
    assignmentOption "build-secret" none,
    textOption "image-label" "IMAGE_LABEL" none,
    { name := "nixpacks" },
    { name := "build-only" },
    textOption "strategy" "STRATEGY" none,
    assignmentOption "env" 'e',
    { name := "detach" },
    { name := "auto-confirm", short := 'y' },
    numberOption "wait-timeout" "WAIT_TIMEOUT",
    numberOption "lease-timeout" "LEASE_TIMEOUT",
    { name := "force-releases", otherName := "force-nomad" },
    { name := "force-machines" }] ++ commonSwitches

/-! ## What was given -/

/-- A call of the program. -/
structure Call where
  mode : ConsoleMode
  workingDirectory : Option String
  config : Option String
  /-- The app to deploy; an empty name is as good as none. -/
  app : Option String
  /-- The wishes for the deploy, once its app and its directory are known. -/
  options : AppName → String → DeployOptions

/-- The number of seconds that an option gives. -/
def secondsOf (r : Reading) (name : String) (absent : Nat) : Span :=
  match r.operand? name with
  | some text =>
    .ofSeconds ((text.toList.filter Char.isDigit).foldl (fun n c => n * 10 + (c.toNat - 48)) 0)
  | none => .ofSeconds absent

/-- How the image is to be built. -/
def buildFlags (r : Reading) : BuildFlags where
  localOnly := r.has "local-only"
  remoteOnly := r.has "remote-only"
  push := r.has "push"
  noCache := r.has "no-cache"
  nixpacks := r.has "nixpacks"
  target := r.operand? "build-target"
  dockerfile := r.operand? "dockerfile"
  ignorefile := r.operand? "ignorefile"
  args := r.operands "build-arg"
  secrets := r.operands "build-secret"

/-- The wishes for a deploy. -/
def deployOptions (r : Reading) (app : AppName) (workingDir : String) : DeployOptions where
  app
  workingDir
  region := r.operand? "region"
  image := r.operand? "image"
  imageLabel := r.operand? "image-label"
  build := buildFlags r
  strategy := r.operand? "strategy"
  env := r.operands "env"
  detach := r.has "detach"
  buildOnly := r.has "build-only"
  autoConfirm := r.has "auto-confirm"
  waitTimeout := secondsOf r "wait-timeout" 120
  leaseTimeout := secondsOf r "lease-timeout" 13
  forceReleases := r.has "force-releases"
  forceMachines := r.has "force-machines"

/-- The mode that the switches choose, wherever they stand. -/
def modeOf (before among : Reading) : ConsoleMode :=
  let has (a : Argument) : Bool := before.isGiven a || among.isGiven a
  if has json then .json else if has quiet then .quiet else .normal

/-- Refuses switches that exclude each other. -/
def checkConflicts (r : Reading) : Except Stop Unit :=
  match r.conflict? excluding with
  | some e => .error (.usage e)
  | none => .ok ()

/-- The call of the command with the switches before it and the texts after it. -/
def readDeploy (before : Reading) (texts : List String) : Except Stop Call := do
  let r ← ({} : Reading).takeAll deployArguments texts
  checkConflicts r
  checkConflicts before
  return {
    mode := modeOf before r
    workingDirectory := r.operand? ""
    config := r.operand? "config"
    app := present (r.operand? "app")
    options := deployOptions r }

/-- Reads what comes after the word `help`. -/
def readHelp (texts : List String) : Stop :=
  match texts with
  | [] | ["deploy"] | ["help"] => .help
  | "deploy" :: name :: _ | "help" :: name :: _ | name :: _ => .usage (.unknownCommand name)

/-- Reads the switches before the command. After `--` there is no command any more. -/
def readFrom (before : Reading) : List String → Except Stop Call
  | [] => do
    let before ← Reading.stop before.settle
    if before.given.isEmpty then throw .empty
    throw (.usage .missingCommand)
  | text :: rest =>
    let isCommand := text == "deploy" || text == "help"
    if before.trailing then
      .error (.usage (if isCommand then .unexpectedArgument text else .unknownCommand text))
    else if Reading.isOption text then do
      readFrom (← before.take (version :: commonSwitches) text) rest
    else if text == "deploy" then readDeploy before rest
    else if text == "help" then .error (readHelp rest)
    else .error (.usage (.unknownCommand text))

/-- Reads a call of the program. -/
def read (texts : List String) : Except Stop Call :=
  readFrom {} texts

end AppDeploy.CommandLine
