import AppDeploy.Console

/-! Remarks that are shown and logged, and never fail a deploy. -/
namespace AppDeploy

inductive AdvisoryKind where
  | config
  | ignoredDockerfile
deriving DecidableEq, Repr

structure Advisory where
  kind : AdvisoryKind
  message : String
deriving DecidableEq, Repr

inductive LogLevel where
  | warn
  | error
deriving DecidableEq, Repr

/-- An entry of the log, with named values. -/
structure LogEntry where
  level : LogLevel
  message : String
  values : List (String × String)
deriving DecidableEq, Repr

/-- Something that happens without anybody being asked: a line is printed, an entry is
logged, or a remark is kept. -/
inductive Note where
  | printed (line : Line)
  | logged (entry : LogEntry)
  | remarked (advisory : Advisory)
deriving DecidableEq, Repr

namespace AdvisoryKind

def name : AdvisoryKind → String
  | .config => "ConfigAdvisory"
  | .ignoredDockerfile => "IgnoredDockerfile"

end AdvisoryKind

def LogLevel.name : LogLevel → String
  | .warn => "WARN"
  | .error => "ERROR"

namespace Advisory

/-- A remark of the validation of a config. -/
def ofConfig (message : String) : Advisory :=
  ⟨.config, message⟩

/-- The remark that a Dockerfile in the working directory is not the one that is used. -/
def ofIgnoredDockerfile (path : String) : Advisory :=
  ⟨.ignoredDockerfile, s!"Ignoring {path} due to config"⟩

/-- Keeps a remark without showing it. -/
def keep (a : Advisory) : List Note :=
  [.logged ⟨.warn, a.message, [("kind", a.kind.name)]⟩, .remarked a]

/-- Shows a remark and keeps it. -/
def report (console : Console) (a : Advisory) : List Note :=
  (console.warning a.message).map .printed ++ a.keep

def toJson (a : Advisory) : Json :=
  .object [("kind", .str a.kind.name), ("message", .str a.message)]

end Advisory

namespace LogEntry

def toJson (e : LogEntry) : Json :=
  .object <|
    [("level", .str e.level.name), ("message", .str e.message)] ++
    e.values.map fun (name, value) => (name, .str value)

/-- An entry as a line of a log. -/
def text (e : LogEntry) : String :=
  let values := e.values.map fun (name, value) => s!"{name}={value}"
  " ".intercalate ([e.level.name, e.message] ++ values)

end LogEntry

namespace Note

def line? : Note → Option Line
  | .printed line => some line
  | _ => none

def entry? : Note → Option LogEntry
  | .logged entry => some entry
  | _ => none

def advisory? : Note → Option Advisory
  | .remarked a => some a
  | _ => none

end Note

end AppDeploy
