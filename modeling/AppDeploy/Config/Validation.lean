import AppDeploy.Config.Error
import AppDeploy.Config.Basic

/-! What is wrong with a config, and what is only worth a remark. -/
namespace AppDeploy

structure Validation where
  advisories : List String
  errors : List String
deriving DecidableEq, Repr

namespace Validation

def isValid (v : Validation) : Bool :=
  v.errors.isEmpty

def toResult (v : Validation) : Except ConfigError Unit :=
  if v.isValid then .ok () else .error (.invalid v.errors)

end Validation

namespace AppConfig

/-- The strategies of bringing up a new version. -/
def knownStrategies : List String :=
  ["rolling", "immediate", "canary", "bluegreen"]

/-- The spelling of a strategy by which it is known: small letters, and no hyphens or
underscores. -/
def plainStrategy (strategy : String) : String :=
  String.ofList ((Text.lowerAscii strategy).toList.filter fun c => c ≠ '-' && c ≠ '_')

def isRegion (region : String) : Bool :=
  region.toList.all fun c => c.isLower || c.isDigit

/-- A variable has a name without equals signs and blanks. -/
def isVariableName (name : String) : Bool :=
  !name.isEmpty && name.toList.all fun c => c ≠ '=' && !Text.isBlank c

def nameErrors (c : AppConfig) : List String :=
  if c.app.isNone then ["missing app name"] else []

def regionAdvisories (c : AppConfig) : List String :=
  if c.primaryRegion.isEmpty then ["no primary_region set; the platform will pick one"] else []

def regionErrors (c : AppConfig) : List String :=
  if isRegion c.primaryRegion then []
  else [s!"primary_region '{c.primaryRegion}' must be a lowercase region code"]

/-- The problems with the names of variables, in the order of the names. The order in which the
program goes through them is not fixed, and this is one of those it can take. -/
def variableErrors (c : AppConfig) : List String :=
  (c.env.keys.filter (!isVariableName ·)).map fun name =>
    s!"env key '{name}' is not a valid variable name"

def buildArgErrors (c : AppConfig) : List String :=
  if c.build.any fun b => b.args.keys.any Text.isAllBlank then
    ["build args cannot have empty names"]
  else []

def buildAdvisories (c : AppConfig) : List String :=
  if 1 < c.buildStrategies.length then
    let strategies := ", ".intercalate c.buildStrategies
    [s!"more than one build configuration found: [{strategies}]"]
  else []

def strategyErrors (c : AppConfig) : List String :=
  match c.deployStrategy with
  | none => []
  | some strategy =>
    if knownStrategies.contains (plainStrategy strategy) then []
    else
      let known := ", ".intercalate knownStrategies
      [s!"unknown deploy strategy '{strategy}', expected one of: {known}"]

/-- The remarks and errors of a config. -/
def validate (c : AppConfig) : Validation where
  advisories := c.regionAdvisories ++ c.buildAdvisories
  errors := c.nameErrors ++ c.regionErrors ++ c.variableErrors ++ c.buildArgErrors ++
    c.strategyErrors

end AppConfig

end AppDeploy
