import AppDeploy.Config.Error
import AppDeploy.Config.Basic

/-! What machines can run: process groups with sound names and commands, services and
checks that are complete and only refer to groups there are. -/
namespace AppDeploy.AppConfig

/-- The group of an app that declares none. -/
def defaultProcessGroup : String := "app"

/-- The process groups of an app. -/
def processGroups (c : AppConfig) : List String :=
  if c.processes.isEmpty then [defaultProcessGroup] else c.processes.keys

def isGroupName (name : String) : Bool :=
  !name.isEmpty && name.toList.all fun c => c.isLower || c.isDigit || c = '-' || c = '_'

/-- What is wrong with a process group. -/
def processProblems (name command : String) : List String :=
  (if isGroupName name then []
    else [s!"process group '{name}' may only contain lowercase letters, digits, '-' and '_'"]) ++
  (if Text.isAllBlank command then [s!"process group '{name}' has an empty command"] else [])

/-- The groups that are referred to but not there. -/
def unknownGroups (groups references : List String) : List String :=
  references.filter (!groups.contains ·)

/-- What is wrong with the service at a position. -/
def serviceProblems (groups : List String) (index : Nat) (service : ServiceConfig) : List String :=
  (if service.internalPort = 0 then [s!"services[{index}] needs an internal_port"] else []) ++
  (unknownGroups groups service.processes).map fun group =>
    s!"services[{index}] references unknown process group '{group}'"

/-- What is wrong with a check. -/
def checkProblems (groups : List String) (name : String) (check : CheckConfig) : List String :=
  (if check.port.isNone then [s!"check '{name}' needs a port"] else []) ++
  (if check.kind = .http && (present check.path).isNone then
    [s!"http check '{name}' needs a path"] else []) ++
  (unknownGroups groups check.processes).map fun group =>
    s!"check '{name}' references unknown process group '{group}'"

/-- Everything that keeps a config off machines. -/
def machineProblems (c : AppConfig) : List String :=
  (c.processes.entries.flatMap fun (name, command) => processProblems name command) ++
  (c.services.zipIdx.flatMap fun (service, index) =>
    serviceProblems c.processGroups index service) ++
  (c.checks.entries.flatMap fun (name, check) => checkProblems c.processGroups name check)

def ensureMachines (c : AppConfig) : Except ConfigError Unit :=
  if c.machineProblems.isEmpty then .ok () else .error (.machinesIncompatible c.machineProblems)

end AppDeploy.AppConfig
