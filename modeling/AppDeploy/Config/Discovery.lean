import AppDeploy.Config.Decode
import AppDeploy.Config.Error

/-! Finding and reading the config of an app. -/
namespace AppDeploy.AppConfig

/-- The config in a text. -/
def ofYaml (text : String) : Except ConfigError AppConfig :=
  (Yaml.decode AppConfig.read text).mapError .yaml

/-- The config in a file. -/
def load (files : Files) (path : String) : Except ConfigError AppConfig := do
  if !files.exists? path then throw (.notFound path)
  let text ← (files.readText path).mapError (.read path)
  let config ← ofYaml text
  return { config with path }

/-- Where a config is looked for in a directory, best place first. -/
def candidates : List String :=
  ["hangar.yml", "hangar.yaml", ".hangar/config.yml"]

/-- The config of the app in a directory, if there is one. -/
def discover (files : Files) (dir : String) : Except ConfigError (Option AppConfig) :=
  match (candidates.map (FilePath.join dir)).find? files.isFile with
  | some path => (load files path).map some
  | none => .ok none

end AppDeploy.AppConfig
