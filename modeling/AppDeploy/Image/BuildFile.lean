import AppDeploy.Files
import AppDeploy.Image.Error

/-! The files a build is made from. A file named in a config is looked for beside the
config, and any other one in the working directory. -/
namespace AppDeploy.BuildFile

/-- The absolute path in normal form of a path seen from a base. -/
def absolute (current : List String) (path base : String) : Except BuildError String :=
  match FilePath.absolute? current path base with
  | some path => .ok path
  | none => .error (.path (FilePath.join base path) "cannot make an empty path absolute")

/-- The path of a file that a config names. -/
def besideConfig (configPath name : String) : String :=
  match FilePath.parent? configPath with
  | some dir => FilePath.join dir name
  | none => name

/-- The path of a file that is named by a config, or else by the user; an empty name of the
user's is as good as none. -/
def named? (declared : Option String) (configPath : String) (given : Option String) :
    Option String :=
  match declared with
  | some name => some (besideConfig configPath name)
  | none => given.filter (!·.isEmpty)

/-- The absolute path of a file that is named by a config, or else by the user. -/
def resolve (current : List String) (declared : Option String) (configPath : String)
    (given : Option String) (workingDir : String) : Except BuildError (Option String) :=
  match named? declared configPath given with
  | some path => (absolute current path workingDir).map some
  | none => .ok none

/-- The names that a Dockerfile goes by. -/
def dockerfileNames : List String :=
  ["Dockerfile", "dockerfile"]

/-- The Dockerfile of a directory. -/
def discover (files : Files) (dir : String) : Option String :=
  (dockerfileNames.map (FilePath.join dir)).find? files.isFile

end AppDeploy.BuildFile
