import AppDeploy.FilePath

/-! Files to read from: directories and the bytes of files, at absolute places.

There are no symbolic links, and there is no file that exists but cannot be read. -/
namespace AppDeploy

/-- What there is at a place. -/
inductive FileEntry where
  | file (bytes : ByteArray)
  | directory

/-- The files that can be seen, and the place of the current directory. -/
structure Files where
  entry? : List String → Option FileEntry
  current : List String := []

namespace Files

/-- Why a file cannot be read. -/
inductive Error where
  | notFound
  | notDirectory
  | isDirectory
  | notText
  /-- Any other failure, told by its text. Nothing that is read from `Files` ends with one. -/
  | other (text : String)
deriving DecidableEq, Repr

def Error.message : Error → String
  | .notFound => "No such file or directory (os error 2)"
  | .notDirectory => "Not a directory (os error 20)"
  | .isDirectory => "Is a directory (os error 21)"
  | .notText => "stream did not contain valid UTF-8"
  | .other text => text

/-- No files at all. -/
def none : Files where
  entry? _ := .none

/-- The files of a list, given by their places, with the directories that contain them. -/
def ofList (entries : List (List String × FileEntry)) (current : List String) : Files where
  entry? place :=
    match entries.find? (·.1 == place) with
    | some (_, entry) => some entry
    | .none =>
      if place.isPrefixOf current || entries.any fun (p, _) => place.isPrefixOf p then
        some .directory
      else .none
  current

/-- Goes from a place through the pieces of a path. Every piece, idle ones too, needs a
directory to go from. -/
def walk (files : Files) (place : List String) : List (List Char) → Except Error (List String)
  | [] =>
    match files.entry? place with
    | some _ => .ok place
    | .none => .error .notFound
  | piece :: rest =>
    match files.entry? place with
    | .none => .error .notFound
    | some (.file _) => .error .notDirectory
    | some .directory =>
      if FilePath.isIdle piece then walk files place rest
      else walk files (FilePath.goto place (String.ofList piece)) rest

/-- The place that a path leads to. A relative path starts at the current directory. -/
def locate (files : Files) (path : String) : Except Error (List String) :=
  if path.isEmpty || path.toList.any (· = '\x00') then .error .notFound
  else
    let pieces := FilePath.pieces path.toList
    if FilePath.isAbsolute path then walk files [] (pieces.drop 1)
    else walk files files.current pieces

/-- The places on the way from a place through the pieces of a path. -/
def trail (place : List String) : List (List Char) → List (List String)
  | [] => [place]
  | piece :: rest =>
    place :: trail (if FilePath.isIdle piece then place
      else FilePath.goto place (String.ofList piece)) rest

def find? (files : Files) (path : String) : Option FileEntry :=
  match files.locate path with
  | .ok place => files.entry? place
  | .error _ => .none

def exists? (files : Files) (path : String) : Bool :=
  (files.find? path).isSome

def isFile (files : Files) (path : String) : Bool :=
  match files.find? path with
  | some (.file _) => true
  | _ => false

/-- The text of a file. -/
def readText (files : Files) (path : String) : Except Error String := do
  let place ← files.locate path
  match files.entry? place with
  | some (.file bytes) =>
    match String.fromUTF8? bytes with
    | some text => return text
    | .none => throw .notText
  | some .directory => throw .isDirectory
  | .none => throw .notFound

/-- The text of the path that an existing path leads to, free of idle and backward
steps. -/
def canonical? (files : Files) (path : String) : Option String :=
  match files.locate path with
  | .ok place => some (FilePath.textOf place)
  | .error _ => .none

end Files

end AppDeploy
