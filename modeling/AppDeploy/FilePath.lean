/-! Paths of files, as texts with slashes.

A path names a place by steps; a step of one dot stays where it is, and one of two dots
goes back. The normal form of a path is found from its text alone, without a look at the
files. -/
namespace AppDeploy.FilePath

def isAbsolute (path : String) : Bool :=
  path.toList.head? = some '/'

/-- A path seen from a base; an absolute one stands for itself. -/
def join (base path : String) : String :=
  if isAbsolute path || base.isEmpty then path
  else if base.toList.getLast? = some '/' then base ++ path
  else base ++ "/" ++ path

/-- The pieces of a text between slashes. -/
def pieces : List Char → List (List Char)
  | [] => [[]]
  | c :: rest =>
    if c = '/' then [] :: pieces rest
    else
      match pieces rest with
      | [] => [[c]]
      | piece :: more => (c :: piece) :: more

/-- Whether a piece says nothing about the place. -/
def isIdle (piece : List Char) : Bool :=
  piece.isEmpty || piece = ['.']

/-- The steps of a path. -/
def steps (path : String) : List String :=
  ((pieces path.toList).filter (!isIdle ·)).map String.ofList

/-- One more step: two dots take back the last one, if there is one. -/
def goto (place : List String) (step : String) : List String :=
  if step = ".." then place.dropLast else place ++ [step]

/-- The place that steps lead to from the root. -/
def reduce (steps : List String) : List String :=
  steps.foldl goto []

/-- The text of a place. -/
def textOf (place : List String) : String :=
  "/" ++ "/".intercalate place

/-- Whether a path begins with a step that stays where it is. -/
def startsHere (path : String) : Bool :=
  (pieces path.toList).head? = some ['.']

/-- The path that contains a path. The root and the empty path have none. -/
def parent? (path : String) : Option String :=
  match steps path with
  | [] => if path.toList.any (· = '.') && !isAbsolute path then some "" else none
  | steps =>
    let before := "/".intercalate steps.dropLast
    some (if isAbsolute path then "/" ++ before
      else if startsHere path then join "." before
      else before)

/-- The place of a path seen from a base, and from the place of the current directory if
that is relative too. An empty path is no place. -/
def place? (current : List String) (path base : String) : Option (List String) :=
  let joined := join base path
  if joined.isEmpty then none
  else some ((steps joined).foldl goto (if isAbsolute joined then [] else current))

/-- The absolute path in normal form of a path seen from a base. -/
def absolute? (current : List String) (path base : String) : Option String :=
  (place? current path base).map textOf

end AppDeploy.FilePath
