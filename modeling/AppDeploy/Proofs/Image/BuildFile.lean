import AppDeploy.Proofs.FilePath
import AppDeploy.Proofs.Image.Build
import AppDeploy.Proofs.Image.CommandLine

/-!
# The Dockerfile of a build

A Dockerfile that is named is known by its normal form. A build has one Dockerfile at most: the
one it is asked for, or else the one that is found in the directory (`buildFilesIn_of_built`).
-/

namespace AppDeploy

/-! ## Paths -/

namespace BuildFile

theorem absolute_of_isAbsolute {base : String} (current : List String) (path : String)
    (h : FilePath.isAbsolute base = true) :
    absolute current path base = .ok (FilePath.clean (FilePath.join base path)) := by
  rw [absolute, FilePath.absolute?_of_isAbsolute current (FilePath.isAbsolute_join path h)]

theorem exists_join_of_discover {files : Files} {dir found : String}
    (h : discover files dir = some found) : ∃ name, found = FilePath.join dir name := by
  obtain ⟨name, -, rfl⟩ := List.mem_map.1 (List.mem_of_find?_eq_some h)
  exact ⟨name, rfl⟩

theorem exists_resolve {workingDir : String} (hdir : FilePath.isAbsolute workingDir = true)
    (current : List String) (declared : Option String) (configPath : String)
    (given : Option String) :
    ∃ file, resolve current declared configPath given workingDir = .ok file := by
  rw [resolve]
  cases named? declared configPath given with
  | none => exact ⟨none, rfl⟩
  | some path =>
    simp only [absolute_of_isAbsolute current path hdir]
    exact ⟨_, rfl⟩

/-- The path of a file that is named is in normal form. -/
theorem clean_of_resolve {current : List String} {declared given : Option String}
    {configPath workingDir file : String} (hdir : FilePath.isAbsolute workingDir = true)
    (h : resolve current declared configPath given workingDir = .ok (some file)) :
    FilePath.clean file = file := by
  rw [resolve] at h
  split at h
  case h_1 path _ =>
    rw [absolute_of_isAbsolute current path hdir] at h
    cases h
    exact FilePath.clean_clean _
  case h_2 => cases h

end BuildFile

/-! ## The files of a build -/

namespace ImageBuilder

variable {b : ImageBuilder} {files : Files} {r : BuildRequest} {tag : String}
  {trace : List (Exchange Outside)} {result : Except BuildError (Option DeploymentImage)}

/-- The Dockerfiles that a request builds with. -/
def buildFilesOf : Outside.Request → List String
  | .run command _ => command.buildFiles
  | _ => []

/-- The Dockerfiles that some exchanges build with. -/
def buildFilesIn (trace : List (Exchange Outside)) : List String :=
  trace.flatMap fun x => buildFilesOf x.request

theorem buildFilesIn_append (before after : List (Exchange Outside)) :
    buildFilesIn (before ++ after) = buildFilesIn before ++ buildFilesIn after :=
  List.flatMap_append

theorem buildFilesIn_of_tagged (h : b.Tagged r trace tag) : buildFilesIn trace = [] := by
  obtain ⟨label, hlabel, -⟩ := h
  refine List.flatMap_eq_nil_iff.2 fun x hx => ?_
  rw [hlabel.request_eq_now hx]
  rfl

theorem buildFilesIn_of_concluded (h : Concluded b r tag trace result) :
    buildFilesIn trace = [] := by
  cases h with
  | kept | unpushed | published => rfl

/-- The Dockerfile to build with: the one that is asked for, or else that of the directory. -/
def chosenFile? (files : Files) (r : BuildRequest) : Option String :=
  r.dockerfile <|> BuildFile.discover files r.workingDir

theorem chosenFile?_of_command?_none (h : b.command? files r tag = none) :
    chosenFile? files r = none := by
  rw [command?, ← chosenFile?] at h
  split at h
  case h_1 => cases h
  case h_2 => cases h
  case h_3 hfile _ => exact hfile

theorem buildFiles_of_command? {remarks : List Note} {command : Command}
    (h : b.command? files r tag = some (remarks, command)) :
    command.buildFiles = (chosenFile? files r).toList := by
  rw [command?, ← chosenFile?] at h
  split at h
  case h_1 file hfile =>
    cases h
    rw [hfile]
    exact Command.buildFiles_dockerBuild r tag file
  case h_2 builder hfile _ =>
    cases h
    rw [hfile]
    exact Command.buildFiles_packBuild r tag builder
  case h_3 hfile _ =>
    split at h
    case isTrue =>
      cases h
      rw [hfile]
      exact Command.buildFiles_nixpacksBuild r tag
    case isFalse => cases h

/-- Unless a builtin keeps anything from being built, the Dockerfile to build with is the one
that is built with. -/
theorem buildFilesIn_of_built (h : Built b files r trace result) :
    buildFilesIn trace = if r.builtin = none then (chosenFile? files r).toList else [] := by
  cases h with
  | unsupported h => simp [h, buildFilesIn]
  | nothing h htag hcommand =>
    rw [if_pos h, buildFilesIn_of_tagged htag, chosenFile?_of_command?_none hcommand]
    rfl
  | failed h htag hcommand he =>
    rw [if_pos h, buildFilesIn_append, buildFilesIn_of_tagged htag,
      ← buildFiles_of_command? hcommand]
    simp [buildFilesIn, buildFilesOf]
  | concluded h htag hcommand hexit hrest =>
    rw [if_pos h, buildFilesIn_append, buildFilesIn_of_tagged htag,
      ← buildFiles_of_command? hcommand, ← List.singleton_append, buildFilesIn_append,
      buildFilesIn_of_concluded hrest]
    simp [buildFilesIn, buildFilesOf]

end ImageBuilder

end AppDeploy
