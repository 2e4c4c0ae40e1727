import AppDeploy.Image.Command

/-!
# What the command line of a build says

The command line of a docker build is read back here as the program reads it: an option that
takes a value takes the argument after it, whatever that is (`optionValues`). Each option is
found with the values of its own, so that a build has one Dockerfile (`buildFiles_dockerBuild`).
-/

namespace AppDeploy.Command

/-- The options of a docker build that take a value. -/
def dockerBuildOptions : List String :=
  ["--tag", "--file", "--label", "--build-arg", "--secret", "--target"]

/-- The values that an option is given in some arguments of a docker build. -/
def optionValues (option : String) : List String → List String
  | word :: value :: rest =>
    if word ∈ dockerBuildOptions then
      (if word = option then [value] else []) ++ optionValues option rest
    else optionValues option (value :: rest)
  | _ => []

/-- The Dockerfiles that a command builds with. -/
def buildFiles (c : Command) : List String :=
  match c.args with
  | "build" :: args => if c.program = "docker" then optionValues "--file" args else []
  | _ => []

variable {option word value : String} {rest : List String}

theorem optionValues_cons (h : word ∈ dockerBuildOptions) :
    optionValues option (word :: value :: rest) =
      (if word = option then [value] else []) ++ optionValues option rest := by
  rw [optionValues, if_pos h]

/-- An option that comes once for each entry of a list. -/
theorem optionValues_flatMap {α : Type} (h : word ∈ dockerBuildOptions) (l : List α)
    (value : α → String) :
    optionValues option (l.flatMap (fun a => [word, value a]) ++ rest) =
      (if word = option then l.map value else []) ++ optionValues option rest := by
  induction l with
  | nil => simp
  | cons a l ih =>
    rw [List.flatMap_cons, List.append_assoc, List.cons_append, List.cons_append, List.nil_append,
      optionValues_cons h, ih]
    split <;> rfl

theorem optionValues_optionalOption (h : word ∈ dockerBuildOptions) (value : Option String) :
    optionValues option (optionalOption word value ++ rest) =
      (if word = option then value.toList else []) ++ optionValues option rest := by
  cases value with
  | none => simp [optionalOption]
  | some value => exact optionValues_cons h

/-- The directory at the end is not a value of an option. -/
theorem optionValues_switch (h : word ∉ dockerBuildOptions) (on : Bool) (dir : String) :
    optionValues option (switch word on ++ [dir]) = [] := by
  cases on with
  | false => rfl
  | true =>
    rw [switch, if_pos rfl, List.singleton_append, optionValues, if_neg h, optionValues]
    simp

/-- What follows the word `build` in a docker build. -/
def dockerBuildTail (r : BuildRequest) (tag dockerfile : String) : List String :=
  "--tag" :: tag :: "--file" :: dockerfile :: "--label" :: s!"{appLabel}={r.app.text}" ::
    (assignments "--build-arg" r.args ++ (secretOptions r.secrets ++
      (optionalOption "--target" r.target ++ (switch "--no-cache" r.noCache ++ [r.workingDir]))))

theorem dockerBuildArgs_eq (r : BuildRequest) (tag dockerfile : String) :
    dockerBuildArgs r tag dockerfile = "build" :: dockerBuildTail r tag dockerfile := by
  simp only [dockerBuildArgs, dockerBuildTail, List.append_assoc, List.cons_append,
    List.nil_append]

/-- Every option of a build is read back with its own values. -/
theorem optionValues_dockerBuildTail (r : BuildRequest) (tag dockerfile option : String) :
    optionValues option (dockerBuildTail r tag dockerfile) =
      (if "--tag" = option then [tag] else []) ++
      ((if "--file" = option then [dockerfile] else []) ++
      ((if "--label" = option then [s!"{appLabel}={r.app.text}"] else []) ++
      ((if "--build-arg" = option then
          r.args.entries.map fun (name, value) => s!"{name}={value}" else []) ++
      ((if "--secret" = option then
          r.secrets.keys.map fun id => s!"id={id},env={secretVariable id}" else []) ++
      (if "--target" = option then r.target.toList else []))))) := by
  rw [dockerBuildTail, optionValues_cons (by decide), optionValues_cons (by decide),
    optionValues_cons (by decide), assignments, optionValues_flatMap (by decide), secretOptions,
    optionValues_flatMap (by decide), optionValues_optionalOption (by decide),
    optionValues_switch (by decide), List.append_nil]

theorem buildFiles_dockerBuild (r : BuildRequest) (tag dockerfile : String) :
    (dockerBuild r tag dockerfile).buildFiles = [dockerfile] := by
  rw [buildFiles, dockerBuild, dockerBuildArgs_eq]
  simp [optionValues_dockerBuildTail]

theorem buildFiles_packBuild (r : BuildRequest) (tag builder : String) :
    (packBuild r tag builder).buildFiles = [] :=
  rfl

theorem buildFiles_nixpacksBuild (r : BuildRequest) (tag : String) :
    (nixpacksBuild r tag).buildFiles = [] :=
  rfl

end AppDeploy.Command
