import AppDeploy.Proofs.FilePath.NormalForm
import AppDeploy.Proofs.Image.BuildFile

/-!
# Where build files are looked for

A file that a config names is looked for beside the config, and one that the user names in the
working directory; a config beside which nothing can be looked for is as good as one in the working
directory. From an absolute working directory all this has a normal form (`file_anchored`).
-/

namespace AppDeploy.BuildFile

open FilePath (IsName IsNormalForm clean isAbsolute join parent? steps textOf)

variable {current : List String} {configPath workingDir : String}

/-- The directory of a config. A path without a parent adds nothing. -/
def directoryOf (configPath : String) : String :=
  (parent? configPath).getD ""

/-- An absolute path of names only: no dots, no steps back and nothing empty between its
slashes. -/
def IsPlain (path : String) : Prop :=
  isAbsolute path = true ∧ ∃ names, (∀ s ∈ names, IsName s) ∧ path = "/" ++ "/".intercalate names

/-- The paths that lead to a named file from the working directory: by way of the directory of
the config if that names the file, and else straight to the one that the user names. -/
inductive Named (configPath : String) : Option String → Option String → List String → Prop where
  | declared (name : String) (given : Option String) :
      Named configPath (some name) given [directoryOf configPath, name]
  | given {name : String} (hne : name ≠ "") : Named configPath none (some name) [name]

/-- What becomes of the files that a config at a path, or else the user, may name. -/
structure Anchored (current : List String) (configPath workingDir : String) : Prop where
  /-- The directory of a config lacks the last step of its path. -/
  directory : ∀ dir, parent? configPath = some dir →
    steps dir = (steps configPath).dropLast ∧ isAbsolute dir = isAbsolute configPath
  /-- Only an empty path and the root are in no directory. -/
  orphan : parent? configPath = none ↔
    configPath = "" ∨ isAbsolute configPath = true ∧ steps configPath = []
  answered : ∀ declared given, ∃ file,
    resolve current declared configPath given workingDir = .ok file
  /-- A file that the config names is looked for beside it, whatever the user names. -/
  declared : ∀ name, ∃ file,
    IsNormalForm [workingDir, directoryOf configPath, name] file ∧
      ∀ given, resolve current (some name) configPath given workingDir = .ok (some file)
  /-- With an absolute name or directory of the config, any working directory will do. -/
  settled : ∀ name given workingDir', isAbsolute workingDir' = true →
    (isAbsolute name = true ∨ parent? configPath ≠ none ∧ isAbsolute configPath = true) →
      resolve current (some name) configPath given workingDir' =
        resolve current (some name) configPath given workingDir
  /-- Else a file that the user names is looked for in the working directory. -/
  given : ∀ name, name ≠ "" → ∃ file, IsNormalForm [workingDir, name] file ∧
    resolve current none configPath (some name) workingDir = .ok (some file)
  unnamed : resolve current none configPath none workingDir = .ok none ∧
    resolve current none configPath (some "") workingDir = .ok none
  plain : ∀ declared given file,
    resolve current declared configPath given workingDir = .ok (some file) → IsPlain file

theorem besideConfig_eq (configPath name : String) :
    besideConfig configPath name = join (directoryOf configPath) name := by
  rw [besideConfig, directoryOf]
  cases parent? configPath with
  | some dir => rfl
  | none => simp [join]

theorem resolve_declared (name : String) (given : Option String)
    (hdir : isAbsolute workingDir = true) :
    resolve current (some name) configPath given workingDir =
      .ok (some (clean (join workingDir (join (directoryOf configPath) name)))) := by
  rw [resolve, named?, besideConfig_eq]
  simp only [absolute_of_isAbsolute current _ hdir]
  rfl

theorem resolve_given {name : String} (hname : name ≠ "") (hdir : isAbsolute workingDir = true) :
    resolve current none configPath (some name) workingDir =
      .ok (some (clean (join workingDir name))) := by
  have hnamed : named? none configPath (some name) = some name := by simp [named?, hname]
  rw [resolve, hnamed]
  simp only [absolute_of_isAbsolute current _ hdir]
  rfl

/-- A file is found exactly at the normal form of the paths that lead to it. -/
theorem resolve_eq_ok_some_iff {declared given : Option String} {file : String}
    (hdir : isAbsolute workingDir = true) :
    resolve current declared configPath given workingDir = .ok (some file) ↔
      ∃ paths, Named configPath declared given paths ∧ IsNormalForm (workingDir :: paths) file := by
  constructor
  · intro h
    cases declared with
    | some name =>
      rw [resolve_declared name given hdir] at h
      cases h
      exact ⟨_, .declared name given, FilePath.isNormalForm_clean_join_join _ _ _⟩
    | none =>
      cases hgiven : given.filter (!·.isEmpty) with
      | none => simp [resolve, named?, hgiven] at h
      | some name =>
        obtain ⟨rfl, hne⟩ := Option.filter_eq_some_iff.1 hgiven
        have hname : name ≠ "" := by simpa using hne
        rw [resolve_given hname hdir] at h
        cases h
        exact ⟨_, .given hname, FilePath.isNormalForm_clean_join _ _⟩
  · rintro ⟨paths, hnamed, hfile⟩
    cases hnamed with
    | declared name given =>
      rw [resolve_declared name given hdir,
        FilePath.isNormalForm_unique hfile (FilePath.isNormalForm_clean_join_join _ _ _)]
    | given hne =>
      rw [resolve_given hne hdir,
        FilePath.isNormalForm_unique hfile (FilePath.isNormalForm_clean_join _ _)]

theorem isPlain_clean (path : String) : IsPlain (clean path) :=
  ⟨FilePath.isAbsolute_append rfl, _, FilePath.isName_of_reduce path, rfl⟩

/-- An absolute path joined to a directory does not depend on the directory. -/
theorem join_directoryOf_of_isAbsolute {name : String}
    (h : isAbsolute name = true ∨ parent? configPath ≠ none ∧ isAbsolute configPath = true) :
    isAbsolute (join (directoryOf configPath) name) = true := by
  rw [FilePath.isAbsolute_join_eq, Bool.or_eq_true]
  rcases h with hname | ⟨hparent, hconfig⟩
  · exact .inl hname
  · obtain ⟨dir, hdir⟩ := Option.ne_none_iff_exists'.1 hparent
    rw [directoryOf, hdir, Option.getD_some, (FilePath.parent_of_parent? hdir).2]
    exact .inr hconfig

/-- From an absolute working directory, build files are never looked for in vain: each has one
normal form. -/
theorem file_anchored (current : List String) (configPath workingDir : String)
    (hdir : isAbsolute workingDir = true) : Anchored current configPath workingDir where
  directory _ := FilePath.parent_of_parent?
  orphan := FilePath.parent?_eq_none_iff
  answered declared given := exists_resolve hdir current declared configPath given
  declared name := ⟨_, FilePath.isNormalForm_clean_join_join _ _ _,
    fun given => resolve_declared name given hdir⟩
  settled name given workingDir' hdir' h := by
    have habsolute := join_directoryOf_of_isAbsolute h
    rw [resolve_declared name given hdir', resolve_declared name given hdir,
      FilePath.join_of_isAbsolute habsolute, FilePath.join_of_isAbsolute habsolute]
  given name hname := ⟨_, FilePath.isNormalForm_clean_join _ _, resolve_given hname hdir⟩
  unnamed := ⟨rfl, rfl⟩
  plain declared given file h := by
    rw [← clean_of_resolve hdir h]
    exact isPlain_clean file

example :
    (resolve [] (some "../docker/./Dockerfile") "conf/../deploy/app.yaml" (some "Dockerfile")
      "/srv//web/.").toOption = some (some "/srv/web/docker/Dockerfile") := by
  decide +kernel

theorem example_anchored :
    isAbsolute "/srv//web/." = true ∧ Anchored [] "conf/../deploy/app.yaml" "/srv//web/." :=
  ⟨by decide, file_anchored [] "conf/../deploy/app.yaml" "/srv//web/." (by decide)⟩

end AppDeploy.BuildFile
