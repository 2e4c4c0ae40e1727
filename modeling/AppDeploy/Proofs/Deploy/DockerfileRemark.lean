import AppDeploy.Proofs.Deploy.IgnoredDockerfile
import AppDeploy.Proofs.Image.Anchoring

/-!
# When a Dockerfile is said to be ignored

A directory offers one Dockerfile at most (`Offers`). It is passed over if the config declares how
to build, and no path that names the Dockerfile to build with leads to it (`PassedOver`). Just then
a deploy remarks on it, once, and by its normal form; how a path is spelled makes no difference
(`remarked_iff_passedOver`).
-/

namespace AppDeploy.Deploy

open BuildFile (Named)
open FilePath (IsNormalForm clean isAbsolute join)

variable {files : Files} {o : DeployOptions} {c : AppConfig} {ω : Type}

/-- The Dockerfile that a directory offers: the first of its two names that is a file's. -/
inductive Offers (files : Files) (dir : String) : String → Prop where
  | capital (h : files.isFile (join dir "Dockerfile") = true) : Offers files dir "Dockerfile"
  | small (hnone : files.isFile (join dir "Dockerfile") = false)
      (h : files.isFile (join dir "dockerfile") = true) : Offers files dir "dockerfile"

/-- A config declares how its image is built. Empty texts declare nothing. -/
def DeclaresBuild (c : AppConfig) : Prop :=
  ∃ build, c.build = some build ∧ (build.buildpacks ≠ [] ∨ ∃ text, text ≠ "" ∧
    some text ∈ [build.image, build.builder, build.dockerfile, build.buildTarget, build.builtin])

/-- A Dockerfile of the working directory is not the one to build with, although the config
declares how to build; the path is its normal form. -/
structure PassedOver (files : Files) (o : DeployOptions) (c : AppConfig) (path : String) :
    Prop where
  offered : ∃ name, Offers files o.workingDir name ∧ IsNormalForm [o.workingDir, name] path
  declared : DeclaresBuild c
  unnamed : ∀ paths, Named c.path c.dockerfile o.build.dockerfile paths →
    ¬IsNormalForm (o.workingDir :: paths) path

theorem offers_unique {dir name name' : String} (h : Offers files dir name)
    (h' : Offers files dir name') : name = name' := by
  cases h with
  | capital h =>
    cases h' with
    | capital => rfl
    | small hnone => simp [h] at hnone
  | small hnone =>
    cases h' with
    | capital h => simp [h] at hnone
    | small => rfl

theorem discover_eq_some_iff {dir found : String} :
    BuildFile.discover files dir = some found ↔
      ∃ name, Offers files dir name ∧ found = join dir name := by
  rw [BuildFile.discover, BuildFile.dockerfileNames, List.map_cons, List.map_cons, List.map_nil]
  constructor
  · intro h
    cases hcapital : files.isFile (join dir "Dockerfile") with
    | true =>
      rw [List.find?_cons_of_pos hcapital] at h
      exact ⟨_, .capital hcapital, (Option.some.inj h).symm⟩
    | false =>
      rw [List.find?_cons_of_neg (by simp [hcapital])] at h
      cases hsmall : files.isFile (join dir "dockerfile") with
      | true =>
        rw [List.find?_cons_of_pos hsmall] at h
        exact ⟨_, .small hcapital hsmall, (Option.some.inj h).symm⟩
      | false => simp [hsmall] at h
  · rintro ⟨name, hoffers, rfl⟩
    cases hoffers with
    | capital h => exact List.find?_cons_of_pos h
    | small hnone h =>
      rw [List.find?_cons_of_neg (by simp [hnone])]
      exact List.find?_cons_of_pos h

/-- Some texts are all as good as none. -/
theorem forall_present_eq_none_iff {values : List (Option String)} :
    (∀ value ∈ values, present value = none) ↔ ¬∃ text, text ≠ "" ∧ some text ∈ values := by
  constructor
  · rintro h ⟨text, hne, hmem⟩
    rcases AppConfig.present_eq_none.1 (h _ hmem) with hnone | hempty
    · cases hnone
    · exact hne (Option.some.inj hempty)
  · intro h value hmem
    cases value with
    | none => rfl
    | some text =>
      by_contra hne
      exact h ⟨text, fun hempty => hne (by rw [hempty]; rfl), hmem⟩

theorem strategies_eq_nil_iff {build : BuildConfig} :
    build.strategies = [] ↔ build.buildpacks = [] ∧
      ∀ value ∈ [build.image, build.builder, build.dockerfile, build.buildTarget, build.builtin],
        present value = none := by
  rw [BuildConfig.strategies]
  simp only [List.append_eq_nil_iff, List.forall_mem_cons, List.not_mem_nil, false_implies,
    implies_true, and_true]
  cases present build.image <;> cases present build.builtin <;> simp [and_assoc, and_comm]

theorem buildStrategies_ne_nil_iff : c.buildStrategies ≠ [] ↔ DeclaresBuild c := by
  rw [AppConfig.buildStrategies, DeclaresBuild]
  cases c.build with
  | none => simp
  | some build =>
    rw [Option.map_some, Option.getD_some, Ne, strategies_eq_nil_iff, forall_present_eq_none_iff,
      not_and_or, not_not]
    simp

theorem dockerfile_eq_ok_some_iff {path : String} (hdir : isAbsolute o.workingDir = true) :
    dockerfile files o c = .ok (some path) ↔
      ∃ paths, Named c.path c.dockerfile o.build.dockerfile paths ∧
        IsNormalForm (o.workingDir :: paths) path :=
  BuildFile.resolve_eq_ok_some_iff hdir

theorem ignoredDockerfile?_eq_some_iff_offered {path : String}
    (hdir : isAbsolute o.workingDir = true) :
    ignoredDockerfile? files o c = some path ↔
      (∃ name, Offers files o.workingDir name ∧ IsNormalForm [o.workingDir, name] path) ∧
        ∀ paths, Named c.path c.dockerfile o.build.dockerfile paths →
          ¬IsNormalForm (o.workingDir :: paths) path := by
  rw [ignoredDockerfile?_eq_some_iff hdir, Ne, dockerfile_eq_ok_some_iff hdir, not_exists]
  simp only [not_and, discover_eq_some_iff]
  constructor
  · rintro ⟨_, ⟨name, hoffers, rfl⟩, rfl, hother⟩
    exact ⟨⟨name, hoffers, FilePath.isNormalForm_clean_join _ _⟩, hother⟩
  · rintro ⟨⟨name, hoffers, hpath⟩, hother⟩
    exact ⟨_, ⟨name, hoffers, rfl⟩,
      FilePath.isNormalForm_unique (FilePath.isNormalForm_clean_join _ _) hpath, hother⟩

theorem dockerfileAdvisory?_eq_some_iff {a : Advisory} (hdir : isAbsolute o.workingDir = true) :
    dockerfileAdvisory? files o c = some a ↔
      ∃ path, PassedOver files o c path ∧ a = .ofIgnoredDockerfile path := by
  rw [dockerfileAdvisory?, Option.ite_none_left_eq_some, List.isEmpty_iff,
    ← Ne.eq_def, buildStrategies_ne_nil_iff, Option.map_eq_some_iff]
  simp only [ignoredDockerfile?_eq_some_iff_offered hdir]
  constructor
  · rintro ⟨hdeclared, path, ⟨hoffered, hunnamed⟩, rfl⟩
    exact ⟨path, ⟨hoffered, hdeclared, hunnamed⟩, rfl⟩
  · rintro ⟨path, ⟨hoffered, hdeclared, hunnamed⟩, rfl⟩
    exact ⟨hdeclared, path, ⟨hoffered, hunnamed⟩, rfl⟩

/-- In every world, a Dockerfile that a deploy from an absolute working directory passes over is
what it remarks on, once, and it makes no other remark about its image. The named path is the one
that an image is built with; if it leads to the Dockerfile of the directory by any spelling, then
there is nothing to remark on. -/
theorem remarked_iff_passedOver (w : World Deploy ω) (state : ω) (console : Console)
    (files : Files) (o : DeployOptions) (c : AppConfig)
    (hdir : isAbsolute o.workingDir = true) :
    (∀ path, remarks (Plan.run w (obtainImage console files o c).run state).1 =
        [.ofIgnoredDockerfile path] ↔ PassedOver files o c path) ∧
      ((∀ path, ¬PassedOver files o c path) →
        remarks (Plan.run w (obtainImage console files o c).run state).1 = []) ∧
      (∀ r answer, ⟨.buildImage r, answer⟩ ∈
          exchanges (Plan.run w (obtainImage console files o c).run state).1 →
        ∀ path, r.dockerfile = some path ↔
          ∃ paths, Named c.path c.dockerfile o.build.dockerfile paths ∧
            IsNormalForm (o.workingDir :: paths) path) ∧
      ∀ name paths path, Offers files o.workingDir name →
        Named c.path c.dockerfile o.build.dockerfile paths →
        IsNormalForm [o.workingDir, name] path → IsNormalForm (o.workingDir :: paths) path →
          remarks (Plan.run w (obtainImage console files o c).run state).1 = [] := by
  rw [remarks_obtainImage]
  have hnone (h : ∀ path, ¬PassedOver files o c path) : dockerfileAdvisory? files o c = none := by
    rw [Option.eq_none_iff_forall_ne_some]
    intro a ha
    obtain ⟨path, hpath, -⟩ := (dockerfileAdvisory?_eq_some_iff hdir).1 ha
    exact h path hpath
  refine ⟨?_, ?_, ?_, ?_⟩
  · intro path
    rw [Option.toList_eq_singleton_iff, dockerfileAdvisory?_eq_some_iff hdir]
    constructor
    · rintro ⟨path', hpath', hsame⟩
      exact eq_of_ofIgnoredDockerfile hsame ▸ hpath'
    · intro hpath
      exact ⟨path, hpath, rfl⟩
  · intro h
    rw [hnone h, Option.toList_none]
  · intro r answer hbuild path
    have hobtained := runs_obtainImage.1 (Plan.runs_run w (obtainImage console files o c).run state)
    have hr := (assembled_of_buildRequest (buildRequest_of_obtained hobtained hbuild)).dockerfile
    rw [← @dockerfile_eq_ok_some_iff files o c path hdir, dockerfile, hr, Except.ok.injEq]
  · intro name paths path hoffers hnamed hoffered hpath
    rw [hnone, Option.toList_none]
    rintro other ⟨⟨name', hoffers', hother⟩, -, hunnamed⟩
    -- A directory offers one Dockerfile, and that has one normal form.
    obtain rfl := offers_unique hoffers hoffers'
    exact hunnamed paths hnamed (FilePath.isNormalForm_unique hoffered hother ▸ hpath)

namespace Example

/-- Options that name the Dockerfile of the working directory by a detour. -/
def detourOptions : DeployOptions :=
  { buildOptions with build := { dockerfile := some "./..//web/./Dockerfile" } }

example :
    remarks (Plan.run (world (.ok ()))
      (obtainImage ⟨.quiet⟩ dockerFiles detourOptions builderConfig).run ()).1 = [] := by
  decide +kernel

end Example

theorem example_remarked :
    isAbsolute Example.buildOptions.workingDir = true ∧
      PassedOver Example.dockerFiles Example.buildOptions Example.builderConfig
        "/srv/web/Dockerfile" :=
  ⟨by decide, ((remarked_iff_passedOver (Example.world (.ok ())) () ⟨.quiet⟩ Example.dockerFiles
    Example.buildOptions Example.builderConfig (by decide)).1 "/srv/web/Dockerfile").1
      (by decide +kernel)⟩

end AppDeploy.Deploy
