import AppDeploy.Proofs.Deploy.ImageRequest
import AppDeploy.Proofs.Plan.Notes

/-!
# Dockerfiles that are said to be ignored

When a config declares how to build an image, a Dockerfile of the working directory that is not
the named one is said to be ignored. The builder of the image looks for a Dockerfile again if
none is named, and then takes just that one. So what is said holds exactly if a Dockerfile is
named, or if a builtin keeps anything from being built (`ignored_dockerfile_is_used_iff`).
-/

namespace AppDeploy.Deploy

variable {console : Console} {files : Files} {o : DeployOptions} {c : AppConfig} {ω ω' : Type}

/-! ## What is remarked -/

theorem remarks_announceImage (w : World Deploy ω) (found : Option DeploymentImage) (state : ω) :
    remarks (Plan.run w (announceImage console found).run state).1 = [] := by
  cases found with
  | none => rfl
  | some image =>
    rw [announceImage, Task.remarks_print_bind, Task.remarks_print_bind]
    rfl

/-- The one remark that is made about an image is that a Dockerfile is ignored. -/
theorem remarks_obtainImage (w : World Deploy ω) (state : ω) :
    remarks (Plan.run w (obtainImage console files o c).run state).1 =
      (dockerfileAdvisory? files o c).toList := by
  have hreport : ((dockerfileAdvisory? files o c).toList.flatMap
      (Advisory.report console)).filterMap Note.advisory? =
        (dockerfileAdvisory? files o c).toList := by
    cases dockerfileAdvisory? files o c with
    | none => rfl
    | some a => rw [Option.toList_some, List.flatMap_singleton, remarks_report]
  rw [obtainImage, Task.remarks_print_bind, Task.remarks_notes_bind, hreport]
  -- Nothing is remarked while an image is asked for and announced.
  refine List.append_right_eq_self.2 ?_
  cases namedImage o c with
  | some reference => exact Task.remarks_attempt_bind w state _ (remarks_announceImage w)
  | none =>
    cases hr : buildRequest files o c with
    | error e => rfl
    | ok r => exact Task.remarks_attempt_bind w state (buildAlive r) (remarks_announceImage w)

theorem eq_of_ofIgnoredDockerfile {path path' : String}
    (h : Advisory.ofIgnoredDockerfile path = .ofIgnoredDockerfile path') : path = path' := by
  have hmessage := congrArg (fun a => a.message.toList) h
  simpa [Advisory.ofIgnoredDockerfile, toString, String.toList_inj] using hmessage

/-- The Dockerfile that is said to be ignored is the one of the working directory, and not the
one that is named. -/
theorem ignoredDockerfile?_eq_some_iff {path : String}
    (hdir : FilePath.isAbsolute o.workingDir = true) :
    ignoredDockerfile? files o c = some path ↔
      ∃ found, BuildFile.discover files o.workingDir = some found ∧ FilePath.clean found = path ∧
        dockerfile files o c ≠ .ok (some path) := by
  cases hfound : BuildFile.discover files o.workingDir with
  | none => simp [ignoredDockerfile?, hfound]
  | some found =>
    obtain ⟨name, rfl⟩ := BuildFile.exists_join_of_discover hfound
    simp only [ignoredDockerfile?, hfound, BuildFile.absolute_of_isAbsolute files.current _ hdir,
      FilePath.join_of_isAbsolute (FilePath.isAbsolute_join name hdir), bind, Option.bind,
      Option.ite_none_left_eq_some, Option.some.injEq, exists_eq_left']
    rw [and_comm]
    refine and_congr_right ?_
    rintro rfl
    cases dockerfile files o c <;> simp

theorem buildRequest_of_obtained {calls : List (Exchange Deploy)}
    {found : Except BuildError DeploymentImage} {r : BuildRequest}
    {answer : Except BuildError (Option DeploymentImage)} (h : Obtained files o c calls found)
    (hbuild : ⟨.buildImage r, answer⟩ ∈ calls) : buildRequest files o c = .ok r := by
  cases h with
  | named => cases List.mem_singleton.1 hbuild
  | unassembled => cases hbuild
  | built _ hr =>
    simp only [List.mem_cons, List.not_mem_nil, or_false] at hbuild
    rcases hbuild with hbuild | hbuild | hbuild
    · cases hbuild
    · cases hbuild
      exact hr
    · cases hbuild

/-! ## What is built with -/

/-- A Dockerfile that is said to be ignored is the one that the builder chooses exactly if none
is named. -/
theorem chosenFile?_of_ignored {path : String} {r : BuildRequest}
    (hdir : FilePath.isAbsolute o.workingDir = true)
    (hignored : ignoredDockerfile? files o c = some path)
    (hr : buildRequest files o c = .ok r) :
    (∃ file ∈ (ImageBuilder.chosenFile? files r).toList,
      FilePath.clean file = FilePath.clean path) ↔ r.dockerfile = none := by
  obtain ⟨found, hfound, rfl, hother⟩ := (ignoredDockerfile?_eq_some_iff hdir).1 hignored
  have hnamed : dockerfile files o c = .ok r.dockerfile := (assembled_of_buildRequest hr).dockerfile
  have hworking := (assembled_of_buildRequest hr).workingDir
  rw [FilePath.clean_clean, ImageBuilder.chosenFile?, hworking, hfound]
  cases hfile : r.dockerfile with
  | none => simp
  | some file =>
    rw [hfile] at hnamed
    have hclean := BuildFile.clean_of_resolve hdir hnamed
    have hne : FilePath.clean file ≠ FilePath.clean found := by
      intro hsame
      rw [← hsame, hclean] at hother
      exact hother hnamed
    simp [hne]

/-- In every world, a Dockerfile that is said to be ignored while an image is built is the one
that it is built with exactly if no Dockerfile is named, and there is no builtin. -/
theorem ignored_dockerfile_is_used_iff (w : World Deploy ω) (w' : World Outside ω') (state : ω)
    (state' : ω') (console : Console) (files : Files) (o : DeployOptions) (c : AppConfig)
    (b : ImageBuilder) (path : String) (r : BuildRequest)
    (answer : Except BuildError (Option DeploymentImage))
    (hdir : FilePath.isAbsolute o.workingDir = true)
    (hremark : .ofIgnoredDockerfile path ∈
      remarks (Plan.run w (obtainImage console files o c).run state).1)
    (hbuild : ⟨.buildImage r, answer⟩ ∈
      exchanges (Plan.run w (obtainImage console files o c).run state).1) :
    (∃ file ∈ ImageBuilder.buildFilesIn
        (exchanges (Plan.run w' (b.build files r).run state').1),
      FilePath.clean file = FilePath.clean path) ↔ r.dockerfile = none ∧ r.builtin = none := by
  have hobtained := runs_obtainImage.1 (Plan.runs_run w (obtainImage console files o c).run state)
  have hbuilt := ImageBuilder.runs_build.1 (Plan.runs_run w' (b.build files r).run state')
  rw [ImageBuilder.buildFilesIn_of_built hbuilt]
  have hignored : ignoredDockerfile? files o c = some path := by
    rw [remarks_obtainImage, Option.mem_toList, dockerfileAdvisory?] at hremark
    split at hremark
    case isTrue => cases hremark
    case isFalse =>
      obtain ⟨path', hpath, hsame⟩ := Option.map_eq_some_iff.1 hremark
      rw [hpath, eq_of_ofIgnoredDockerfile hsame]
  have hr := buildRequest_of_obtained hobtained hbuild
  cases hbuiltin : r.builtin with
  | some builtin => simp
  | none =>
    rw [if_pos rfl, chosenFile?_of_ignored hdir hignored hr]
    simp

/-! ### A builder that is passed over -/

namespace Example

/-- A working directory with a Dockerfile. -/
def dockerFiles : Files :=
  .ofList [(["srv", "web", "Dockerfile"], .file .empty)] []

/-- A config that names a builder. -/
def builderConfig : AppConfig :=
  { base with build := some { builder := some "paketo" } }

def buildOptions : DeployOptions :=
  { options with image := none, imageLabel := some "v1" }

def builder : ImageBuilder where
  daemon := .here
  registry := "registry"
  nixpacks := false

/-- A world in which every program ends well, and no service can be reached. -/
def programs : World Outside Unit where
  answer q state := (match q with
    | .now => ⟨0, 0, 0⟩
    | .wait _ => ()
    | .send _ => ⟨.error .unreachable, .zero⟩
    | .findDaemon => .ok ()
    | .inspect _ _ => .error .unreachable
    | .pull _ _ => .error .unreachable
    | .run _ _ => .ok (.code 0), state)

/-- What is asked of the builder. -/
def builderRequest : BuildRequest where
  app := app.name
  workingDir := "/srv/web"
  publish := true
  label := some "v1"
  builder := some "paketo"

theorem ignored_builderConfig :
    .ofIgnoredDockerfile "/srv/web/Dockerfile" ∈ remarks (Plan.run (world (.ok ()))
      (obtainImage ⟨.quiet⟩ dockerFiles buildOptions builderConfig).run ()).1 := by
  decide +kernel

theorem asked_builderConfig :
    (⟨.buildImage builderRequest, .ok (some image)⟩ : Exchange Deploy) ∈
      exchanges (Plan.run (world (.ok ()))
        (obtainImage ⟨.quiet⟩ dockerFiles buildOptions builderConfig).run ()).1 :=
  .tail _ (.head _)

theorem built_builderRequest :
    "/srv/web/Dockerfile" ∈ ImageBuilder.buildFilesIn
      (exchanges (Plan.run programs (builder.build dockerFiles builderRequest).run ()).1) := by
  decide +kernel

end Example

theorem example_builder_passed_over :
    (∃ file ∈ ImageBuilder.buildFilesIn (exchanges
        (Plan.run Example.programs
          (Example.builder.build Example.dockerFiles Example.builderRequest).run ()).1),
      FilePath.clean file = FilePath.clean "/srv/web/Dockerfile") ↔
    Example.builderRequest.dockerfile = none ∧ Example.builderRequest.builtin = none :=
  ignored_dockerfile_is_used_iff (Example.world (.ok ())) Example.programs () () ⟨.quiet⟩
    Example.dockerFiles Example.buildOptions Example.builderConfig Example.builder
    "/srv/web/Dockerfile" Example.builderRequest (.ok (some Example.image)) (by decide +kernel)
    Example.ignored_builderConfig Example.asked_builderConfig

/-- A Dockerfile is said to be ignored for the sake of a builder, and yet it is built with. -/
theorem built_with_ignored_dockerfile :
    ¬∀ (w : World Deploy Unit) (w' : World Outside Unit) (state state' : Unit) (console : Console)
      (files : Files) (o : DeployOptions) (c : AppConfig) (b : ImageBuilder) (path : String)
      (r : BuildRequest) (answer : Except BuildError (Option DeploymentImage)),
      FilePath.isAbsolute o.workingDir = true →
      .ofIgnoredDockerfile path ∈
        remarks (Plan.run w (obtainImage console files o c).run state).1 →
      ⟨.buildImage r, answer⟩ ∈
        exchanges (Plan.run w (obtainImage console files o c).run state).1 →
      ∀ file ∈ ImageBuilder.buildFilesIn
          (exchanges (Plan.run w' (b.build files r).run state').1),
        FilePath.clean file ≠ FilePath.clean path := by
  intro hall
  exact hall _ _ _ _ _ _ _ _ _ _ _ _ (by decide +kernel) Example.ignored_builderConfig
    Example.asked_builderConfig _ Example.built_builderRequest rfl

end AppDeploy.Deploy
