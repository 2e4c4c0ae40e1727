import AppDeploy.Proofs.Assignment.Spelling
import AppDeploy.Proofs.Config.Settled
import AppDeploy.Proofs.Deploy.Course
import AppDeploy.Proofs.Image.BuildFile

/-!
# What a builder of images is asked for

One thing is asked for the image of a deploy (`ImageAsked`). An image that is named is looked for,
and then it does not matter what is said about building one. Otherwise an image is built, under a
heartbeat that lasts exactly as long as the build, with what the config and the user say together
(`Assembled`); nothing is asked if the user's assignments cannot be read.
-/

namespace AppDeploy.Deploy

open AppConfig (present_eq_none)
open Assignment (FirstFault last?)

variable {console : Console} {files : Files} {o : DeployOptions} {c : AppConfig}
  {calls : List (Exchange Deploy)} {found : Except BuildError DeploymentImage}

/-! ## What is asked -/

/-- An image is named: by the user, or else in the config. An empty name is none. -/
inductive Names (o : DeployOptions) (c : AppConfig) : String → Prop where
  | given {reference : String} (h : o.image = some reference) (hne : reference ≠ "") :
      Names o c reference
  | declared {build : BuildConfig} {reference : String} (hnone : o.image = none ∨ o.image = some "")
      (hbuild : c.build = some build) (h : build.image = some reference) (hne : reference ≠ "") :
      Names o c reference

/-- Some texts are all assignments. -/
def AreAssignments (texts : List String) : Prop :=
  ∃ assignments, List.Forall₂ Assignment.Spells texts assignments

/-- What to ask for an image that is to be built. The user's arguments are laid over those of the
config, and all secrets are the user's; of a target and of a file, the one in the config comes
first. -/
structure Assembled (files : Files) (o : DeployOptions) (c : AppConfig) (r : BuildRequest) :
    Prop where
  app : r.app = o.app
  workingDir : r.workingDir = o.workingDir
  publish : r.publish = true ↔ o.build.push = true ∨ o.buildOnly = false
  label : r.label = present o.imageLabel
  noCache : r.noCache = o.build.noCache
  builtin : r.builtin = present (c.build.getD {}).builtin
  builtinSettings : r.builtinSettings = (c.build.getD {}).settings
  builder : r.builder = present (c.build.getD {}).builder
  buildpacks : r.buildpacks = (c.build.getD {}).buildpacks
  /-- The last assignment of the user to a name counts, or else the argument of the config. -/
  args : ∃ assignments, List.Forall₂ Assignment.Spells o.build.args assignments ∧
    ∀ name, r.args.get? name = (last? name assignments).or ((c.build.getD {}).args.get? name)
  secrets : ∃ assignments, List.Forall₂ Assignment.Spells o.build.secrets assignments ∧
    ∀ name, r.secrets.get? name = last? name assignments
  dockerfile : BuildFile.resolve files.current c.dockerfile c.path o.build.dockerfile
    o.workingDir = .ok r.dockerfile
  ignorefile : BuildFile.resolve files.current c.ignorefile c.path o.build.ignorefile
    o.workingDir = .ok r.ignorefile
  target : r.target = (present (c.build.getD {}).buildTarget <|> present o.build.target)

/-- What is asked for the image of a deploy, and what comes of it. -/
inductive ImageAsked (files : Files) (o : DeployOptions) (c : AppConfig) :
    List (Exchange Deploy) → Except BuildError DeploymentImage → Prop where
  /-- An image that is named is looked for, to be published if it is to be deployed. -/
  | named {reference : String} (h : Names o c reference) {r : ReferenceRequest}
      (hr : r = {
        app := o.app
        workingDir := o.workingDir
        publish := !o.buildOnly
        reference := reference
        label := present o.imageLabel })
      (answer : Except BuildError (Option DeploymentImage)) :
      ImageAsked files o c [⟨.findImage r, answer⟩] (requireImage answer)
  | secrets (hnone : ∀ reference, ¬Names o c reference) {fault : Assignment.Error}
      (hfault : FirstFault o.build.secrets fault) :
      ImageAsked files o c [] (.error (.secrets fault))
  | args (hnone : ∀ reference, ¬Names o c reference) (hsecrets : AreAssignments o.build.secrets)
      {fault : Assignment.Error} (hfault : FirstFault o.build.args fault) :
      ImageAsked files o c [] (.error (.args fault))
  /-- The heartbeat starts before the build, and is released once after it, whatever has come of
  the build. -/
  | built (hnone : ∀ reference, ¬Names o c reference) {r : BuildRequest}
      (hr : Assembled files o c r) (answer : Except BuildError (Option DeploymentImage)) :
      ImageAsked files o c
        [⟨.startHeartbeat, ()⟩, ⟨.buildImage r, answer⟩, ⟨.releaseHeartbeat, ()⟩]
        (requireImage answer)

/-! ## Named images -/

theorem present_eq_some {value : Option String} {text : String} :
    present value = some text ↔ value = some text ∧ text ≠ "" := by
  simp [present, Option.filter_eq_some_iff]

theorem namedImage_eq_some {reference : String} :
    namedImage o c = some reference ↔ Names o c reference := by
  rw [namedImage, DeployOptions.wantedImage, AppConfig.buildImage, Option.orElse_eq_orElse,
    Option.orElse_eq_or, Option.or_eq_some_iff, present_eq_none, Option.bind_eq_some_iff]
  simp only [present_eq_some]
  constructor
  · rintro (⟨h, hne⟩ | ⟨hnone, build, hbuild, h, hne⟩)
    · exact .given h hne
    · exact .declared hnone hbuild h hne
  · intro h
    cases h with
    | given h hne => exact .inl ⟨h, hne⟩
    | declared hnone hbuild h hne => exact .inr ⟨hnone, _, hbuild, h, hne⟩

/-- What is said about building an image does not matter if one is named. -/
theorem obtainImage_of_named {reference : String} (h : namedImage o c = some reference)
    (args secrets : List String) :
    obtainImage console files { o with build := { o.build with args, secrets } } c =
      obtainImage console files o c := by
  have hnamed : namedImage { o with build := { o.build with args, secrets } } c =
    some reference := h
  rw [obtainImage, obtainImage, h, hnamed]
  rfl

/-! ## Images that are built -/

theorem assembled_of_buildRequest {r : BuildRequest} (h : buildRequest files o c = .ok r) :
    Assembled files o c r := by
  simp only [buildRequest, mergeBuildArgs, bind_eq_ok, mapError_eq_ok, map_eq_ok, pure, Except.pure,
    Except.ok.injEq] at h
  obtain ⟨secrets, hsecrets, _, ⟨args, hargs, rfl⟩, dockerfile, hdockerfile, ignorefile,
    hignorefile, rfl⟩ := h
  obtain ⟨assigned, hassigned, hget⟩ := Assignment.readAll_eq_ok.1 hargs
  exact {
    app := rfl
    workingDir := rfl
    publish := by simp
    label := rfl
    noCache := rfl
    builtin := rfl
    builtinSettings := rfl
    builder := rfl
    buildpacks := rfl
    args := ⟨assigned, hassigned, fun name => by rw [Table.get?_overlay, hget]⟩
    secrets := Assignment.readAll_eq_ok.1 hsecrets
    dockerfile := hdockerfile
    ignorefile := hignorefile
    target := by cases h : c.build <;> simp [AppConfig.buildTarget, h, present] }

/-- From an absolute working directory, only assignments that cannot be read keep an image from
being asked for; those of secrets are read first. -/
theorem fault_of_buildRequest {e : BuildError} (hdir : FilePath.isAbsolute o.workingDir = true)
    (h : buildRequest files o c = .error e) :
    (∃ fault, FirstFault o.build.secrets fault ∧ e = .secrets fault) ∨
      AreAssignments o.build.secrets ∧
        ∃ fault, FirstFault o.build.args fault ∧ e = .args fault := by
  simp only [← Assignment.readAll_eq_error]
  obtain ⟨file, hdockerfile⟩ := BuildFile.exists_resolve hdir files.current c.dockerfile c.path
    o.build.dockerfile
  obtain ⟨other, hignorefile⟩ := BuildFile.exists_resolve hdir files.current c.ignorefile c.path
    o.build.ignorefile
  cases hsecrets : Assignment.readAll o.build.secrets with
  | error fault =>
    simp only [buildRequest, hsecrets] at h
    cases h
    exact .inl ⟨fault, rfl, rfl⟩
  | ok secrets =>
    obtain ⟨assignments, hspells, -⟩ := Assignment.readAll_eq_ok.1 hsecrets
    cases hargs : Assignment.readAll o.build.args with
    | error fault =>
      simp only [buildRequest, mergeBuildArgs, hsecrets, hargs] at h
      cases h
      exact .inr ⟨⟨assignments, hspells⟩, fault, rfl, rfl⟩
    | ok args =>
      rw [buildRequest, dockerfile, hsecrets, mergeBuildArgs, hargs, hdockerfile, hignorefile] at h
      cases h

theorem imageAsked_of_obtained (hdir : FilePath.isAbsolute o.workingDir = true)
    (h : Obtained files o c calls found) : ImageAsked files o c calls found := by
  have hnone : namedImage o c = none → ∀ reference, ¬Names o c reference := by
    intro hnamed reference hnames
    rw [namedImage_eq_some.2 hnames] at hnamed
    cases hnamed
  cases h with
  | named hnamed answer => exact .named (namedImage_eq_some.1 hnamed) rfl answer
  | unassembled hnamed he =>
    rcases fault_of_buildRequest hdir he with ⟨fault, hfault, rfl⟩ | ⟨hread, fault, hfault, rfl⟩
    · exact .secrets (hnone hnamed) hfault
    · exact .args (hnone hnamed) hread hfault
  | built hnamed hr answer => exact .built (hnone hnamed) (assembled_of_buildRequest hr) answer

/-! ## In a world -/

/-- In every world one thing is asked for the image of a deploy from an absolute working directory,
or nothing if the user's assignments cannot be read. If an image is named, then nothing that the
user says about arguments and secrets of a build makes a difference to the run. -/
theorem image_is_asked_rightly {ω : Type} (w : World Deploy ω) (state : ω) (console : Console)
    (files : Files) (o : DeployOptions) (c : AppConfig)
    (hdir : FilePath.isAbsolute o.workingDir = true) :
    ImageAsked files o c (exchanges (Plan.run w (obtainImage console files o c).run state).1)
        (Plan.run w (obtainImage console files o c).run state).2.1 ∧
      ((∃ reference, Names o c reference) → ∀ args secrets,
        Plan.run w (obtainImage console files
            { o with build := { o.build with args, secrets } } c).run state =
          Plan.run w (obtainImage console files o c).run state) := by
  refine ⟨imageAsked_of_obtained hdir (runs_obtainImage.1 (Plan.runs_run w _ state)), ?_⟩
  rintro ⟨reference, hnames⟩ args secrets
  rw [obtainImage_of_named (namedImage_eq_some.2 hnames)]

namespace Example

/-- A deploy that builds its image with arguments of its own. -/
def buildingOptions : DeployOptions where
  app := app.name
  workingDir := "/srv/web"
  image := some ""
  build := { args := ["MODE=slow", " MODE =fast"], secrets := ["TOKEN=a=b"], target := some "" }

def buildingConfig : AppConfig where
  build := some { args := .ofList [("MODE", "idle"), ("LEVEL", "2")], dockerfile := some "d/File" }
  path := "/etc/web/app.yaml"

example :
    (buildRequest (.ofList [] []) buildingOptions buildingConfig).toOption.map
        (fun r => (r.args.entries, r.secrets.entries, r.dockerfile, r.target)) =
      some ([("LEVEL", "2"), ("MODE", "fast")], [("TOKEN", "a=b")], some "/etc/web/d/File",
        none) := by
  decide +kernel

/-- The same deploy with an image that is named, so that nothing is built. -/
def namedOptions : DeployOptions :=
  { buildingOptions with image := some "nginx:1" }

end Example

theorem example_asked_rightly :
    FilePath.isAbsolute Example.buildingOptions.workingDir = true ∧
      ImageAsked (.ofList [] []) Example.buildingOptions Example.buildingConfig
        (exchanges (Plan.run (Example.world (.ok ())) (obtainImage ⟨.quiet⟩ (.ofList [] [])
          Example.buildingOptions Example.buildingConfig).run ()).1)
        (Plan.run (Example.world (.ok ())) (obtainImage ⟨.quiet⟩ (.ofList [] [])
          Example.buildingOptions Example.buildingConfig).run ()).2.1 ∧
      (∃ reference, Names Example.namedOptions Example.buildingConfig reference) ∧
      ∀ args secrets,
        Plan.run (Example.world (.ok ())) (obtainImage ⟨.quiet⟩ (.ofList [] [])
            { Example.namedOptions with build := { Example.namedOptions.build with args, secrets } }
            Example.buildingConfig).run () =
          Plan.run (Example.world (.ok ())) (obtainImage ⟨.quiet⟩ (.ofList [] [])
            Example.namedOptions Example.buildingConfig).run () := by
  have hnames : ∃ reference, Names Example.namedOptions Example.buildingConfig reference :=
    ⟨"nginx:1", .given rfl (by decide)⟩
  refine ⟨by decide, ?_, hnames, ?_⟩
  · exact (image_is_asked_rightly (Example.world (.ok ())) () ⟨.quiet⟩ (.ofList [] [])
      Example.buildingOptions Example.buildingConfig (by decide)).1
  · exact (image_is_asked_rightly (Example.world (.ok ())) () ⟨.quiet⟩ (.ofList [] [])
      Example.namedOptions Example.buildingConfig (by decide)).2 hnames

end AppDeploy.Deploy
