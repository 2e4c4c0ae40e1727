import AppDeploy.Proofs.Deploy.Stages

/-!
# The course of a deploy, run by run

`Course` puts the stages of a deploy together: each of its constructors is one stage that a
deploy can come to, and `runs_run` says that these are its runs. In a world a deploy makes
some calls and has an outcome (`callsIn`, `outcomeIn`), and both follow its course
(`course_of_run`).
-/

namespace AppDeploy.Deploy

variable {console : Console} {files : Files} {o : DeployOptions}
  {c : AppConfig} {localConfig : Option AppConfig} {trace : List (Exchange Deploy)}

/-! ## Up to the platform -/

/-- A run that has the config it deploys and knows the app and its platform. -/
structure Resolved (o : DeployOptions) (localConfig : Option AppConfig)
    (trace : List (Exchange Deploy)) (config : AppConfig) (app : AppSummary)
    (platform : Platform) : Prop where
  intro ::
  exchanges : ∃ start base answer, Started o.app localConfig start (.ok base) ∧
    settle o base = .ok config ∧
    trace = start ++
      [⟨.summary o.app, .ok app⟩, ⟨.machinesDefault app.organization.slug, answer⟩] ∧
    platform = .select app o.forceReleases o.forceMachines (saysMachines answer)

/-! ## From the image on -/

/-- How an image is handed to a platform. -/
inductive Dispatched (o : DeployOptions) (c : AppConfig) (app : AppSummary)
    (image : DeploymentImage) :
    Platform → List (Exchange Deploy) → Except DeployError Unit → Prop where
  | machines {trace : List (Exchange Deploy)} {result : Except DeployError Unit}
      (h : RolledOut o c app image trace result) : Dispatched o c app image .machines trace result
  | releases {trace : List (Exchange Deploy)} {result : Except DeployError Unit}
      (h : Released o c image trace result) : Dispatched o c app image .releases trace result

theorem runs_dispatch {app : AppSummary} {image : DeploymentImage}
    {platform : Platform} {result : Except DeployError Unit} :
    Task.Runs (dispatch console o c app image platform) trace result ↔
      Dispatched o c app image platform trace result := by
  cases platform with
  | machines =>
    rw [dispatch, runs_deployMachines]
    constructor
    · exact .machines
    · intro hdispatched
      cases hdispatched with
      | machines h => exact h
  | releases =>
    rw [dispatch, runs_deployRelease]
    constructor
    · exact .releases
    · intro hdispatched
      cases hdispatched with
      | releases h => exact h

/-- How the image for a platform is obtained and handed over, by the way that ends. -/
inductive Delivered (files : Files) (o : DeployOptions) (c : AppConfig) (app : AppSummary)
    (platform : Platform) : List (Exchange Deploy) → Except DeployError Report → Prop where
  | unfit {e : ConfigError} (h : ensurePlatform c platform = .error e) :
      Delivered files o c app platform [] (.error (.invalidMachinesConfig e))
  | imageless {acquire : List (Exchange Deploy)} {e : BuildError}
      (hfit : ensurePlatform c platform = .ok ()) (himage : Obtained files o c acquire (.error e)) :
      Delivered files o c app platform acquire (.error (.image e))
  | built {acquire : List (Exchange Deploy)} {image : DeploymentImage}
      (hfit : ensurePlatform c platform = .ok ()) (himage : Obtained files o c acquire (.ok image))
      (h : o.buildOnly = true) :
      Delivered files o c app platform acquire (.ok ⟨platform, image, false⟩)
  | dispatched {acquire after : List (Exchange Deploy)} {image : DeploymentImage}
      {result : Except DeployError Unit}
      (hfit : ensurePlatform c platform = .ok ()) (himage : Obtained files o c acquire (.ok image))
      (h : o.buildOnly = false)
      (hdispatch : Dispatched o c.tellPrimaryRegion app image platform after result) :
      Delivered files o c app platform (acquire ++ after)
        (result.map fun _ => ⟨platform, image, true⟩)

theorem runs_deliver {app : AppSummary} {platform : Platform}
    {result : Except DeployError Report} :
    Task.Runs (deliver console files o c app platform) trace result ↔
      Delivered files o c app platform trace result := by
  rw [deliver]
  -- A config that is not fit ends the run before anything is asked.
  cases hfit : ensurePlatform c platform with
  | error e =>
    rw [Task.runs_error_bind]
    constructor
    · intro hrun
      obtain ⟨rfl, rfl⟩ := hrun
      exact .unfit hfit
    · intro hdelivered
      cases hdelivered with
      | unfit h =>
        cases hfit.symm.trans h
        exact ⟨rfl, rfl⟩
      | imageless h => cases hfit.symm.trans h
      | built h => cases hfit.symm.trans h
      | dispatched h => cases hfit.symm.trans h
  | ok u =>
    rw [Task.runs_ok_bind, Task.runs_adapt_bind]
    simp only [runs_obtainImage]
    cases h : o.buildOnly with
    | true =>
      simp only [if_true, Task.runs_pure]
      constructor
      · intro hrun
        rcases hrun with ⟨e, himage, rfl⟩ | ⟨acquire, image, _, himage, ⟨rfl, rfl⟩, rfl⟩
        · exact .imageless hfit himage
        · rw [List.append_nil]
          exact .built hfit himage h
      · intro hdelivered
        cases hdelivered with
        | unfit h' => cases hfit.symm.trans h'
        | imageless _ himage => exact .inl ⟨_, himage, rfl⟩
        | built _ himage =>
          exact .inr ⟨trace, _, [], himage, ⟨rfl, rfl⟩, (List.append_nil _).symm⟩
        | dispatched _ _ h' => cases h.symm.trans h'
    | false =>
      simp only [Bool.false_eq_true, if_false]
      constructor
      · intro hrun
        rcases hrun with ⟨e, himage, rfl⟩ | ⟨acquire, image, after, himage, hrest, rfl⟩
        · exact .imageless hfit himage
        · -- What comes after the dispatch asks nothing and only makes the report.
          obtain ⟨result, hdispatch, rfl⟩ :=
            (Task.runs_bind_silent fun _ _ _ => Task.runs_pure).1 hrest
          exact .dispatched hfit himage h (runs_dispatch.1 hdispatch)
      · intro hdelivered
        cases hdelivered with
        | unfit h' => cases hfit.symm.trans h'
        | imageless _ himage => exact .inl ⟨_, himage, rfl⟩
        | built _ _ h' => cases h.symm.trans h'
        | dispatched _ himage _ hdispatch =>
          refine .inr ⟨_, _, _, himage, ?_, rfl⟩
          refine (Task.runs_bind_silent fun _ _ _ => Task.runs_pure).2 ?_
          exact ⟨_, runs_dispatch.2 hdispatch, rfl⟩

/-! ## The whole -/

/-- The runs of a deploy, by the stage that they come to. -/
inductive Course (files : Files) (o : DeployOptions) (localConfig : Option AppConfig) :
    List (Exchange Deploy) → Except DeployError Report → Prop where
  | unresolved {start : List (Exchange Deploy)} {base : Except ConfigError AppConfig}
      {e : ConfigError} (hstart : Started o.app localConfig start base)
      (he : base.bind (settle o) = .error e) : Course files o localConfig start (.error (.config e))
  | unknown {start : List (Exchange Deploy)} {base config : AppConfig}
      (hstart : Started o.app localConfig start (.ok base)) (hc : settle o base = .ok config)
      (e : ApiError) :
      Course files o localConfig (start ++ [⟨.summary o.app, .error e⟩])
        (.error (.appLookup o.app e))
  | delivered {before after : List (Exchange Deploy)} {config : AppConfig} {app : AppSummary}
      {platform : Platform} {result : Except DeployError Report}
      (hresolved : Resolved o localConfig before config app platform)
      (hdelivered : Delivered files o config app platform after result) :
      Course files o localConfig (before ++ after) result

theorem runs_run {result : Except DeployError Report} :
    Task.Runs (run console files o localConfig) trace result ↔
      Course files o localConfig trace result := by
  rw [run, Task.runs_adapt_bind]
  simp only [runs_resolveConfig]
  constructor
  · intro hrun
    rcases hrun with ⟨e, ⟨base, hstart, he⟩, rfl⟩ | ⟨start, config, _, ⟨base, hstart, hc⟩, h, rfl⟩
    · exact .unresolved hstart he.symm
    · cases base with
      | error e => cases hc
      | ok base =>
        rw [Task.runs_attempt_bind] at h
        simp only [Plan.runs_request] at h
        obtain ⟨e, rfl, rfl⟩ | ⟨_, app, _, rfl, h, rfl⟩ := h
        · exact .unknown hstart hc.symm e
        · obtain ⟨_, platform, after, hplatform, hdelivered, rfl⟩ := Task.runs_lift_bind.1 h
          obtain ⟨answer, rfl, hchoice⟩ := runs_choosePlatform.1 hplatform
          have hresolved : Resolved o localConfig (start ++
              [⟨.summary o.app, .ok app⟩, ⟨.machinesDefault app.organization.slug, answer⟩])
              config app platform :=
            ⟨start, base, answer, hstart, hc.symm, rfl, hchoice⟩
          have hcourse := Course.delivered hresolved (runs_deliver.1 hdelivered)
          rwa [List.append_assoc] at hcourse
  · intro hcourse
    cases hcourse with
    | unresolved hstart he => exact .inl ⟨_, ⟨_, hstart, he.symm⟩, rfl⟩
    | unknown hstart hc e =>
      refine .inr ⟨_, _, _, ⟨_, hstart, hc.symm⟩, ?_, rfl⟩
      exact Task.runs_attempt_bind.2 (.inl ⟨e, Plan.runs_request.2 rfl, rfl⟩)
    | delivered hresolved hdelivered =>
      obtain ⟨start, base, answer, hstart, hc, rfl, hchoice⟩ := hresolved
      refine .inr ⟨_, _, _, ⟨_, hstart, hc.symm⟩, ?_, List.append_assoc ..⟩
      refine Task.runs_attempt_bind.2 (.inr ⟨_, _, _, Plan.runs_request.2 rfl, ?_, rfl⟩)
      refine Task.runs_lift_bind.2 ⟨_, _, _, runs_choosePlatform.2 ⟨answer, rfl, hchoice⟩, ?_, rfl⟩
      exact runs_deliver.2 hdelivered

/-! ## In a world -/

section World

variable {ω : Type} (w : World Deploy ω) (state : ω) (console : Console) (files : Files)
  (o : DeployOptions) (localConfig : Option AppConfig)

/-- What a deploy asks in a world, with the answers that it gets. -/
def callsIn : List (Exchange Deploy) :=
  exchanges (Plan.run w (run console files o localConfig).run state).1

/-- What a deploy comes to in a world. -/
def outcomeIn : Except DeployError Report :=
  (Plan.run w (run console files o localConfig).run state).2.1

theorem course_of_run :
    Course files o localConfig (callsIn w state console files o localConfig)
      (outcomeIn w state console files o localConfig) :=
  runs_run.1 (Plan.runs_run w _ state)

end World

/-! ## A deploy to look at

A new app goes to machines. Its config is fetched, and the deploy wishes for a region and
writes one variable twice. -/

namespace Example

def app : AppSummary where
  name := ⟨"web", by decide +kernel⟩
  organization := ⟨"acme"⟩
  platform := none
  deployed := false

def image : DeploymentImage := ⟨"registry/web:1", none, none, 2048, .empty⟩

def options : DeployOptions where
  app := app.name
  workingDir := "/srv/web"
  region := some "ams"
  image := some "web:1"
  env := ["MODE=slow", " MODE =fast"]
  detach := true
  forceMachines := true

def base : AppConfig where
  primaryRegion := "ord"
  env := .ofList [("MODE", "idle"), ("PRIMARY_REGION", "")]
  deploy := some { strategy := some "blue-green" }

/-- A world in which everything is answered well, but for the rollout, which is up to the
reader. -/
def world (rollout : Except RolloutError Unit) : World Deploy Unit where
  answer q state := (match q with
    | .openConfig _ => .ok ()
    | .fetchConfig _ => .ok base
    | .summary _ => .ok app
    | .machinesDefault _ => .ok false
    | .findImage _ => .ok (some image)
    | .startHeartbeat => ()
    | .buildImage _ => .ok (some image)
    | .releaseHeartbeat => ()
    | .createRelease _ => .error .unauthorized
    | .release _ _ => .error .unauthorized
    | .watchReleaseCommand _ _ => .ok ()
    | .watchDeployment _ _ => .ok ()
    | .runRollout _ => rollout, state)

/-- The config that goes to machines. -/
def config : AppConfig :=
  { base with
    app := some app.name
    primaryRegion := "ams"
    env := .ofList [("MODE", "fast"), ("PRIMARY_REGION", "ams")] }

def rollout : NewRollout where
  app := app.name
  organization := "acme"
  image := image
  strategy := some "blue-green"
  env := .ofList [("MODE", "fast")]
  primaryRegion := some "ams"
  waitTimeout := .ofSeconds 120
  leaseTimeout := .ofSeconds 13
  skipHealthChecks := true
  config := config

/-- The calls before the rollout. -/
def preparation : List (Exchange Deploy) :=
  [⟨.openConfig app.name, .ok ()⟩, ⟨.fetchConfig app.name, .ok base⟩,
    ⟨.summary app.name, .ok app⟩, ⟨.machinesDefault "acme", .ok false⟩,
    ⟨.findImage (referenceRequest options "web:1"), .ok (some image)⟩]

theorem calls_eq (answer : Except RolloutError Unit) :
    callsIn (world answer) () ⟨.quiet⟩ (.ofList [] []) options none =
      preparation ++ [⟨.runRollout rollout, answer⟩] := by
  cases answer <;> rfl

end Example

end AppDeploy.Deploy
