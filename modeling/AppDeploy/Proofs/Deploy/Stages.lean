import AppDeploy.Deploy.Course
import AppDeploy.Proofs.Assignment
import AppDeploy.Proofs.Plan.Runs

/-!
# The stages of a deploy, run by run

For each stage of a deploy a relation says which exchanges it can make and what comes of
them, and a lemma says that these are its runs, all of them and no others. The course of a
whole deploy is put together from these (`AppDeploy.Proofs.Deploy.Course`), so that what is
shown of a deploy is shown by cases over its stages and never by opening their plans.
-/

namespace AppDeploy.Deploy

variable {console : Console} {files : Files} {o : DeployOptions} {c : AppConfig}
  {trace : List (Exchange Deploy)}

/-! ## The config -/

/-- Where the config comes from that a deploy starts with: it is there, or the control
plane is asked for it. -/
inductive Started (app : AppName) :
    Option AppConfig → List (Exchange Deploy) → Except ConfigError AppConfig → Prop where
  | kept (base : AppConfig) : Started app (some base) [] (.ok base)
  | unopened (e : ApiError) :
      Started app none [⟨.openConfig app, .error e⟩] (.error (.remoteClient e))
  | fetched (answer : Except ApiError AppConfig) :
      Started app none [⟨.openConfig app, .ok ()⟩, ⟨.fetchConfig app, answer⟩]
        (answer.mapError .remoteFetch)

theorem runs_baseConfig {app : AppName} {localConfig : Option AppConfig}
    {result : Except ConfigError AppConfig} :
    Task.Runs (baseConfig app localConfig) trace result ↔
      Started app localConfig trace result := by
  cases localConfig with
  | some base =>
    rw [baseConfig, Task.runs_pure]
    constructor
    · intro hrun
      obtain ⟨rfl, rfl⟩ := hrun
      exact .kept base
    · intro h
      cases h
      exact ⟨rfl, rfl⟩
  | none =>
    rw [baseConfig, Task.runs_attempt_bind]
    simp only [Task.runs_attempt, Plan.runs_request]
    constructor
    · intro hrun
      rcases hrun with ⟨e, rfl, rfl⟩ | ⟨_, u, _, rfl, ⟨answer, rfl, rfl⟩, rfl⟩
      · exact .unopened e
      · exact .fetched answer
    · intro h
      cases h with
      | unopened e => exact .inl ⟨e, rfl, rfl⟩
      | fetched answer => exact .inr ⟨_, (), _, rfl, ⟨answer, rfl, rfl⟩, rfl⟩

/-- The config that a deploy makes of the one it starts with: the wishes of the deploy are
written over it, and it has to be valid. -/
def settle (o : DeployOptions) (base : AppConfig) : Except ConfigError AppConfig := do
  let config ← base.withOptions o
  config.validate.toResult
  return config

theorem settle_eq_ok {base config : AppConfig} :
    settle o base = .ok config ↔
      base.withOptions o = .ok config ∧ config.validate.toResult = .ok () := by
  cases h : base.withOptions o with
  | error e => simp [settle, h, bind, Except.bind]
  | ok settled =>
    cases hv : settled.validate.toResult with
    | error e =>
      simp only [settle, h, bind, Except.bind, hv, reduceCtorEq, Except.ok.injEq, false_iff]
      intro hrun
      obtain ⟨rfl, h'⟩ := hrun
      rw [hv] at h'
      cases h'
    | ok u =>
      simp only [settle, h, bind, Except.bind, hv, pure, Except.pure, Except.ok.injEq]
      constructor
      · intro hrun
        obtain rfl := hrun
        exact ⟨rfl, hv⟩
      · exact And.left

theorem runs_resolveConfig {localConfig : Option AppConfig}
    {result : Except ConfigError AppConfig} :
    Task.Runs (resolveConfig console o localConfig) trace result ↔
      ∃ base, Started o.app localConfig trace base ∧ result = base.bind (settle o) := by
  rw [resolveConfig, Task.runs_print_bind]
  simp only [← runs_baseConfig]
  refine Task.runs_bind_silent fun base rest result => ?_
  rw [settle]
  cases base.withOptions o with
  | error e => exact Task.runs_error_bind
  | ok config =>
    rw [Task.runs_ok_bind, Task.runs_notes_bind]
    cases h : config.validate.toResult with
    | error e =>
      rw [Task.runs_error_bind]
      simp [bind, Except.bind, h]
    | ok u =>
      rw [Task.runs_ok_bind, Task.runs_print_bind, Task.runs_pure]
      simp [bind, Except.bind, h, pure, Except.pure]

/-! ## The image -/

/-- What the answer of a builder means for a deploy: it needs an image. -/
def requireImage : Except BuildError (Option DeploymentImage) → Except BuildError DeploymentImage
  | .error e => .error e
  | .ok none => .error .noImage
  | .ok (some image) => .ok image

/-- How an image is obtained: it is named and looked for, or it is built under a
heartbeat. -/
inductive Obtained (files : Files) (o : DeployOptions) (c : AppConfig) :
    List (Exchange Deploy) → Except BuildError DeploymentImage → Prop where
  | named {reference : String} (h : namedImage o c = some reference)
      (answer : Except BuildError (Option DeploymentImage)) :
      Obtained files o c [⟨.findImage (referenceRequest o reference), answer⟩]
        (requireImage answer)
  | unassembled {e : BuildError} (h : namedImage o c = none)
      (he : buildRequest files o c = .error e) : Obtained files o c [] (.error e)
  | built {request : BuildRequest} (h : namedImage o c = none)
      (hr : buildRequest files o c = .ok request)
      (answer : Except BuildError (Option DeploymentImage)) :
      Obtained files o c
        [⟨.startHeartbeat, ()⟩, ⟨.buildImage request, answer⟩, ⟨.releaseHeartbeat, ()⟩]
        (requireImage answer)

theorem runs_buildAlive {request : BuildRequest}
    {built : Except BuildError (Option DeploymentImage)} :
    Plan.Runs (buildAlive request) trace built ↔
      trace =
        [⟨.startHeartbeat, ()⟩, ⟨.buildImage request, built⟩, ⟨.releaseHeartbeat, ()⟩] := by
  rw [buildAlive]
  constructor
  · intro hstart
    obtain ⟨-, _, hbuild, rfl⟩ := Plan.runs_request_bind.1 hstart
    obtain ⟨answer, _, hrelease, rfl⟩ := Plan.runs_request_bind.1 hbuild
    obtain ⟨-, _, hdone, rfl⟩ := Plan.runs_request_bind.1 hrelease
    obtain ⟨rfl, rfl⟩ := Plan.runs_done.1 hdone
    rfl
  · intro hrun
    obtain rfl := hrun
    refine Plan.runs_request_bind.2 ⟨(), _, ?_, rfl⟩
    refine Plan.runs_request_bind.2 ⟨built, _, ?_, rfl⟩
    exact Plan.runs_request_bind.2 ⟨(), [], .done built, rfl⟩

/-- A builder is asked, and then its answer is announced. -/
theorem runs_announceImage {p : Plan Deploy (Except BuildError (Option DeploymentImage))}
    {result : Except BuildError DeploymentImage} :
    Task.Runs (Task.attempt id p >>= announceImage console) trace result ↔
      ∃ found, Plan.Runs p trace found ∧ result = requireImage found := by
  have hsilent : ∀ found rest result,
      Task.Runs (announceImage console found) rest result ↔
        rest = [] ∧ result = requireImage (.ok found) := by
    intro found rest result
    cases found with
    | none => exact Task.runs_throw
    | some image =>
      rw [announceImage, Task.runs_print_bind, Task.runs_print_bind]
      exact Task.runs_pure
  rw [Task.runs_bind_silent hsilent]
  simp only [Task.runs_attempt]
  constructor
  · intro hrun
    obtain ⟨_, ⟨found, h, rfl⟩, rfl⟩ := hrun
    refine ⟨found, h, ?_⟩
    cases found <;> rfl
  · intro hrun
    obtain ⟨found, h, rfl⟩ := hrun
    refine ⟨_, ⟨found, h, rfl⟩, ?_⟩
    cases found <;> rfl

theorem runs_obtainImage {result : Except BuildError DeploymentImage} :
    Task.Runs (obtainImage console files o c) trace result ↔
      Obtained files o c trace result := by
  rw [obtainImage, Task.runs_print_bind, Task.runs_notes_bind]
  -- Whether an image is named decides on the branch; the constructors of the other branch
  -- contradict it.
  cases h : namedImage o c with
  | some reference =>
    refine runs_announceImage.trans ?_
    simp only [Plan.runs_request]
    constructor
    · intro hrun
      obtain ⟨answer, rfl, rfl⟩ := hrun
      exact .named h answer
    · intro hobtained
      cases hobtained with
      | named h' answer =>
        cases h.symm.trans h'
        exact ⟨answer, rfl, rfl⟩
      | unassembled h' => cases h.symm.trans h'
      | built h' => cases h.symm.trans h'
  | none =>
    simp only
    cases hr : buildRequest files o c with
    | error e =>
      rw [Task.runs_error_bind]
      constructor
      · intro hrun
        obtain ⟨rfl, rfl⟩ := hrun
        exact .unassembled h hr
      · intro hobtained
        cases hobtained with
        | named h' => cases h.symm.trans h'
        | unassembled _ he =>
          cases hr.symm.trans he
          exact ⟨rfl, rfl⟩
        | built _ hr' => cases hr.symm.trans hr'
    | ok request =>
      rw [Task.runs_ok_bind]
      refine runs_announceImage.trans ?_
      simp only [runs_buildAlive]
      constructor
      · intro hrun
        obtain ⟨answer, rfl, rfl⟩ := hrun
        exact .built h hr answer
      · intro hobtained
        cases hobtained with
        | named h' => cases h.symm.trans h'
        | unassembled _ he => cases hr.symm.trans he
        | built _ hr' answer =>
          cases hr.symm.trans hr'
          exact ⟨answer, rfl, rfl⟩

/-! ## The platform -/

/-- Whether an organization counts as one that deploys new apps to machines; one that cannot
be asked does not. -/
def saysMachines : Except ApiError Bool → Bool
  | .ok on => on
  | .error _ => false

theorem runs_choosePlatform {app : AppSummary} {platform : Platform} :
    Plan.Runs (choosePlatform o app) trace platform ↔
      ∃ answer, trace = [⟨.machinesDefault app.organization.slug, answer⟩] ∧
        platform = .select app o.forceReleases o.forceMachines (saysMachines answer) := by
  rw [choosePlatform]
  constructor
  · intro h
    obtain ⟨answer, _, hdone, rfl⟩ := Plan.runs_request_bind.1 h
    obtain ⟨rfl, rfl⟩ := Plan.runs_done.1 hdone
    exact ⟨answer, rfl, by cases answer <;> rfl⟩
  · intro hrun
    obtain ⟨answer, rfl, rfl⟩ := hrun
    refine Plan.runs_request_bind.2 ⟨answer, [], ?_, rfl⟩
    cases answer <;> exact .done _

/-! ## Releases -/

/-- How the command of a release is waited for, and the release that is in hand then. -/
inductive CommandAwaited (app : AppName) (created : CreatedRelease) :
    List (Exchange Deploy) → Except DeployError Release → Prop where
  | none (h : created.releaseCommand = none) :
      CommandAwaited app created [] (.ok created.release)
  | failed {command : ReleaseCommand} (h : created.releaseCommand = some command)
      (e : WatchError) :
      CommandAwaited app created [⟨.watchReleaseCommand app command.id, .error e⟩]
        (.error (.releaseCommand e))
  | refreshed {command : ReleaseCommand} (h : created.releaseCommand = some command)
      (answer : Except ApiError Release) :
      CommandAwaited app created
        [⟨.watchReleaseCommand app command.id, .ok ()⟩, ⟨.release app created.release.id, answer⟩]
        (answer.mapError (.refreshRelease created.release.id))

theorem runs_effectiveRelease {app : AppName} {created : CreatedRelease}
    {result : Except DeployError Release} :
    Task.Runs (effectiveRelease console app created) trace result ↔
      CommandAwaited app created trace result := by
  rw [effectiveRelease]
  -- Without a command nothing is asked, and the release in hand is the one just created.
  cases h : created.releaseCommand with
  | none =>
    refine Task.runs_pure.trans ?_
    constructor
    · intro hrun
      obtain ⟨rfl, rfl⟩ := hrun
      exact .none h
    · intro hawaited
      cases hawaited with
      | none => exact ⟨rfl, rfl⟩
      | failed h' => cases h.symm.trans h'
      | refreshed h' => cases h.symm.trans h'
  | some command =>
    simp only [awaitCommand]
    rw [Task.runs_print_bind, Task.runs_print_bind, Task.runs_attempt_bind]
    simp only [Task.runs_attempt, Plan.runs_request]
    constructor
    · intro hrun
      rcases hrun with ⟨e, rfl, rfl⟩ | ⟨_, u, _, rfl, ⟨answer, rfl, rfl⟩, rfl⟩
      · exact .failed h e
      · exact .refreshed h answer
    · intro hawaited
      cases hawaited with
      | none h' => cases h.symm.trans h'
      | failed h' e =>
        cases h.symm.trans h'
        exact .inl ⟨e, rfl, rfl⟩
      | refreshed h' answer =>
        cases h.symm.trans h'
        exact .inr ⟨_, (), _, rfl, ⟨answer, rfl, rfl⟩, rfl⟩

/-- How a release is waited for until it is live. -/
inductive ReleaseAwaited (app : AppName) (release : Release) :
    List (Exchange Deploy) → Except DeployError Unit → Prop where
  | immediate (h : release.isImmediate = true) : ReleaseAwaited app release [] (.ok ())
  | watched (h : release.isImmediate = false) (answer : Except WatchError Unit) :
      ReleaseAwaited app release [⟨.watchDeployment app release.evaluationId, answer⟩]
        (answer.mapError .monitor)

theorem runs_awaitRelease {app : AppName} {release : Release}
    {result : Except DeployError Unit} :
    Task.Runs (awaitRelease app release) trace result ↔
      ReleaseAwaited app release trace result := by
  rw [awaitRelease]
  cases h : release.isImmediate with
  | true =>
    rw [if_pos rfl, Task.runs_pure]
    constructor
    · intro hrun
      obtain ⟨rfl, rfl⟩ := hrun
      exact .immediate h
    · intro hawaited
      cases hawaited with
      | immediate => exact ⟨rfl, rfl⟩
      | watched h' => cases h.symm.trans h'
  | false =>
    rw [if_neg Bool.false_ne_true, Task.runs_attempt]
    simp only [Plan.runs_request]
    constructor
    · intro hrun
      obtain ⟨answer, rfl, rfl⟩ := hrun
      exact .watched h answer
    · intro hawaited
      cases hawaited with
      | immediate h' => cases h.symm.trans h'
      | watched _ answer => exact ⟨answer, rfl, rfl⟩

/-- How an image is deployed as a release: the release is created, and unless the deploy is
detached its command is waited for, and then the release in hand. -/
inductive Released (o : DeployOptions) (c : AppConfig) (image : DeploymentImage) :
    List (Exchange Deploy) → Except DeployError Unit → Prop where
  | refused (e : ApiError) :
      Released o c image [⟨.createRelease (newRelease o c image), .error e⟩]
        (.error (.createRelease e))
  | detached (h : o.detach = true) (created : CreatedRelease) :
      Released o c image [⟨.createRelease (newRelease o c image), .ok created⟩] (.ok ())
  | stranded (h : o.detach = false) {created : CreatedRelease}
      {command : List (Exchange Deploy)} {e : DeployError}
      (hcommand : CommandAwaited o.app created command (.error e)) :
      Released o c image (⟨.createRelease (newRelease o c image), .ok created⟩ :: command)
        (.error e)
  | followed (h : o.detach = false) {created : CreatedRelease}
      {command watch : List (Exchange Deploy)} {release : Release}
      {result : Except DeployError Unit}
      (hcommand : CommandAwaited o.app created command (.ok release))
      (hwatch : ReleaseAwaited o.app release watch result) :
      Released o c image
        (⟨.createRelease (newRelease o c image), .ok created⟩ :: (command ++ watch)) result

theorem runs_deployRelease {image : DeploymentImage} {result : Except DeployError Unit} :
    Task.Runs (deployRelease console o c image) trace result ↔
      Released o c image trace result := by
  rw [deployRelease, Task.runs_print_bind, Task.runs_attempt_bind]
  simp only [Plan.runs_request, Task.runs_print_bind]
  -- A detached deploy is done with its first call, so that what follows matters only otherwise.
  cases h : o.detach with
  | true =>
    simp only [if_true, Task.runs_pure]
    constructor
    · intro hrun
      rcases hrun with ⟨e, rfl, rfl⟩ | ⟨_, created, _, rfl, ⟨rfl, rfl⟩, rfl⟩
      · exact .refused e
      · exact .detached h created
    · intro hreleased
      cases hreleased with
      | refused e => exact .inl ⟨e, rfl, rfl⟩
      | detached _ created => exact .inr ⟨_, created, [], rfl, ⟨rfl, rfl⟩, rfl⟩
      | stranded h' => cases h.symm.trans h'
      | followed h' => cases h.symm.trans h'
  | false =>
    simp only [Bool.false_eq_true, if_false, Task.runs_print_bind]
    simp only [Task.runs_bind, runs_effectiveRelease, runs_awaitRelease]
    constructor
    · intro hrun
      rcases hrun with ⟨e, rfl, rfl⟩ | ⟨_, created, _, rfl, hfollow, rfl⟩
      · exact .refused e
      · obtain ⟨e, hcommand, rfl⟩ | ⟨command, release, watch, hcommand, hwatch, rfl⟩ := hfollow
        · exact .stranded h hcommand
        · show Released o c image (_ :: (command ++ watch)) result
          exact .followed h hcommand hwatch
    · intro hreleased
      cases hreleased with
      | refused e => exact .inl ⟨e, rfl, rfl⟩
      | detached h' => cases h.symm.trans h'
      | stranded _ hcommand =>
        exact .inr ⟨_, _, _, rfl, .inl ⟨_, hcommand, rfl⟩, rfl⟩
      | followed _ hcommand hwatch =>
        exact .inr ⟨_, _, _, rfl, .inr ⟨_, _, _, hcommand, hwatch, rfl⟩, rfl⟩

/-! ## Machines -/

theorem newRollout_eq_ok {app : AppSummary} {image : DeploymentImage} {rollout : NewRollout} :
    newRollout o c app image = .ok rollout ↔
      ∃ env, Assignment.readAll o.env = .ok env ∧ rollout = {
        app := o.app
        organization := app.organization.slug
        image
        strategy := o.wantedStrategy <|> c.deployStrategy
        env
        primaryRegion := rolloutRegion o c
        waitTimeout := o.waitTimeout
        leaseTimeout := o.leaseTimeout
        skipHealthChecks := o.detach
        config := c } := by
  rw [newRollout, Assignment.readAll_bind_eq_ok]
  simp [pure, Except.pure, eq_comm]

/-- How an image is deployed to machines: one rollout, of which the config has to be fit. -/
inductive RolledOut (o : DeployOptions) (c : AppConfig) (app : AppSummary)
    (image : DeploymentImage) : List (Exchange Deploy) → Except DeployError Unit → Prop where
  | unfit {e : ConfigError} (h : c.ensureMachines = .error e) :
      RolledOut o c app image [] (.error (.invalidMachinesConfig e))
  | unread {e : ConfigError} (h : c.ensureMachines = .ok ())
      (he : newRollout o c app image = .error e) : RolledOut o c app image [] (.error (.config e))
  | run {rollout : NewRollout} (h : c.ensureMachines = .ok ())
      (hr : newRollout o c app image = .ok rollout) (answer : Except RolloutError Unit) :
      RolledOut o c app image [⟨.runRollout rollout, answer⟩] (answer.mapError .rollout)

theorem runs_runRollout {rollout : NewRollout} {result : Except RolloutError Unit} :
    Plan.Runs (runRollout rollout) trace result ↔ trace = [⟨.runRollout rollout, result⟩] := by
  rw [runRollout]
  constructor
  · intro h
    obtain ⟨answer, _, hdone, rfl⟩ := Plan.runs_request_bind.1 h
    cases answer with
    | error e =>
      obtain ⟨rfl, rfl⟩ := Plan.runs_done.1 (Plan.runs_note.1 hdone)
      rfl
    | ok u =>
      obtain ⟨rfl, rfl⟩ := Plan.runs_done.1 hdone
      rfl
  · intro hrun
    obtain rfl := hrun
    refine Plan.runs_request_bind.2 ⟨result, [], ?_, rfl⟩
    cases result with
    | error e => exact Plan.Runs.note (.done _)
    | ok u => exact .done _

theorem runs_deployMachines {app : AppSummary} {image : DeploymentImage}
    {result : Except DeployError Unit} :
    Task.Runs (deployMachines console o c app image) trace result ↔
      RolledOut o c app image trace result := by
  rw [deployMachines]
  -- There are two checks before the one call, and each of them can end the run.
  cases h : c.ensureMachines with
  | error e =>
    rw [Task.runs_error_bind]
    constructor
    · intro hrun
      obtain ⟨rfl, rfl⟩ := hrun
      exact .unfit h
    · intro hrolled
      cases hrolled with
      | unfit h' =>
        cases h.symm.trans h'
        exact ⟨rfl, rfl⟩
      | unread h' => cases h.symm.trans h'
      | run h' => cases h.symm.trans h'
  | ok u =>
    rw [Task.runs_ok_bind]
    cases hr : newRollout o c app image with
    | error e =>
      rw [Task.runs_error_bind]
      constructor
      · intro hrun
        obtain ⟨rfl, rfl⟩ := hrun
        exact .unread h hr
      · intro hrolled
        cases hrolled with
        | unfit h' => cases h.symm.trans h'
        | unread _ he =>
          cases hr.symm.trans he
          exact ⟨rfl, rfl⟩
        | run _ hr' => cases hr.symm.trans hr'
    | ok rollout =>
      rw [Task.runs_ok_bind, Task.runs_print_bind, Task.runs_attempt]
      simp only [runs_runRollout]
      constructor
      · intro hrun
        obtain ⟨answer, rfl, rfl⟩ := hrun
        exact .run h hr answer
      · intro hrolled
        cases hrolled with
        | unfit h' => cases h.symm.trans h'
        | unread _ he => cases hr.symm.trans he
        | run _ hr' answer =>
          cases hr.symm.trans hr'
          exact ⟨answer, rfl, rfl⟩

end AppDeploy.Deploy
