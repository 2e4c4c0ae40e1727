import AppDeploy.Proofs.Config.Settled
import AppDeploy.Proofs.Deploy.Findings

/-!
# What is handed to a platform

The call that hands an image to a platform carries the config that the deploy has settled on,
and nothing that was made up elsewhere: the definition of a release is that config without
what is only local, and a rollout has all of it, with a region and a strategy that agree with
it. The config is valid when it is handed over, with its primary region told.
-/

namespace AppDeploy.Deploy

open AppConfig (Settled)

variable {files : Files} {o : DeployOptions} {base c config : AppConfig} {app : AppSummary}
  {platform : Platform} {image : DeploymentImage} {localConfig : Option AppConfig}
  {before after : List (Exchange Deploy)}

/-! ## The config -/

/-- What a platform is handed is settled, and valid. -/
theorem settled_of_settle (h : settle o base = .ok config) :
    Settled o base config.tellPrimaryRegion ∧ config.tellPrimaryRegion.validate.errors = [] := by
  obtain ⟨hwithOptions, hvalid⟩ := settle_eq_ok.1 h
  refine ⟨AppConfig.settled_of_withOptions hwithOptions, AppConfig.errors_tellPrimaryRegion ?_⟩
  rw [Validation.toResult, Validation.isValid] at hvalid
  split at hvalid
  case isTrue herrors => simpa using herrors
  case isFalse => cases hvalid

/-- The region told to an app does not change what its image is made of. -/
theorem found_tellPrimaryRegion (h : Found files o c before image) :
    Found files o c.tellPrimaryRegion before image := by
  rw [AppConfig.tellPrimaryRegion_eq]
  cases h with
  | named h hfind => exact .named h hfind
  | built h hr hbuild => exact .built h hr hbuild

/-- The region of a rollout is that of its config: the two places that decide on it agree. -/
theorem rolloutRegion_of_settled (h : Settled o base c) :
    rolloutRegion o c = if c.primaryRegion = "" then none else some c.primaryRegion := by
  rw [rolloutRegion, h.primaryRegion, DeployOptions.wantedRegion]
  cases hregion : present o.region with
  | none =>
    by_cases hbase : base.primaryRegion = "" <;> simp [present, hbase]
  | some region =>
    have hne : region ≠ "" := by
      obtain ⟨-, hfilter⟩ := Option.filter_eq_some_iff.1 hregion
      simpa using hfilter
    simp [hne]

/-! ## The call -/

/-- What a platform is asked for, for a config and an image. -/
inductive Payload (o : DeployOptions) (config : AppConfig) (app : AppSummary)
    (image : DeploymentImage) : Platform → Request → Prop where
  /-- A release has the definition of the app: its config without what is only local. -/
  | release {fields : Table Json} (hfields : config.toJson = .ofTable fields) :
      Payload o config app image .releases (.createRelease {
        app := o.app
        image := image.tag
        strategy := (present o.strategy).map releaseStrategy
        definition := some (.ofTable ((fields.erase "app").erase "build")) })
  /-- A rollout has all of the config, which is fit for machines. -/
  | rollout {env : Table String} {assignments : List Assignment}
      (hread : Assignment.ReadAs o.env assignments)
      (henv : ∀ name, env.get? name = Assignment.last? name assignments)
      (hfit : config.ensureMachines = .ok ()) :
      Payload o config app image .machines (.runRollout {
        app := o.app
        organization := app.organization.slug
        image := image
        strategy := present o.strategy <|> config.deploy.bind fun d => present d.strategy
        env := env
        primaryRegion := if config.primaryRegion = "" then none else some config.primaryRegion
        waitTimeout := o.waitTimeout
        leaseTimeout := o.leaseTimeout
        skipHealthChecks := o.detach
        config := config })

theorem payload_of_newRelease : Payload o c app image .releases
    (.createRelease (newRelease o c image)) := by
  obtain ⟨fields, hfields, hdefinition⟩ := c.definition_eq
  rw [newRelease, hdefinition]
  exact .release hfields

theorem payload_of_newRollout {rollout : NewRollout} (hsettled : Settled o base c)
    (hfit : c.ensureMachines = .ok ()) (h : newRollout o c app image = .ok rollout) :
    Payload o c app image .machines (.runRollout rollout) := by
  obtain ⟨env, henv, rfl⟩ := newRollout_eq_ok.1 h
  obtain ⟨assignments, hread, hget⟩ := Assignment.get?_readAll henv
  rw [rolloutRegion_of_settled hsettled]
  exact .rollout hread hget hfit

theorem payload_of_dispatched {dispatched : Except DeployError Unit}
    {calls : List (Exchange Deploy)} {x : Exchange Deploy} (hsettled : Settled o base c)
    (h : Dispatched o c app image platform calls dispatched)
    (hfit : ensurePlatform c platform = .ok ()) (hx : x ∈ calls)
    (hbackend : x.request.backend? = some platform) : Payload o c app image platform x.request := by
  cases h with
  | machines h =>
    obtain ⟨rollout, hr, hrequest⟩ := request_of_rolledOut h hx
    rw [hrequest]
    exact payload_of_newRollout hsettled hfit hr
  | releases h =>
    rcases created_or_wait_of_released h hx with hrequest | hwait
    · rw [hrequest]
      exact payload_of_newRelease
    · rw [stage_of_backend? hbackend] at hwait
      cases hwait

/-- In every world, the call of a deploy that hands an image to a platform carries the config
that is settled on before: the base config with the wishes of the deploy, valid, and fit for the
platform. -/
theorem handover_carries_settled_config {ω : Type} (w : World Deploy ω) (state : ω)
    (console : Console) (files : Files) (o : DeployOptions) (localConfig : Option AppConfig)
    {x : Exchange Deploy}
    (hcalls : callsIn w state console files o localConfig = before ++ x :: after)
    (hbackend : x.request.backend? = some platform) :
    ∃ base config app image, Base o.app before localConfig base ∧ Settled o base config ∧
      config.validate.errors = [] ∧ Chosen o before app platform ∧
      Found files o config before image ∧ Payload o config app image platform x.request := by
  have hcourse := course_of_run w state console files o localConfig
  rw [hcalls] at hcourse
  obtain ⟨-, config, app, image, calls, dispatched, hprepared, hdispatch, hx⟩ :=
    handover_of_course hcourse hbackend
  obtain ⟨base, hbase, hsettle⟩ := hprepared.settled
  obtain ⟨hsettled, hvalid⟩ := settled_of_settle hsettle
  have hfit : ensurePlatform config.tellPrimaryRegion platform = .ok () := by
    cases platform with
    | machines =>
      rw [ensurePlatform, AppConfig.ensureMachines_tellPrimaryRegion]
      exact hprepared.fit
    | releases => rfl
  exact ⟨base, config.tellPrimaryRegion, app, image, hbase, hsettled, hvalid, hprepared.chosen,
    found_tellPrimaryRegion hprepared.found,
    payload_of_dispatched hsettled hdispatch hfit hx hbackend⟩

theorem example_carries_settled_config :
    ∃ base config app image, Base Example.options.app Example.preparation none base ∧
      Settled Example.options base config ∧ config.validate.errors = [] ∧
      Chosen Example.options Example.preparation app .machines ∧
      Found (.ofList [] []) Example.options config Example.preparation image ∧
      Payload Example.options config app image .machines (.runRollout Example.rollout) :=
  handover_carries_settled_config (Example.world (.ok ())) () ⟨.quiet⟩ (.ofList [] [])
    Example.options none (Example.calls_eq (.ok ())) rfl

end AppDeploy.Deploy
