import AppDeploy.Proofs.Config.Settled
import AppDeploy.Proofs.Deploy.Findings

/-!
# The assignments of a rollout

A rollout carries the assignments that the deploy was given, and a config whose variables they
were written over. The two agree, but for a primary region that is assigned nothing: such a
variable does not count as set, and the config tells the region there.
-/

namespace AppDeploy

/-- What is assigned can be looked up in the config that is deployed. -/
theorem AppConfig.get?_of_assigned {o : DeployOptions} {base c : AppConfig} {vars : Table String}
    {name value : String} (h : base.withOptions o = .ok c)
    (hvars : Assignment.readAll o.env = .ok vars) (hvalue : vars.get? name = some value) :
    c.tellPrimaryRegion.env.get? name =
      some (if name = primaryRegionVariable ∧ value = "" then c.tellPrimaryRegion.primaryRegion
        else value) := by
  obtain ⟨vars', hvars', rfl⟩ := withOptions_eq_ok.1 h
  obtain rfl := Except.ok.inj (hvars.symm.trans hvars')
  have hassigned : (base.env.overlay vars).get? name = some value := by
    rw [Table.get?_overlay, hvalue, Option.some_or]
  rw [get?_tellPrimaryRegion, primaryRegion_tellPrimaryRegion]
  simp only [hassigned, reduceCtorEq, false_or, Option.some.injEq]
  by_cases htold : name = primaryRegionVariable ∧ value = ""
  · -- Nothing is told where there is no region, and then nothing is what was assigned.
    obtain ⟨rfl, rfl⟩ := htold
    by_cases hregion : o.wantedRegion.getD base.primaryRegion = ""
    · simp [hregion]
    · simp [hregion]
  · rw [if_neg htold, if_neg]
    intro hrun
    exact htold ⟨hrun.1, hrun.2.2⟩

namespace Deploy

variable {files : Files} {o : DeployOptions} {localConfig : Option AppConfig}
  {calls : List (Exchange Deploy)}

/-- A rollout is made of the config that was settled on. -/
theorem rollout_of_course {result : Except DeployError Report} {r : NewRollout}
    {answer : Except RolloutError Unit} (h : Course files o localConfig calls result)
    (hx : ⟨.runRollout r, answer⟩ ∈ calls) :
    ∃ base config app image, settle o base = .ok config ∧
      newRollout o config.tellPrimaryRegion app image = .ok r := by
  obtain ⟨before, after, rfl⟩ := List.append_of_mem hx
  have hbackend : Request.backend? (.runRollout r) = some .machines := rfl
  obtain ⟨-, config, app, image, second, dispatched, hprepared, hdispatch, hsecond⟩ :=
    handover_of_course h hbackend
  obtain ⟨base, -, hsettle⟩ := hprepared.settled
  cases hdispatch with
  | machines hrolled =>
    obtain ⟨rollout, hr, hrequest⟩ := request_of_rolledOut hrolled hsecond
    cases hrequest
    exact ⟨base, config, app, image, hsettle, hr⟩

/-- In every world, what is assigned in a rollout is so in its config, but for a primary region
that is assigned nothing. -/
theorem rollout_config_has_assignments {ω : Type} (w : World Deploy ω) (state : ω)
    (console : Console) (files : Files) (o : DeployOptions) (localConfig : Option AppConfig)
    {r : NewRollout} {answer : Except RolloutError Unit}
    (hrollout : ⟨.runRollout r, answer⟩ ∈ callsIn w state console files o localConfig)
    {name value : String} (hvalue : r.env.get? name = some value) :
    r.config.env.get? name =
      some (if name = AppConfig.primaryRegionVariable ∧ value = "" then r.config.primaryRegion
        else value) := by
  have hcourse := course_of_run w state console files o localConfig
  obtain ⟨base, config, app, image, hsettle, hr⟩ := rollout_of_course hcourse hrollout
  obtain ⟨vars, hvars, rfl⟩ := newRollout_eq_ok.1 hr
  exact AppConfig.get?_of_assigned (settle_eq_ok.1 hsettle).1 hvars hvalue

theorem example_config_has_assignments :
    Example.rollout.config.env.get? "MODE" =
      some (if "MODE" = AppConfig.primaryRegionVariable ∧ "fast" = "" then
        Example.rollout.config.primaryRegion else "fast") := by
  have hrollout : (⟨.runRollout Example.rollout, .ok ()⟩ : Exchange Deploy) ∈
      callsIn (Example.world (.ok ())) () ⟨.quiet⟩ (.ofList [] []) Example.options none := by
    simp [Example.calls_eq]
  exact rollout_config_has_assignments _ _ _ _ _ _ hrollout rfl

namespace Example

/-- A deploy that assigns nothing to the primary region. -/
def regionless : DeployOptions :=
  { options with env := ["PRIMARY_REGION="] }

def regionlessRollout : NewRollout :=
  { rollout with
    env := .ofList [("PRIMARY_REGION", "")]
    config := { config with env := .ofList [("MODE", "idle"), ("PRIMARY_REGION", "ams")] } }

end Example

/-- A rollout can assign something else than its config. -/
theorem rollout_config_may_lack_assignment :
    ¬∀ (w : World Deploy Unit) (console : Console) (files : Files) (o : DeployOptions)
      (localConfig : Option AppConfig) (r : NewRollout) (answer : Except RolloutError Unit),
      ⟨.runRollout r, answer⟩ ∈ callsIn w () console files o localConfig →
      ∀ name value, r.env.get? name = some value → r.config.env.get? name = some value := by
  intro hall
  have hrun : callsIn (Example.world (.ok ())) () ⟨.quiet⟩ (.ofList [] []) Example.regionless none =
      Example.preparation ++ [⟨.runRollout Example.regionlessRollout, .ok ()⟩] := rfl
  have hmem : (⟨.runRollout Example.regionlessRollout, .ok ()⟩ : Exchange Deploy) ∈
      callsIn (Example.world (.ok ())) () ⟨.quiet⟩ (.ofList [] []) Example.regionless none := by
    rw [hrun]
    simp
  have hkept := hall _ _ _ _ _ _ _ hmem "PRIMARY_REGION" "" rfl
  exact absurd hkept (by decide)

end Deploy

end AppDeploy
