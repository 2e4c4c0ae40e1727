import AppDeploy.Proofs.Assignment.Spelling
import AppDeploy.Proofs.Config.Validity
import AppDeploy.Proofs.Deploy.Stages

/-!
# The config of a deploy, all or nothing

The wishes of a deploy are written over its base config (`Overlaid`), and the config it comes to
is that one if it is sound. Otherwise the first step that fails decides the error (`Failing`), and
an error of the config itself lists everything that is wrong with it.
-/

namespace AppDeploy.Deploy

open Assignment (FirstFault)
open AppConfig (Sound)

variable {o : DeployOptions} {base c : AppConfig}

/-- A config is a base config with the wishes of a deploy written over it. -/
structure Overlaid (o : DeployOptions) (base c : AppConfig) : Prop where
  app : c.app = some o.app
  /-- A region that the deploy wishes for replaces that of the base config. -/
  primaryRegion : c.primaryRegion = o.wantedRegion.getD base.primaryRegion
  /-- Of the assignments of the deploy the last to a name counts, and the other variables are
  those of the base config. -/
  env : ∃ assignments, List.Forall₂ Assignment.Spells o.env assignments ∧
    ∀ name, c.env.get? name = base.writtenValue? assignments name
  rest : c = { base with app := c.app, primaryRegion := c.primaryRegion, env := c.env }

/-- The step at which the resolution of a config fails first, and the error it fails with: the
base config cannot be had, a text is no assignment, or the config is not sound. -/
inductive Failing (o : DeployOptions) : Except ConfigError AppConfig → ConfigError → Prop where
  | remote (e : ConfigError) : Failing o (.error e) e
  | env {base : AppConfig} {fault : Assignment.Error} (h : FirstFault o.env fault) :
      Failing o (.ok base) (.env fault)
  | invalid {base c : AppConfig} {problems : List String} (h : Overlaid o base c)
      (hne : problems ≠ []) (hall : ∀ problem, problem ∈ problems ↔ c.Violation problem) :
      Failing o (.ok base) (.invalid problems)

/-! ## The steps -/

theorem withOptions_iff_overlaid : base.withOptions o = .ok c ↔ Overlaid o base c := by
  rw [AppConfig.withOptions_eq_ok]
  constructor
  · rintro ⟨vars, hvars, rfl⟩
    obtain ⟨assignments, hspells, hget⟩ := Assignment.readAll_eq_ok.1 hvars
    refine ⟨rfl, rfl, ⟨assignments, hspells, fun name => ?_⟩, rfl⟩
    rw [Table.get?_overlay, hget, AppConfig.writtenValue?]
  · rintro ⟨happ, hregion, ⟨assignments, hspells, henv⟩, hrest⟩
    obtain ⟨vars, hvars, hget⟩ := Assignment.readAll_of_spells hspells
    refine ⟨vars, hvars, ?_⟩
    have hwritten : c.env = base.env.overlay vars := by
      refine Table.ext_get? fun name => ?_
      rw [henv, Table.get?_overlay, hget, AppConfig.writtenValue?]
    rw [hrest, happ, hregion, hwritten]

theorem withOptions_eq_error {e : ConfigError} :
    base.withOptions o = .error e ↔ ∃ fault, FirstFault o.env fault ∧ e = .env fault := by
  simp only [← Assignment.readAll_eq_error, AppConfig.withOptions]
  cases Assignment.readAll o.env with
  | error fault => simp [Except.mapError, bind, Except.bind, eq_comm]
  | ok vars => simp [Except.mapError, bind, Except.bind, pure, Except.pure]

theorem toResult_eq_ok {v : Validation} : v.toResult = .ok () ↔ v.errors = [] := by
  simp [Validation.toResult, Validation.isValid]

theorem errors_of_toResult {v : Validation} {e : ConfigError} (h : v.toResult = .error e) :
    v.errors ≠ [] ∧ e = .invalid v.errors := by
  rw [Validation.toResult] at h
  split at h
  · cases h
  · next hvalid =>
    cases h
    exact ⟨by simpa [Validation.isValid] using hvalid, rfl⟩

theorem settle_iff_sound : settle o base = .ok c ↔ Overlaid o base c ∧ Sound c := by
  rw [settle_eq_ok, withOptions_iff_overlaid, toResult_eq_ok]
  refine and_congr_right fun hoverlaid => AppConfig.errors_eq_nil ?_
  rw [hoverlaid.app]
  exact Option.some_ne_none _

theorem failing_of_settle {e : ConfigError} (h : settle o base = .error e) :
    Failing o (.ok base) e := by
  cases hconfig : base.withOptions o with
  | error fault =>
    rw [settle, hconfig] at h
    cases h
    obtain ⟨fault, hfault, rfl⟩ := withOptions_eq_error.1 hconfig
    exact .env hfault
  | ok c =>
    have hoverlaid := withOptions_iff_overlaid.1 hconfig
    have happ : c.app ≠ none := by
      rw [hoverlaid.app]
      exact Option.some_ne_none _
    cases hvalid : c.validate.toResult with
    | error found =>
      rw [settle, hconfig] at h
      simp only [bind, Except.bind, hvalid] at h
      cases h
      obtain ⟨hne, rfl⟩ := errors_of_toResult hvalid
      exact .invalid hoverlaid hne fun problem => AppConfig.mem_errors happ
    | ok u =>
      rw [settle_eq_ok.2 ⟨hconfig, hvalid⟩] at h
      cases h

/-! ## In a world -/

section World

variable {ω : Type} (w : World Deploy ω) (state : ω) (console : Console) (o : DeployOptions)
  (localConfig : Option AppConfig)

/-- A deploy has the config it starts with, or asks the control plane for it. The config it comes
to is that one with the wishes of the deploy written over it, if there is one, the wishes can be
read and the outcome is sound; otherwise there is none, and the error tells the first step that
failed. -/
theorem resolution_all_or_nothing :
    ∃ base, Started o.app localConfig
        (exchanges (Plan.run w (resolveConfig console o localConfig).run state).1) base ∧
      (∀ c, (Plan.run w (resolveConfig console o localConfig).run state).2.1 = .ok c ↔
        ∃ b, base = .ok b ∧ Overlaid o b c ∧ Sound c) ∧
      ∀ e, (Plan.run w (resolveConfig console o localConfig).run state).2.1 = .error e →
        Failing o base e := by
  obtain ⟨base, hstarted, hresult⟩ := runs_resolveConfig.1
    (Plan.runs_run w (resolveConfig console o localConfig).run state)
  refine ⟨base, hstarted, ?_, ?_⟩
  · intro c
    rw [hresult]
    cases base with
    | error e => simp [Except.bind]
    | ok b => simp [Except.bind, settle_iff_sound]
  · intro e h
    rw [hresult] at h
    cases base with
    | error found =>
      cases h
      exact .remote e
    | ok b => exact failing_of_settle h

end World

end AppDeploy.Deploy
