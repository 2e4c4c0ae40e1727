import AppDeploy.Proofs.Config.RoundTrip
import AppDeploy.Proofs.Config.Settled

/-!
# Configs that come back from the control plane

What the control plane keeps of a config has its primary region told already, and telling it
again changes nothing (`tellPrimaryRegion_idem`). With the same variables written over it once
more it tells the same (`env_tellPrimaryRegion_rewritten`), and it is as valid as it was
(`errors_rewritten`).
-/

namespace AppDeploy

namespace AppConfig

variable {base config c : AppConfig}

/-! ## Telling the primary region again -/

/-- Whether a variable is told depends on its value and the region alone. -/
theorem get?_tellPrimaryRegion_congr {name : String}
    (hregion : c.primaryRegion = config.primaryRegion)
    (hget : c.env.get? name = config.env.get? name) :
    c.tellPrimaryRegion.env.get? name = config.tellPrimaryRegion.env.get? name := by
  rw [get?_tellPrimaryRegion, get?_tellPrimaryRegion, hregion, hget]

/-- A config that tells its primary region need not be told again. -/
theorem tellPrimaryRegion_idem (c : AppConfig) :
    c.tellPrimaryRegion.tellPrimaryRegion = c.tellPrimaryRegion := by
  by_cases htold : (c.primaryRegion.isEmpty || c.setsPrimaryRegion) = true
  · have hsame : c.tellPrimaryRegion = c := if_pos htold
    rw [hsame, hsame]
  · have hset : c.tellPrimaryRegion = c.setVariable primaryRegionVariable c.primaryRegion :=
      if_neg htold
    have hregion : c.primaryRegion.isEmpty = false := by
      simp only [Bool.or_eq_true, not_or, Bool.not_eq_true] at htold
      exact htold.1
    rw [hset]
    refine if_pos ?_
    simp [setsPrimaryRegion, setVariable, present, hregion]

/-- Variables that are written a second time, after the region was told, change nothing: what is
written over the told one is told again. -/
theorem env_tellPrimaryRegion_rewritten {vars : Table String}
    (hregion : c.primaryRegion = config.primaryRegion)
    (henv : config.env = base.env.overlay vars)
    (hagain : c.env = config.tellPrimaryRegion.env.overlay vars) :
    c.tellPrimaryRegion.env = config.tellPrimaryRegion.env := by
  refine Table.ext_get? fun name => ?_
  cases hvars : vars.get? name with
  | some value =>
    refine get?_tellPrimaryRegion_congr hregion ?_
    rw [hagain, henv, Table.get?_overlay, Table.get?_overlay, hvars]
    rfl
  | none =>
    have hregion' := hregion.trans (primaryRegion_tellPrimaryRegion config).symm
    rw [← tellPrimaryRegion_idem config]
    refine get?_tellPrimaryRegion_congr hregion' ?_
    rw [hagain, Table.get?_overlay, hvars]
    rfl

/-! ## Settling on a stored config -/

theorem variableErrors_eq_nil :
    c.variableErrors = [] ↔ ∀ name, c.env.get? name ≠ none → isVariableName name = true := by
  simp only [variableErrors, List.map_eq_nil_iff, List.filter_eq_nil_iff, Table.mem_keys_iff,
    Bool.not_eq_true', Bool.not_eq_false]

/-- A stored config that an app and variables are written over. -/
def rewritten (c : AppConfig) (app : AppName) (vars : Table String) : AppConfig :=
  { c.stored with app := some app, env := c.env.overlay vars }

theorem errors_rewritten {told : AppConfig} {app : AppName} {vars : Table String}
    (hvalid : told.validate.errors = [])
    (hvars : ∀ name, vars.get? name ≠ none → told.env.get? name ≠ none) :
    (told.rewritten app vars).validate.errors = [] := by
  simp only [validate, List.append_eq_nil_iff] at hvalid ⊢
  obtain ⟨⟨⟨⟨-, hregion⟩, hvariables⟩, -⟩, hstrategy⟩ := hvalid
  refine ⟨⟨⟨⟨rfl, hregion⟩, ?_⟩, rfl⟩, hstrategy⟩
  rw [variableErrors_eq_nil] at hvariables ⊢
  intro name hname
  refine hvariables name ?_
  have hget : (told.rewritten app vars).env.get? name =
      (vars.get? name).or (told.env.get? name) := Table.get?_overlay ..
  rw [hget] at hname
  cases hwritten : vars.get? name with
  | some value => exact hvars name (by simp [hwritten])
  | none =>
    rw [hwritten] at hname
    exact hname

end AppConfig

end AppDeploy
