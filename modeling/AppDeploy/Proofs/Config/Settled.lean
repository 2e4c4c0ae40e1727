import AppDeploy.Config.Encode
import AppDeploy.Config.Machines
import AppDeploy.Deploy.Resolution
import AppDeploy.Proofs.Assignment

/-!
# The config that is deployed

What goes to a platform is the config that a deploy starts with, the wishes of the deploy
written over it, and with its primary region among its variables. `Settled` says so field by
field. Telling the primary region changes one variable only, and so neither what is right
with a config nor what its image is made of.
-/

namespace AppDeploy.AppConfig

variable {o : DeployOptions} {base c : AppConfig}

/-! ## The wishes of a deploy -/

theorem withOptions_eq_ok :
    base.withOptions o = .ok c ↔ ∃ vars, Assignment.readAll o.env = .ok vars ∧
      c = { base with
        app := some o.app
        primaryRegion := o.wantedRegion.getD base.primaryRegion
        env := base.env.overlay vars } := by
  rw [withOptions, Assignment.readAll_bind_eq_ok]
  simp [setVariables, pure, Except.pure, eq_comm]

/-! ## The primary region -/

theorem present_eq_none {value : Option String} :
    present value = none ↔ value = none ∨ value = some "" := by
  rw [present, Option.filter_eq_none_iff]
  constructor
  · intro h
    cases value with
    | none => exact .inl rfl
    | some text => simpa using h
  · rintro (rfl | rfl) <;> simp

/-- Nothing but the variables changes. -/
theorem tellPrimaryRegion_eq (c : AppConfig) :
    c.tellPrimaryRegion = { c with env := c.tellPrimaryRegion.env } := by
  rw [tellPrimaryRegion]
  split
  · rfl
  · rfl

theorem primaryRegion_tellPrimaryRegion (c : AppConfig) :
    c.tellPrimaryRegion.primaryRegion = c.primaryRegion := by
  rw [tellPrimaryRegion_eq]

theorem get?_tellPrimaryRegion (c : AppConfig) (name : String) :
    c.tellPrimaryRegion.env.get? name =
      if name = primaryRegionVariable ∧ c.primaryRegion ≠ "" ∧
          (c.env.get? name = none ∨ c.env.get? name = some "")
      then some c.primaryRegion else c.env.get? name := by
  simp only [← present_eq_none]
  rw [tellPrimaryRegion, setsPrimaryRegion]
  -- There is a region and it is not told yet: only then is a variable written, and it is the one
  -- that is looked up in the last case.
  by_cases hregion : c.primaryRegion = ""
  · simp [hregion]
  · cases hset : present (c.env.get? primaryRegionVariable) with
    | none =>
      rw [if_neg (by simpa using hregion), setVariable, Table.get?_insert]
      by_cases hname : name = primaryRegionVariable
      · subst hname
        simp [hregion, hset]
      · simp [hname]
    | some value =>
      rw [if_pos (by simp), if_neg]
      intro hrun
      obtain ⟨rfl, -, hnone⟩ := hrun
      rw [hset] at hnone
      cases hnone

theorem ensureMachines_tellPrimaryRegion (c : AppConfig) :
    c.tellPrimaryRegion.ensureMachines = c.ensureMachines := by
  rw [tellPrimaryRegion_eq]
  rfl

theorem variableErrors_tellPrimaryRegion (h : c.variableErrors = []) :
    c.tellPrimaryRegion.variableErrors = [] := by
  rw [tellPrimaryRegion]
  split
  · exact h
  · rw [variableErrors, List.map_eq_nil_iff, List.filter_eq_nil_iff] at h ⊢
    intro name hname
    rcases Table.mem_keys_insert hname with rfl | hold
    · decide
    · exact h name hold

/-- A valid config is still valid when it tells its primary region. -/
theorem errors_tellPrimaryRegion (h : c.validate.errors = []) :
    c.tellPrimaryRegion.validate.errors = [] := by
  simp only [validate, List.append_eq_nil_iff] at h ⊢
  obtain ⟨⟨⟨⟨hname, hregion⟩, hvariable⟩, hargs⟩, hstrategy⟩ := h
  have htold := variableErrors_tellPrimaryRegion hvariable
  rw [tellPrimaryRegion_eq] at htold ⊢
  exact ⟨⟨⟨⟨hname, hregion⟩, htold⟩, hargs⟩, hstrategy⟩

/-! ## Both -/

/-- The value that a name has among the variables of a base config, with assignments written
over them. -/
def writtenValue? (base : AppConfig) (assignments : List Assignment) (name : String) :
    Option String :=
  (Assignment.last? name assignments).or (base.env.get? name)

/-- A config is what becomes of a base config in a deploy. -/
structure Settled (o : DeployOptions) (base config : AppConfig) : Prop where
  app : config.app = some o.app
  /-- A region that the deploy wishes for replaces that of the base config. -/
  primaryRegion : config.primaryRegion = o.wantedRegion.getD base.primaryRegion
  /-- The assignments of the deploy are written over the variables of the base config, and
  the primary region is told unless it is already, or there is none. -/
  env : ∃ assignments, Assignment.ReadAs o.env assignments ∧ ∀ name, config.env.get? name =
    if name = primaryRegionVariable ∧ config.primaryRegion ≠ "" ∧
        (base.writtenValue? assignments name = none ∨
          base.writtenValue? assignments name = some "")
    then some config.primaryRegion else base.writtenValue? assignments name
  /-- Everything else is as in the base config. -/
  rest : config = { base with
    app := config.app, primaryRegion := config.primaryRegion, env := config.env }

theorem settled_of_withOptions (h : base.withOptions o = .ok c) :
    Settled o base c.tellPrimaryRegion := by
  obtain ⟨vars, hvars, rfl⟩ := withOptions_eq_ok.1 h
  obtain ⟨assignments, hread, hget⟩ := Assignment.get?_readAll hvars
  refine ⟨?_, primaryRegion_tellPrimaryRegion _, ⟨assignments, hread, ?_⟩, ?_⟩
  · rw [tellPrimaryRegion_eq]
  · intro name
    have hwritten : (base.env.overlay vars).get? name = base.writtenValue? assignments name := by
      rw [Table.get?_overlay, hget, writtenValue?]
    simp only [get?_tellPrimaryRegion, primaryRegion_tellPrimaryRegion, hwritten]
  · rw [tellPrimaryRegion_eq]

/-! ## The definition -/

section Fields

variable {α : Type} {field : String × Json} {name : String}

theorem name_of_mem_optional {value : Option Json} (h : field ∈ Json.optional name value) :
    field.1 = name := by
  cases value with
  | none => simp [Json.optional] at h
  | some value =>
    obtain rfl := List.mem_singleton.1 h
    rfl

theorem name_of_mem_listField {encode : α → Json} {items : List α}
    (h : field ∈ listField name encode items) : field.1 = name := by
  rw [listField] at h
  split at h
  · simp at h
  · obtain rfl := List.mem_singleton.1 h
    rfl

theorem name_of_mem_tableField {encode : α → Json} {t : Table α}
    (h : field ∈ tableField name encode t) : field.1 = name := by
  rw [tableField] at h
  split at h
  · simp at h
  · obtain rfl := List.mem_singleton.1 h
    rfl

end Fields

/-- The fields that are sent to the control plane. -/
def definitionNames : List String :=
  ["primary_region", "env", "platform", "deploy", "processes", "services", "checks"]

theorem name_of_mem_definitionFields {field : String × Json} (h : field ∈ c.definitionFields) :
    field.1 ∈ definitionNames := by
  simp only [definitionFields, List.mem_append] at h
  rcases h with (((((h | h) | h) | h) | h) | h) | h
  · split at h
    · simp at h
    · obtain rfl := List.mem_singleton.1 h
      simp [definitionNames]
  · obtain rfl := List.mem_singleton.1 h
    simp [definitionNames]
  · simp [definitionNames, name_of_mem_optional h]
  · simp [definitionNames, name_of_mem_optional h]
  · simp [definitionNames, name_of_mem_tableField h]
  · simp [definitionNames, name_of_mem_listField h]
  · simp [definitionNames, name_of_mem_tableField h]

/-- The definition of an app is its config without the fields for its name and for building. -/
theorem definition_eq (c : AppConfig) :
    ∃ fields : Table Json, c.toJson = .ofTable fields ∧
      c.definition = .ofTable ((fields.erase "app").erase "build") := by
  refine ⟨_, rfl, congrArg Json.ofTable (Table.ext_get? ?_)⟩
  intro name
  have hsent : name ∉ definitionNames → c.definitionFields.reverse.lookup name = none := by
    intro hname
    refine Table.lookup_reverse_eq_none ?_
    rintro field hfield rfl
    exact hname (name_of_mem_definitionFields hfield)
  have hlocal : ∀ {key value}, name ≠ key →
      (Json.optional key value).reverse.lookup name = none := by
    intro key value hname
    refine Table.lookup_reverse_eq_none ?_
    rintro field hfield rfl
    exact hname (name_of_mem_optional hfield)
  rw [Table.get?_erase, Table.get?_erase, Table.get?_ofList, Table.get?_ofList]
  by_cases hbuild : name = "build"
  · rw [if_pos hbuild, hsent (by simp [hbuild, definitionNames])]
  · by_cases happ : name = "app"
    · rw [if_neg hbuild, if_pos happ, hsent (by simp [happ, definitionNames])]
    · rw [if_neg hbuild, if_neg happ, List.reverse_append, List.reverse_append,
        Table.lookup_append, Table.lookup_append, textField, hlocal hbuild, hlocal happ,
        Option.or_none, Option.or_none]

end AppDeploy.AppConfig
