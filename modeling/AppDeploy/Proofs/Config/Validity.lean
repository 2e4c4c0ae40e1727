import AppDeploy.Config.Validation
import AppDeploy.Proofs.Config.Settled

/-!
# What makes a config valid

`Sound` says what a config has to be like to be deployed, rule by rule, and `Violation` what can
be wrong with it, in the words of its error. The errors of a config with an app name are its
violations, all of them and nothing else (`mem_errors`), so that it has none exactly if it is
sound (`errors_eq_nil`).
-/

namespace AppDeploy.AppConfig

variable {c : AppConfig}

/-- A small letter or a digit, both of ASCII. -/
def RegionChar (ch : Char) : Prop :=
  ('a' ≤ ch ∧ ch ≤ 'z') ∨ ('0' ≤ ch ∧ ch ≤ '9')

/-- A name that is not empty and has no equals sign and no blank. -/
def VariableName (name : String) : Prop :=
  name ≠ "" ∧ ∀ ch ∈ name.toList, ch ≠ '=' ∧ Text.isBlank ch = false

/-- A name that is not empty and not made of blanks only. -/
def ArgName (name : String) : Prop :=
  ∃ ch ∈ name.toList, Text.isBlank ch = false

/-- A strategy that is known, however its letters are written and with or without hyphens and
underscores. -/
def StrategyName (strategy : String) : Prop :=
  plainStrategy strategy ∈ ["rolling", "immediate", "canary", "bluegreen"]

/-- A config that can be deployed. -/
structure Sound (c : AppConfig) : Prop where
  region : ∀ ch ∈ c.primaryRegion.toList, RegionChar ch
  env : ∀ name ∈ c.env.keys, VariableName name
  args : ∀ build, c.build = some build → ∀ name ∈ build.args.keys, ArgName name
  strategy : ∀ deploy strategy, c.deploy = some deploy → deploy.strategy = some strategy →
    strategy ≠ "" → StrategyName strategy

/-- What is wrong with a config, and how it is told. -/
inductive Violation (c : AppConfig) : String → Prop where
  | region {ch : Char} (hch : ch ∈ c.primaryRegion.toList) (h : ¬RegionChar ch) :
      Violation c s!"primary_region '{c.primaryRegion}' must be a lowercase region code"
  | env {name : String} (hname : name ∈ c.env.keys) (h : ¬VariableName name) :
      Violation c s!"env key '{name}' is not a valid variable name"
  | args {build : BuildConfig} {name : String} (hbuild : c.build = some build)
      (hname : name ∈ build.args.keys) (h : ¬ArgName name) :
      Violation c "build args cannot have empty names"
  | strategy {deploy : DeployConfig} {strategy : String} (hdeploy : c.deploy = some deploy)
      (hstrategy : deploy.strategy = some strategy) (hne : strategy ≠ "")
      (h : ¬StrategyName strategy) :
      Violation c (s!"unknown deploy strategy '{strategy}', expected one of: " ++
        "rolling, immediate, canary, bluegreen")

theorem sound_iff : Sound c ↔ ∀ problem, ¬Violation c problem := by
  constructor
  · rintro ⟨region, env, args, strategy⟩ problem violation
    cases violation with
    | region hch h => exact h (region _ hch)
    | env hname h => exact h (env _ hname)
    | args hbuild hname h => exact h (args _ hbuild _ hname)
    | strategy hdeploy hstrategy hne h => exact h (strategy _ _ hdeploy hstrategy hne)
  · intro h
    refine ⟨fun ch hch => ?_, fun name hname => ?_, fun build hbuild name hname => ?_,
      fun deploy strategy hdeploy hstrategy hne => ?_⟩
    · exact Classical.not_not.1 fun hbad => h _ (.region hch hbad)
    · exact Classical.not_not.1 fun hbad => h _ (.env hname hbad)
    · exact Classical.not_not.1 fun hbad => h _ (.args hbuild hname hbad)
    · exact Classical.not_not.1 fun hbad => h _ (.strategy hdeploy hstrategy hne hbad)

/-! ## The rules as they are checked -/

theorem isRegionChar_iff {ch : Char} : (ch.isLower || ch.isDigit) = true ↔ RegionChar ch := by
  show ((decide ('a' ≤ ch) && decide (ch ≤ 'z')) || (decide ('0' ≤ ch) && decide (ch ≤ '9'))) =
    true ↔ RegionChar ch
  simp [RegionChar]

theorem isRegion_iff {region : String} :
    isRegion region = true ↔ ∀ ch ∈ region.toList, RegionChar ch := by
  simp only [isRegion, List.all_eq_true, isRegionChar_iff]

theorem isVariableName_iff {name : String} : isVariableName name = true ↔ VariableName name := by
  simp [isVariableName, VariableName]

theorem isAllBlank_iff {name : String} : Text.isAllBlank name = true ↔ ¬ArgName name := by
  simp [Text.isAllBlank, ArgName]

theorem isKnown_iff {strategy : String} :
    knownStrategies.contains (plainStrategy strategy) = true ↔ StrategyName strategy :=
  List.contains_iff_mem

theorem deployStrategy_eq_some {strategy : String} :
    c.deployStrategy = some strategy ↔ ∃ deploy, c.deploy = some deploy ∧
      deploy.strategy = some strategy ∧ strategy ≠ "" := by
  simp [deployStrategy, present, Option.bind_eq_some_iff]

theorem mem_regionErrors {problem : String} : problem ∈ c.regionErrors ↔
    (∃ ch ∈ c.primaryRegion.toList, ¬RegionChar ch) ∧
      problem = s!"primary_region '{c.primaryRegion}' must be a lowercase region code" := by
  rw [regionErrors]
  split
  · next h => simpa using fun ch hch hbad => absurd (isRegion_iff.1 h ch hch) hbad
  · next h =>
    have hbad : ∃ ch ∈ c.primaryRegion.toList, ¬RegionChar ch := by
      simpa using mt isRegion_iff.2 h
    rw [List.mem_singleton, and_iff_right hbad]

theorem mem_variableErrors {problem : String} : problem ∈ c.variableErrors ↔
    ∃ name ∈ c.env.keys, ¬VariableName name ∧
      problem = s!"env key '{name}' is not a valid variable name" := by
  have hbad : ∀ name, (!isVariableName name) = true ↔ ¬VariableName name := by
    intro name
    rw [← isVariableName_iff, Bool.not_eq_true', Bool.not_eq_true]
  simp only [variableErrors, List.mem_map, List.mem_filter, hbad, and_assoc]
  simp only [eq_comm]

theorem mem_buildArgErrors {problem : String} : problem ∈ c.buildArgErrors ↔
    (∃ build, c.build = some build ∧ ∃ name ∈ build.args.keys, ¬ArgName name) ∧
      problem = "build args cannot have empty names" := by
  have hany : c.build.any (fun b => b.args.keys.any Text.isAllBlank) = true ↔
      ∃ build, c.build = some build ∧ ∃ name ∈ build.args.keys, ¬ArgName name := by
    simp only [Option.any_eq_true, List.any_eq_true, isAllBlank_iff]
  rw [buildArgErrors, ← hany]
  split
  · next h => rw [List.mem_singleton, and_iff_right h]
  · next h => simp [h]

theorem mem_strategyErrors {problem : String} : problem ∈ c.strategyErrors ↔
    ∃ strategy, c.deployStrategy = some strategy ∧ ¬StrategyName strategy ∧
      problem = s!"unknown deploy strategy '{strategy}', expected one of: " ++
        "rolling, immediate, canary, bluegreen" := by
  rw [strategyErrors]
  cases c.deployStrategy with
  | none => simp
  | some strategy =>
    have hknown : ", ".intercalate knownStrategies = "rolling, immediate, canary, bluegreen" := by
      decide
    simp only [hknown, Option.some.injEq, exists_eq_left', ← isKnown_iff]
    split
    · next h => simp only [h, not_true_eq_false, false_and, List.not_mem_nil]
    · next h =>
      rw [List.mem_singleton, and_iff_right h]
      rfl

/-- The errors of a config with an app name are what is wrong with it. -/
theorem mem_errors (happ : c.app ≠ none) {problem : String} :
    problem ∈ c.validate.errors ↔ Violation c problem := by
  have hname : c.nameErrors = [] := if_neg (by simpa using happ)
  simp only [validate, hname, List.nil_append, List.mem_append, mem_regionErrors,
    mem_variableErrors, mem_buildArgErrors, mem_strategyErrors, deployStrategy_eq_some]
  constructor
  · rintro (((⟨⟨ch, hch, h⟩, rfl⟩ | ⟨name, hname, h, rfl⟩) |
      ⟨⟨build, hbuild, name, hname, h⟩, rfl⟩) |
      ⟨strategy, ⟨deploy, hdeploy, hstrategy, hne⟩, h, rfl⟩)
    · exact .region hch h
    · exact .env hname h
    · exact .args hbuild hname h
    · exact .strategy hdeploy hstrategy hne h
  · intro violation
    cases violation with
    | region hch h => exact .inl (.inl (.inl ⟨⟨_, hch, h⟩, rfl⟩))
    | env hname h => exact .inl (.inl (.inr ⟨_, hname, h, rfl⟩))
    | args hbuild hname h => exact .inl (.inr ⟨⟨_, hbuild, _, hname, h⟩, rfl⟩)
    | strategy hdeploy hstrategy hne h =>
      exact .inr ⟨_, ⟨_, hdeploy, hstrategy, hne⟩, h, rfl⟩

theorem errors_eq_nil (happ : c.app ≠ none) : c.validate.errors = [] ↔ Sound c := by
  rw [List.eq_nil_iff_forall_not_mem, sound_iff]
  simp only [mem_errors happ]

end AppDeploy.AppConfig
