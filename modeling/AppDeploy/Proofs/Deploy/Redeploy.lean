import AppDeploy.Proofs.Config.Stored
import AppDeploy.Proofs.Deploy.ErrorKind
import AppDeploy.Proofs.Deploy.Payload
import AppDeploy.Proofs.Plan.Lockstep

/-!
# Deploying again what the control plane keeps

The control plane keeps the definition of the last release, and a deploy without a config of its
own starts with what is read from it (`Keeps`). Settling on that config leads back to the same
definition (`settle_stored`), so that a redeploy with the same wishes is a fixed point
(`redeploy_sends_same_definition`). The primary region that a deploy told its app is part of the
definition, and counts as set from then on: another region that is wished for later is not told
(`redeploy_keeps_told_region`).
-/

namespace AppDeploy.Deploy

variable {ω : Type} {w : World Deploy ω} {state : ω} {console : Console} {files : Files}
  {o : DeployOptions} {localConfig : Option AppConfig} {base config stored : AppConfig}

/-! ## Settling on a stored config -/

/-- A config that a deploy has settled on, stored and settled on again with the same wishes,
gives the same definition. -/
theorem settle_stored (h : settle o base = .ok config) :
    ∃ again, settle o config.tellPrimaryRegion.stored = .ok again ∧
      again.tellPrimaryRegion.definition = config.tellPrimaryRegion.definition := by
  obtain ⟨-, hvalid⟩ := settled_of_settle h
  obtain ⟨vars, hvars, hconfig⟩ := AppConfig.withOptions_eq_ok.1 (settle_eq_ok.1 h).1
  have hregion : o.wantedRegion.getD config.tellPrimaryRegion.primaryRegion =
      config.tellPrimaryRegion.primaryRegion := by
    rw [AppConfig.primaryRegion_tellPrimaryRegion, hconfig]
    cases o.wantedRegion <;> rfl
  have henv : (config.tellPrimaryRegion.rewritten o.app vars).tellPrimaryRegion.env =
      config.tellPrimaryRegion.env :=
    AppConfig.env_tellPrimaryRegion_rewritten (AppConfig.primaryRegion_tellPrimaryRegion config)
      (by rw [hconfig]) rfl
  have hkept : ∀ name, vars.get? name ≠ none → config.tellPrimaryRegion.env.get? name ≠ none := by
    intro name hname
    rw [AppConfig.get?_tellPrimaryRegion]
    split
    · nofun
    · rw [hconfig, Table.get?_overlay]
      intro hnone
      exact hname (Option.or_eq_none_iff.1 hnone).1
  generalize config.tellPrimaryRegion = told at hvalid hregion henv hkept ⊢
  have hagain : told.stored.withOptions o = .ok (told.rewritten o.app vars) :=
    AppConfig.withOptions_eq_ok.2 ⟨vars, hvars, by rw [AppConfig.stored, hregion]; rfl⟩
  refine ⟨told.rewritten o.app vars, settle_eq_ok.2 ⟨hagain, ?valid⟩, ?definition⟩
  case valid =>
    rw [Validation.toResult, Validation.isValid, AppConfig.errors_rewritten hvalid hkept]
    rfl
  case definition =>
    rw [AppConfig.tellPrimaryRegion_eq, henv]
    rfl

/-! ## Releases -/

/-- A release that a deploy creates has the definition of the config that is settled on. -/
theorem definition_of_createRelease {release : NewRelease} {answer : Except ApiError CreatedRelease}
    (h : ⟨.createRelease release, answer⟩ ∈ callsIn w state console files o localConfig) :
    ∃ base config, Base o.app (callsIn w state console files o localConfig) localConfig base ∧
      settle o base = .ok config ∧
      release.definition = some config.tellPrimaryRegion.definition := by
  obtain ⟨before, after, hcalls⟩ := List.append_of_mem h
  have hcourse := course_of_run w state console files o localConfig
  rw [hcalls] at hcourse
  have hbackend : Request.backend? (.createRelease release) = some .releases := rfl
  obtain ⟨-, config, app, image, second, dispatched, hprepared, hdispatch, hx⟩ :=
    handover_of_course hcourse hbackend
  obtain ⟨base, hbase, hsettle⟩ := hprepared.settled
  refine ⟨base, config, ?_, hsettle, ?_⟩
  · rw [hcalls]
    exact hbase.mono (List.subset_append_left ..)
  · cases hdispatch with
    | releases hreleased =>
      rcases created_or_wait_of_released hreleased hx with hrequest | hwait
      · cases hrequest
        rfl
      · cases hwait

/-- The control plane keeps a config for an app: it says so whenever it is asked. -/
def Keeps (w : World Deploy ω) (app : AppName) (stored : AppConfig) : Prop :=
  ∀ state, (w.answer (.openConfig app) state).1 = .ok () ∧
    (w.answer (.fetchConfig app) state).1 = .ok stored

/-- A deploy without a config of its own starts with the one that is kept. -/
theorem base_of_keeps (hkeeps : Keeps w o.app stored)
    (h : Base o.app (callsIn w state console files o none) none base) : base = stored := by
  cases h with
  | fetched _ hfetch =>
    obtain ⟨between, hanswer⟩ := Plan.answer_of_run w _ state _ hfetch
    rw [(hkeeps between).2] at hanswer
    exact Except.ok.inj hanswer

theorem started_of_keeps {trace : List (Exchange Deploy)} {found : Except ConfigError AppConfig}
    (hkeeps : Keeps w o.app stored) (h : Started o.app none trace found)
    (hanswers : ∀ x ∈ trace, ∃ between, x.answer = (w.answer x.request between).1) :
    found = .ok stored := by
  cases h with
  | unopened e =>
    obtain ⟨between, hanswer⟩ := hanswers _ (List.mem_singleton_self _)
    rw [(hkeeps between).1] at hanswer
    cases hanswer
  | fetched answer =>
    obtain ⟨between, hanswer⟩ := hanswers ⟨.fetchConfig o.app, answer⟩ (by simp)
    rw [(hkeeps between).2] at hanswer
    obtain rfl : answer = .ok stored := hanswer
    rfl

/-- Where the control plane keeps a config, what is resolved is what is settled on with it. -/
theorem resolveConfig_of_keeps (hkeeps : Keeps w o.app stored) :
    (Plan.run w (resolveConfig console o none).run state).2.1 = settle o stored := by
  obtain ⟨found, hstart, hresult⟩ := runs_resolveConfig.1 (Plan.runs_run w _ state)
  have hfound := started_of_keeps hkeeps hstart (Plan.answer_of_run w _ state)
  rw [hfound] at hresult
  exact hresult

/-- A deploy does not fail for its config if the control plane keeps one that can be settled
on. -/
theorem outcome_ne_config_of_keeps (hkeeps : Keeps w o.app stored)
    (hsettle : settle o stored = .ok config) (e : ConfigError) :
    outcomeIn w state console files o none ≠ .error (.config e) := by
  have hcourse := course_of_run w state console files o none
  have hanswers := Plan.answer_of_run w (run console files o none).run state
  change ∀ x ∈ callsIn w state console files o none, _ at hanswers
  generalize callsIn w state console files o none = calls at hcourse hanswers
  generalize outcomeIn w state console files o none = result at hcourse
  rintro rfl
  generalize hresult : (Except.error (.config e) : Except DeployError Report) = result at hcourse
  cases hcourse with
  | unresolved hstart he =>
    rw [started_of_keeps hkeeps hstart hanswers] at he
    cases hsettle.symm.trans he
  | unknown => cases hresult
  | delivered hresolved hdelivered =>
    cases hdelivered with
    | unfit | imageless | built => cases hresult
    | @dispatched _ _ _ dispatched hfit _ _ hdispatch =>
      cases dispatched with
      | ok u => cases hresult
      | error cause =>
        cases hresult
        obtain ⟨base, -, hc⟩ := hresolved.base
        exact (lateFailure_of_dispatched hc hfit hdispatch).kind_ne_configuration rfl

/-! ## The same wishes -/

/-- What a deploy settles on fits if what it starts with does. -/
theorem fits_of_settle (hfits : base.Fits) (h : settle o base = .ok config) :
    config.tellPrimaryRegion.Fits := by
  obtain ⟨vars, -, hconfig⟩ := AppConfig.withOptions_eq_ok.1 (settle_eq_ok.1 h).1
  rw [AppConfig.tellPrimaryRegion_eq, hconfig]
  exact ⟨hfits.build, hfits.services, hfits.checks⟩

/-- In every world, the definition of a release that a deploy creates can be read. Where the
control plane keeps what is read from it, a deploy with the same wishes and without a config of
its own resolves its config, and if it creates a release, then one with the same definition. -/
theorem redeploy_sends_same_definition {ω ω' : Type} (w : World Deploy ω) (state : ω)
    (console : Console) (files : Files) (o : DeployOptions) (localConfig : Option AppConfig)
    (hfits : ∀ base, Base o.app (callsIn w state console files o localConfig) localConfig base →
      base.Fits)
    {release : NewRelease} {answer : Except ApiError CreatedRelease}
    (hcreated : ⟨.createRelease release, answer⟩ ∈ callsIn w state console files o localConfig) :
    ∃ definition stored, release.definition = some definition ∧
      Json.decodeValue AppConfig.read definition = .ok stored ∧
      ∀ (w' : World Deploy ω') (state' : ω') (console' : Console) (files' : Files),
        Keeps w' o.app stored →
        (∃ again, (Plan.run w' (resolveConfig console' o none).run state').2.1 = .ok again) ∧
        (∀ e, outcomeIn w' state' console' files' o none ≠ .error (.config e)) ∧
        ∀ release' answer',
          ⟨.createRelease release', answer'⟩ ∈ callsIn w' state' console' files' o none →
          release'.definition = some definition := by
  obtain ⟨base, config, hbase, hsettle, hdefinition⟩ := definition_of_createRelease hcreated
  have hread := (AppConfig.reads_definition (fits_of_settle (hfits base hbase) hsettle)).decodeValue
  obtain ⟨again, hagain, hsame⟩ := settle_stored hsettle
  refine ⟨_, _, hdefinition, hread, fun w' state' console' files' hkeeps => ⟨?_, ?_, ?_⟩⟩
  · exact ⟨again, (resolveConfig_of_keeps hkeeps).trans hagain⟩
  · exact outcome_ne_config_of_keeps hkeeps hagain
  · intro release' answer' hcreated'
    obtain ⟨base', config', hbase', hsettle', hdefinition'⟩ := definition_of_createRelease hcreated'
    rw [base_of_keeps hkeeps hbase', hagain] at hsettle'
    cases hsettle'
    rw [hdefinition', hsame]

namespace Example

def plainRelease : CreatedRelease :=
  ⟨⟨⟨"rel_1"⟩, 1, "ROLLING", ⟨"ev_1"⟩, "pending", none⟩, none⟩

/-- A world that keeps a config, and in which releases are created. -/
def releasesWorld (kept : AppConfig) : World Deploy Unit where
  answer q state := (match q with
    | .openConfig _ => .ok ()
    | .fetchConfig _ => .ok kept
    | .summary _ => .ok { app with platform := some .releases }
    | .machinesDefault _ => .ok false
    | .findImage _ => .ok (some image)
    | .startHeartbeat => ()
    | .buildImage _ => .ok (some image)
    | .releaseHeartbeat => ()
    | .createRelease _ => .ok plainRelease
    | .release _ _ => .error .unauthorized
    | .watchReleaseCommand _ _ => .ok ()
    | .watchDeployment _ _ => .ok ()
    | .runRollout _ => .ok (), state)

theorem keeps_releasesWorld (kept : AppConfig) (name : AppName) :
    Keeps (releasesWorld kept) name kept :=
  fun _ => ⟨rfl, rfl⟩

/-- A deploy that wishes for a region. -/
def wishing (region : String) : DeployOptions where
  app := app.name
  workingDir := "/srv/web"
  region := some region
  image := some "web:1"
  detach := true

def logging : AppConfig where
  env := .ofList [("LOG", "debug")]

/-- What a deploy with a region makes of it, if one was told. -/
def told (region value : String) : AppConfig where
  app := some app.name
  primaryRegion := region
  env := .ofList [("LOG", "debug"), ("PRIMARY_REGION", value)]

/-- Its region is told although an assignment empties the variable for it. -/
def emptied : DeployOptions :=
  { wishing "ams" with env := ["PRIMARY_REGION=", "LOG=debug"] }

theorem example_redeploy_sends_same_definition :
    ⟨.createRelease (newRelease emptied (told "ams" "ams") image), .ok plainRelease⟩ ∈
        callsIn (releasesWorld {}) () ⟨.quiet⟩ (.ofList [] []) emptied none ∧
      ∃ definition stored,
        (newRelease emptied (told "ams" "ams") image).definition = some definition ∧
        Json.decodeValue AppConfig.read definition = .ok stored ∧
        ∀ release' answer',
          ⟨.createRelease release', answer'⟩ ∈
            callsIn (releasesWorld stored) () ⟨.quiet⟩ (.ofList [] []) emptied none →
          release'.definition = some definition := by
  have hcreated : ⟨.createRelease (newRelease emptied (told "ams" "ams") image), .ok plainRelease⟩ ∈
      callsIn (releasesWorld {}) () ⟨.quiet⟩ (.ofList [] []) emptied none :=
    List.mem_of_getLast? rfl
  have hfits : ∀ base, Base emptied.app
      (callsIn (releasesWorld {}) () ⟨.quiet⟩ (.ofList [] []) emptied none) none base →
      base.Fits := by
    intro base hbase
    rw [base_of_keeps (keeps_releasesWorld _ _) hbase]
    exact ⟨nofun, nofun, nofun⟩
  refine ⟨hcreated, ?_⟩
  obtain ⟨definition, stored, hdefinition, hread, hagain⟩ :=
    redeploy_sends_same_definition (releasesWorld {}) () ⟨.quiet⟩ (.ofList [] []) emptied none
      hfits hcreated
  exact ⟨definition, stored, hdefinition, hread,
    (hagain (releasesWorld stored) () ⟨.quiet⟩ (.ofList [] []) (keeps_releasesWorld _ _)).2.2⟩

end Example

/-! ## Another region -/

/-- A deploy writes the variable of the primary region itself. -/
def WritesRegion (o : DeployOptions) : Prop :=
  ∃ text ∈ o.env, ∃ value,
    Assignment.ofText text = .ok ⟨AppConfig.primaryRegionVariable, value⟩

theorem last?_eq_none {texts : List String} {assignments : List Assignment} {name : String}
    (hread : Assignment.ReadAs texts assignments)
    (hnot : ∀ text ∈ texts, ∀ value, Assignment.ofText text ≠ .ok ⟨name, value⟩) :
    Assignment.last? name assignments = none := by
  induction hread with
  | nil => rfl
  | @cons text a _ _ ha _ ih =>
    obtain ⟨htext, hrest⟩ := List.forall_mem_cons.1 hnot
    have hne : a.name ≠ name := by
      rintro rfl
      exact htext a.value ha
    rw [Assignment.last?_cons, ih hrest, if_neg hne]
    rfl

/-- A deploy that wishes for a region, and writes no variable for it, has its app told that
region, unless the app was told one before. -/
theorem told_of_settle {region : String} (hregion : o.region = some region) (hne : region ≠ "")
    (hwrites : ¬WritesRegion o) (hsettle : settle o base = .ok config) :
    config.tellPrimaryRegion.primaryRegion = region ∧
      config.tellPrimaryRegion.env.get? AppConfig.primaryRegionVariable =
        if base.setsPrimaryRegion then base.env.get? AppConfig.primaryRegionVariable
        else some region := by
  obtain ⟨hsettled, -⟩ := settled_of_settle hsettle
  obtain ⟨assignments, hread, henv⟩ := hsettled.env
  have hprimary : config.tellPrimaryRegion.primaryRegion = region := by
    have hpresent : present (some region) = some region := by simp [present, Option.filter, hne]
    rw [hsettled.primaryRegion, DeployOptions.wantedRegion, hregion, hpresent]
    rfl
  have hwritten : base.writtenValue? assignments AppConfig.primaryRegionVariable =
      base.env.get? AppConfig.primaryRegionVariable := by
    rw [AppConfig.writtenValue?, last?_eq_none hread fun text htext value htold =>
      hwrites ⟨text, htext, value, htold⟩]
    rfl
  refine ⟨hprimary, ?_⟩
  rw [henv, hwritten, hprimary, AppConfig.setsPrimaryRegion]
  simp only [← AppConfig.present_eq_none]
  cases present (base.env.get? AppConfig.primaryRegionVariable) with
  | none => simp [hne]
  | some value => simp

/-- What a definition says about the primary region, and what it tells the app. -/
theorem fields_of_definition {c : AppConfig} (hne : c.primaryRegion ≠ "") :
    c.definition.field? "primary_region" = some (.str c.primaryRegion) ∧
      (c.definition.field? "env").bind (Json.field? AppConfig.primaryRegionVariable) =
        (c.env.get? AppConfig.primaryRegionVariable).map .str := by
  have hfield : ∀ name, c.definition.field? name = (Table.ofList c.definitionFields).get? name :=
    fun _ => rfl
  rw [hfield, hfield]
  constructor
  · simp [AppConfig.writtenRegion?, hne]
  · have henv : (Table.ofList c.definitionFields).get? "env" = some (.ofTexts c.env) := by simp
    rw [henv]
    exact Table.get?_map Json.str c.env AppConfig.primaryRegionVariable

/-- In every world, a deploy that wishes for a region tells it to an app that was told none. Where
the control plane keeps what is read from the definition, a deploy that wishes for another region
has that one as its primary region, and still tells the app the first. -/
theorem redeploy_keeps_told_region {ω ω' : Type} (w : World Deploy ω) (state : ω)
    (console : Console) (files : Files) (o₁ o₂ : DeployOptions) (localConfig : Option AppConfig)
    {r₁ r₂ : String} (hregion₁ : o₁.region = some r₁) (hregion₂ : o₂.region = some r₂)
    (hne₁ : r₁ ≠ "") (hne₂ : r₂ ≠ "") (hwrites₁ : ¬WritesRegion o₁) (hwrites₂ : ¬WritesRegion o₂)
    (hbase : ∀ base, Base o₁.app (callsIn w state console files o₁ localConfig) localConfig base →
      base.Fits ∧ base.setsPrimaryRegion = false)
    {release : NewRelease} {answer : Except ApiError CreatedRelease}
    (hcreated : ⟨.createRelease release, answer⟩ ∈ callsIn w state console files o₁ localConfig) :
    ∃ definition stored, release.definition = some definition ∧
      Json.decodeValue AppConfig.read definition = .ok stored ∧
      ∀ (w' : World Deploy ω') (state' : ω') (console' : Console) (files' : Files),
        Keeps w' o₂.app stored → ∀ release' answer',
          ⟨.createRelease release', answer'⟩ ∈ callsIn w' state' console' files' o₂ none →
          ∃ definition', release'.definition = some definition' ∧
            definition'.field? "primary_region" = some (.str r₂) ∧
            (definition'.field? "env").bind (Json.field? AppConfig.primaryRegionVariable) =
              some (.str r₁) := by
  obtain ⟨base, config, hstart, hsettle, hdefinition⟩ := definition_of_createRelease hcreated
  obtain ⟨hfits, hunset⟩ := hbase base hstart
  obtain ⟨-, htold⟩ := told_of_settle hregion₁ hne₁ hwrites₁ hsettle
  rw [hunset] at htold
  have hread := (AppConfig.reads_definition (fits_of_settle hfits hsettle)).decodeValue
  refine ⟨_, _, hdefinition, hread, fun w' state' console' files' hkeeps release' answer' hx => ?_⟩
  obtain ⟨base', config', hstart', hsettle', hdefinition'⟩ := definition_of_createRelease hx
  rw [base_of_keeps hkeeps hstart'] at hsettle'
  obtain ⟨hprimary, henv⟩ := told_of_settle hregion₂ hne₂ hwrites₂ hsettle'
  -- The variable that the first deploy told counts as one that was set.
  have htold' : config.tellPrimaryRegion.stored.env.get? AppConfig.primaryRegionVariable =
      some r₁ := htold
  have hset : config.tellPrimaryRegion.stored.setsPrimaryRegion = true := by
    rw [AppConfig.setsPrimaryRegion, htold']
    simp [present, Option.filter, hne₁]
  rw [hset, if_pos rfl, htold'] at henv
  obtain ⟨hfield, hvariable⟩ := fields_of_definition (hprimary ▸ hne₂)
  exact ⟨_, hdefinition', by rw [hfield, hprimary], by rw [hvariable, henv]; rfl⟩

namespace Example

theorem example_redeploy_keeps_told_region :
    ∃ definition stored,
      (newRelease (wishing "ams") (told "ams" "ams") image).definition = some definition ∧
      Json.decodeValue AppConfig.read definition = .ok stored ∧
      ∀ release' answer',
        ⟨.createRelease release', answer'⟩ ∈
          callsIn (releasesWorld stored) () ⟨.quiet⟩ (.ofList [] []) (wishing "fra") none →
        ∃ definition', release'.definition = some definition' ∧
          definition'.field? "primary_region" = some (.str "fra") ∧
          (definition'.field? "env").bind (Json.field? AppConfig.primaryRegionVariable) =
            some (.str "ams") := by
  have hbase : ∀ base, Base (wishing "ams").app
      (callsIn (releasesWorld logging) () ⟨.quiet⟩ (.ofList [] []) (wishing "ams") none) none base →
      base.Fits ∧ base.setsPrimaryRegion = false := by
    intro base hbase
    rw [base_of_keeps (keeps_releasesWorld _ _) hbase]
    exact ⟨⟨nofun, nofun, nofun⟩, rfl⟩
  have hwrites : ∀ region, ¬WritesRegion (wishing region) := by
    rintro region ⟨text, htext, -⟩
    cases htext
  have hcreated : ⟨.createRelease (newRelease (wishing "ams") (told "ams" "ams") image),
      .ok plainRelease⟩ ∈
      callsIn (releasesWorld logging) () ⟨.quiet⟩ (.ofList [] []) (wishing "ams") none :=
    List.mem_of_getLast? rfl
  obtain ⟨definition, stored, hdefinition, hread, hagain⟩ :=
    redeploy_keeps_told_region (releasesWorld logging) () ⟨.quiet⟩ (.ofList [] []) (wishing "ams")
      (wishing "fra") none rfl rfl (by decide) (by decide) (hwrites "ams") (hwrites "fra") hbase
      hcreated
  exact ⟨definition, stored, hdefinition, hread,
    hagain (releasesWorld stored) () ⟨.quiet⟩ (.ofList [] []) (keeps_releasesWorld _ _)⟩

/-- An app that is deployed to one region and then to another is still told the first: the
second definition has the new primary region, and the old one among the variables. -/
theorem told_region_outlives_override :
    ⟨.createRelease (newRelease (wishing "ams") (told "ams" "ams") image), .ok plainRelease⟩ ∈
        callsIn (releasesWorld logging) () ⟨.quiet⟩ (.ofList [] []) (wishing "ams") none ∧
      logging.setsPrimaryRegion = false ∧
      Json.decodeValue AppConfig.read (told "ams" "ams").definition =
        .ok (told "ams" "ams").stored ∧
      ⟨.createRelease (newRelease (wishing "fra") (told "fra" "ams") image), .ok plainRelease⟩ ∈
        callsIn (releasesWorld (told "ams" "ams").stored) () ⟨.quiet⟩ (.ofList [] [])
          (wishing "fra") none ∧
      ((told "fra" "ams").definition.field? "env").bind
        (Json.field? AppConfig.primaryRegionVariable) ≠ some (.str "fra") := by
  have hfits : (told "ams" "ams").Fits := ⟨nofun, nofun, nofun⟩
  refine ⟨List.mem_of_getLast? rfl, rfl, (AppConfig.reads_definition hfits).decodeValue,
    List.mem_of_getLast? rfl, ?_⟩
  rw [(fields_of_definition (by decide)).2]
  intro hvariable
  exact absurd (Json.str.inj (Option.some.inj hvariable)) (by decide)

end Example

end AppDeploy.Deploy
