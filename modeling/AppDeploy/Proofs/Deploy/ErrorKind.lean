import AppDeploy.Proofs.Deploy.FirstFailure

/-!
# What the kind of a failure tells

The kind of a failure tells how far a deploy came. A failure of the configuration ends a deploy
that has only looked things up: once an image is asked for, nothing is wrong with the config any
more, and what the platforms check again holds (`ConfigurationFirst`). A failure of monitoring
ends a deploy that is under way. Of the failures that end one which is under way, only that of
looking at a release again is of another kind.
-/

namespace AppDeploy.Deploy

variable {files : Files} {o : DeployOptions} {c base config : AppConfig} {app : AppSummary}
  {platform : Platform} {image : DeploymentImage} {localConfig : Option AppConfig}
  {calls before after : List (Exchange Deploy)} {e : DeployError}

/-! ## Deploys that are under way -/

/-- Whether a call leaves a deploy under way that has not come to a good end: a release is
created, or a rollout is watched in vain. -/
def leavesUnderWay : Exchange Deploy → Bool
  | ⟨.createRelease _, .ok _⟩ => true
  | ⟨.runRollout _, .error (.watch _)⟩ => true
  | _ => false

/-- A deploy is under way after some calls. -/
def UnderWay (calls : List (Exchange Deploy)) : Prop :=
  ∃ x ∈ calls, leavesUnderWay x = true

theorem stage_of_leavesUnderWay {x : Exchange Deploy} (h : leavesUnderWay x = true) :
    x.request.stage = .handover := by
  obtain ⟨q, answer⟩ := x
  cases q with
  | createRelease => rfl
  | runRollout => rfl
  | _ => cases h

theorem not_underWay (h : ∀ y ∈ calls, y.request.stage.isLast = false) : ¬UnderWay calls := by
  rintro ⟨x, hx, hleaves⟩
  have hlast := h x hx
  rw [stage_of_leavesUnderWay hleaves] at hlast
  cases hlast

theorem underWay_append (h : ∀ y ∈ before, y.request.stage.isLast = false) :
    UnderWay (before ++ after) ↔ UnderWay after := by
  constructor
  · rintro ⟨x, hx, hleaves⟩
    rcases List.mem_append.1 hx with hx | hx
    · exact absurd ⟨x, hx, hleaves⟩ (not_underWay h)
    · exact ⟨x, hx, hleaves⟩
  · rintro ⟨x, hx, hleaves⟩
    exact ⟨x, List.mem_append_right _ hx, hleaves⟩

/-! ## Failures of the last stages -/

/-- A failure to look at a release again. -/
def RefreshFailed (e : DeployError) : Prop :=
  ∃ release cause, e = .refreshRelease release cause

theorem kind_of_refreshFailed (h : RefreshFailed e) : e.kind = .backend := by
  obtain ⟨release, cause, rfl⟩ := h
  rfl

/-- How a deploy fails that has come to a platform: under way, or turned down by the
platform. -/
inductive LateFailure (calls : List (Exchange Deploy)) (e : DeployError) : Prop where
  | unwatched (h : UnderWay calls) (hkind : e.kind = .monitoring)
  | unrefreshed (h : UnderWay calls) (hrefresh : RefreshFailed e)
  | turnedDown (h : ¬UnderWay calls) (hkind : e.kind = .backend) (hrefresh : ¬RefreshFailed e)

theorem LateFailure.kind_ne_configuration (h : LateFailure calls e) :
    e.kind ≠ .configuration := by
  cases h with
  | unwatched _ hkind => simp [hkind]
  | unrefreshed _ hrefresh => simp [kind_of_refreshFailed hrefresh]
  | turnedDown _ hkind => simp [hkind]

theorem LateFailure.underWay_iff (h : LateFailure calls e) :
    UnderWay calls ↔ e.kind = .monitoring ∨ RefreshFailed e := by
  cases h with
  | unwatched h hkind => simp [h, hkind]
  | unrefreshed h hrefresh => simp [h, hrefresh]
  | turnedDown h hkind hrefresh => simp [h, hkind, hrefresh]

theorem unrefreshed_or_unwatched {created : CreatedRelease}
    (h : CommandAwaited o.app created calls (.error e)) :
    RefreshFailed e ∨ e.kind = .monitoring := by
  generalize hresult : Except.error e = result at h
  cases h with
  | none => cases hresult
  | failed _ cause =>
    cases hresult
    exact .inr rfl
  | refreshed _ answer =>
    cases answer with
    | error cause =>
      cases hresult
      exact .inl ⟨_, cause, rfl⟩
    | ok release => cases hresult

theorem monitoring_of_releaseAwaited {release : Release}
    (h : ReleaseAwaited o.app release calls (.error e)) : e.kind = .monitoring := by
  generalize hresult : Except.error e = result at h
  cases h with
  | immediate => cases hresult
  | watched _ answer =>
    cases answer with
    | error cause =>
      cases hresult
      rfl
    | ok u => cases hresult

theorem lateFailure_of_released (h : Released o c image calls (.error e)) :
    LateFailure calls e := by
  have hcreated : ∀ created later,
      UnderWay (⟨.createRelease (newRelease o c image), .ok created⟩ :: later) :=
    fun _ _ => ⟨_, List.mem_cons_self, rfl⟩
  generalize hresult : Except.error e = result at h
  cases h with
  | refused cause =>
    cases hresult
    refine .turnedDown ?_ rfl ?_
    · simp [UnderWay, leavesUnderWay]
    · simp [RefreshFailed]
  | detached => cases hresult
  | stranded _ hcommand =>
    cases hresult
    rcases unrefreshed_or_unwatched hcommand with hrefresh | hkind
    · exact .unrefreshed (hcreated _ _) hrefresh
    · exact .unwatched (hcreated _ _) hkind
  | followed _ _ hwatch =>
    cases hresult
    exact .unwatched (hcreated _ _) (monitoring_of_releaseAwaited hwatch)

theorem lateFailure_of_dispatched (hc : settle o base = .ok config)
    (hfit : ensurePlatform config platform = .ok ())
    (h : Dispatched o config.tellPrimaryRegion app image platform calls (.error e)) :
    LateFailure calls e := by
  cases h with
  | machines h =>
    obtain ⟨rollout, answer, -, -, rfl, hresult⟩ := run_of_rolledOut hc hfit h
    rcases answer with cause | u
    · cases hresult
      cases cause with
      | watch cause => exact .unwatched ⟨_, List.mem_cons_self, rfl⟩ rfl
      | api cause =>
        refine .turnedDown ?_ rfl ?_
        · simp [UnderWay, leavesUnderWay]
        · simp [RefreshFailed]
    · cases hresult
  | releases h => exact lateFailure_of_released h

/-! ## Where a deploy fails -/

/-- How far a deploy came that fails: it has only looked things up, or it has no image, or it
has come to a platform. -/
inductive FailedAt (calls : List (Exchange Deploy)) (e : DeployError) : Prop where
  | inquiry (h : ∀ y ∈ calls, y.request.stage.isInquiry = true)
      (hkind : e.kind = .configuration ∨ e.kind = .resolution)
  | image (h : ∀ y ∈ calls, y.request.stage.isLast = false) (hkind : e.kind = .resolution)
  | platform {first second : List (Exchange Deploy)} (hcalls : calls = first ++ second)
      (hfirst : ∀ y ∈ first, y.request.stage.isLast = false) (hlate : LateFailure second e)

theorem failedAt_of_course (h : Course files o localConfig calls (.error e)) :
    FailedAt calls e := by
  generalize hresult : Except.error e = result at h
  cases h with
  | unresolved hstart =>
    cases hresult
    exact .inquiry (inquiry_of_started hstart) (.inl rfl)
  | unknown hstart _ cause =>
    cases hresult
    refine .inquiry (List.forall_mem_append.2 ⟨inquiry_of_started hstart, ?_⟩) (.inr rfl)
    exact List.forall_mem_cons.2 ⟨rfl, List.forall_mem_nil _⟩
  | delivered hresolved hdelivered =>
    cases hdelivered with
    | unfit =>
      cases hresult
      rw [List.append_nil]
      exact .inquiry (inquiry_of_resolved hresolved) (.inl rfl)
    | imageless _ himage =>
      cases hresult
      exact .image (notLast_of_obtained hresolved himage) rfl
    | built => cases hresult
    | @dispatched _ _ _ dispatched hfit himage _ hdispatch =>
      cases dispatched with
      | ok u => cases hresult
      | error cause =>
        cases hresult
        obtain ⟨base, -, hc⟩ := hresolved.base
        exact .platform (List.append_assoc ..).symm (notLast_of_obtained hresolved himage)
          (lateFailure_of_dispatched hc hfit hdispatch)

theorem kind_ne_configuration (h : FailedAt calls e) {x : Exchange Deploy} (hx : x ∈ calls)
    (hinquiry : x.request.stage.isInquiry = false) : e.kind ≠ .configuration := by
  cases h with
  | inquiry h =>
    rw [h x hx] at hinquiry
    cases hinquiry
  | image _ hkind => simp [hkind]
  | platform _ _ hlate => exact hlate.kind_ne_configuration

theorem underWay_iff (h : FailedAt calls e) :
    UnderWay calls ↔ e.kind = .monitoring ∨ RefreshFailed e := by
  -- Before the last stages a deploy is not under way, and its failure is of a kind of its own.
  have hearly : (∀ y ∈ calls, y.request.stage.isLast = false) →
      e.kind = .configuration ∨ e.kind = .resolution →
      (UnderWay calls ↔ e.kind = .monitoring ∨ RefreshFailed e) := by
    intro hcalls hkind
    have hrefresh : ¬RefreshFailed e := by
      intro hrefresh
      simp [kind_of_refreshFailed hrefresh] at hkind
    rcases hkind with hkind | hkind <;> simp [not_underWay hcalls, hkind, hrefresh]
  cases h with
  | inquiry h hkind => exact hearly (fun y hy => isLast_of_isInquiry (h y hy)) hkind
  | image h hkind => exact hearly h (.inr hkind)
  | platform hcalls hfirst hlate =>
    rw [hcalls, underWay_append hfirst]
    exact hlate.underWay_iff

/-! ## Configs that are checked again -/

/-- What is known to be found is what comes of looking for it. -/
theorem ok_of_found {all : List (Exchange Deploy)} {result : Except DeployError Report}
    {found : Except BuildError DeploymentImage} (h : Course files o localConfig all result)
    (hobtained : Obtained files o c calls found) (hsub : calls ⊆ all)
    (hfound : Found files o c all image) : found = .ok image := by
  cases hobtained with
  | named h' answer =>
    cases hfound with
    | named hname hfind =>
      cases h'.symm.trans hname
      rw [answer_unique h (hsub (List.mem_cons_self)) hfind]
      rfl
    | built hname => cases h'.symm.trans hname
  | unassembled h' he =>
    cases hfound with
    | named hname => cases h'.symm.trans hname
    | built _ hr => cases he.symm.trans hr
  | @built request h' hr answer =>
    cases hfound with
    | named hname => cases h'.symm.trans hname
    | built _ hr' hbuild =>
      cases hr.symm.trans hr'
      have hanswer : ⟨.buildImage request, answer⟩ ∈ all := hsub (by simp)
      rw [answer_unique h hanswer hbuild]
      rfl

theorem exists_image_of_found (h : Found files o c calls image) :
    ∃ y ∈ calls, y.request.stage.isInquiry = false := by
  cases h with
  | named _ hfind => exact ⟨_, hfind, rfl⟩
  | built _ _ hbuild => exact ⟨_, hbuild, rfl⟩

/-- A deploy that is prepared goes on to the platform that was chosen, with what was found. -/
theorem dispatched_of_prepared {result : Except DeployError Report}
    (h : Course files o localConfig calls result)
    (hprepared : Prepared files o localConfig calls config app platform image)
    (hbuild : o.buildOnly = false) :
    ∃ first second dispatched, calls = first ++ second ∧
      Dispatched o config.tellPrimaryRegion app image platform second dispatched := by
  have hcourse := h
  obtain ⟨base, hbase, hc⟩ := hprepared.settled
  obtain ⟨y, hy, hstage⟩ := exists_image_of_found hprepared.found
  have hnot : ¬∀ y ∈ calls, y.request.stage.isInquiry = true := by
    intro hinquiry
    rw [hinquiry y hy] at hstage
    cases hstage
  cases h with
  | unresolved hstart => exact absurd (inquiry_of_started hstart) hnot
  | unknown hstart _ e =>
    refine absurd (List.forall_mem_append.2 ⟨inquiry_of_started hstart, ?_⟩) hnot
    exact List.forall_mem_cons.2 ⟨rfl, List.forall_mem_nil _⟩
  | delivered hresolved hdelivered =>
    obtain ⟨base', hbase', hc'⟩ := hresolved.base
    cases settle_unique hcourse hbase hc (hbase'.mono (List.subset_append_left ..)) hc'
    obtain ⟨rfl, rfl⟩ := chosen_unique hcourse hprepared.chosen
      (hresolved.chosen.mono (List.subset_append_left ..))
    cases hdelivered with
    | unfit he => cases hprepared.fit.symm.trans he
    | imageless _ himage =>
      cases ok_of_found hcourse himage (List.subset_append_right ..) hprepared.found
    | built _ _ hb => cases hbuild.symm.trans hb
    | dispatched _ himage _ hdispatch =>
      cases ok_of_found hcourse himage
        (fun _ hx => List.mem_append_right _ (List.mem_append_left _ hx)) hprepared.found
      exact ⟨_, _, _, (List.append_assoc ..).symm, hdispatch⟩

/-- An image is handed to a platform, with what the platform makes of the config. -/
inductive HandedOver (o : DeployOptions) (c : AppConfig) (app : AppSummary)
    (image : DeploymentImage) (calls : List (Exchange Deploy)) : Platform → Prop where
  /-- There is a definition of the app: the config can be written, and as a record. -/
  | release {fields : Table Json} (answer : Except ApiError CreatedRelease)
      (hfields : c.toJson = .ofTable fields)
      (hdefinition : (newRelease o c image).definition =
        some (.ofTable ((fields.erase "app").erase "build")))
      (hcall : ⟨.createRelease (newRelease o c image), answer⟩ ∈ calls) :
      HandedOver o c app image calls .releases
  /-- The config is fit for machines, and the assignments of the deploy can be read. -/
  | rollout {rollout : NewRollout} (answer : Except RolloutError Unit)
      (hfit : c.ensureMachines = .ok ()) (hr : newRollout o c app image = .ok rollout)
      (hcall : ⟨.runRollout rollout, answer⟩ ∈ calls) : HandedOver o c app image calls .machines

theorem handedOver_of_dispatched {dispatched : Except DeployError Unit}
    (hc : settle o base = .ok config) (hfit : ensurePlatform config platform = .ok ())
    (h : Dispatched o config.tellPrimaryRegion app image platform calls dispatched) :
    HandedOver o config.tellPrimaryRegion app image calls platform := by
  cases h with
  | machines h =>
    obtain ⟨rollout, answer, hmachines, hr, rfl, -⟩ := run_of_rolledOut hc hfit h
    exact .rollout answer hmachines hr List.mem_cons_self
  | releases h =>
    obtain ⟨fields, hfields, hdefinition⟩ := config.tellPrimaryRegion.definition_eq
    have hcall : ∃ answer,
        ⟨.createRelease (newRelease o config.tellPrimaryRegion image), answer⟩ ∈ calls := by
      cases h with
      | refused | detached | stranded | followed => exact ⟨_, List.mem_cons_self⟩
    obtain ⟨answer, hcall⟩ := hcall
    exact .release answer hfields (congrArg some hdefinition) hcall

theorem HandedOver.mono (h : HandedOver o c app image calls platform)
    {later : List (Exchange Deploy)} (hsub : calls ⊆ later) :
    HandedOver o c app image later platform := by
  cases h with
  | release answer hfields hdefinition hcall =>
    exact .release answer hfields hdefinition (hsub hcall)
  | rollout answer hfit hr hcall => exact .rollout answer hfit hr (hsub hcall)

/-! ## What the kinds tell -/

/-- A deploy fails for its configuration before anything is done. -/
structure ConfigurationFirst (files : Files) (o : DeployOptions) (localConfig : Option AppConfig)
    (calls : List (Exchange Deploy)) (result : Except DeployError Report) : Prop where
  /-- A call that does not only look something up comes after every such failure. -/
  first : ∀ x ∈ calls, x.request.stage.isInquiry = false →
    ∀ e, result = .error e → e.kind ≠ .configuration
  /-- With an image that is not only to be built, nothing that is checked again can fail: the
  image is handed over. -/
  accepted : ∀ config app platform image,
    Prepared files o localConfig calls config app platform image → o.buildOnly = false →
    HandedOver o config.tellPrimaryRegion app image calls platform

/-- In every world, what is wrong with a config is found before an image is asked for. -/
theorem configuration_fails_first {ω : Type} (w : World Deploy ω) (state : ω) (console : Console)
    (files : Files) (o : DeployOptions) (localConfig : Option AppConfig) :
    ConfigurationFirst files o localConfig (callsIn w state console files o localConfig)
      (outcomeIn w state console files o localConfig) := by
  have hcourse := course_of_run w state console files o localConfig
  generalize callsIn w state console files o localConfig = calls at hcourse
  generalize outcomeIn w state console files o localConfig = result at hcourse
  refine ⟨?_, ?_⟩
  · intro x hx hinquiry e hresult
    subst hresult
    exact kind_ne_configuration (failedAt_of_course hcourse) hx hinquiry
  · intro config app platform image hprepared hbuild
    obtain ⟨base, -, hc⟩ := hprepared.settled
    obtain ⟨first, second, dispatched, rfl, hdispatch⟩ :=
      dispatched_of_prepared hcourse hprepared hbuild
    exact (handedOver_of_dispatched hc hprepared.fit hdispatch).mono (List.subset_append_right ..)

theorem hint_eq_some_iff : e.hint = some DeployError.progressHint ↔ e.kind = .monitoring := by
  rw [DeployError.hint]
  split
  case isTrue h => simp [h]
  case isFalse h => simp [h]

/-- In every world, a deploy that fails is under way exactly if its failure is one of monitoring,
which is when the user is told so, or one of looking at its release again. -/
theorem underWay_iff_of_error {ω : Type} (w : World Deploy ω) (state : ω) (console : Console)
    (files : Files) (o : DeployOptions) (localConfig : Option AppConfig)
    (h : outcomeIn w state console files o localConfig = .error e) :
    (UnderWay (callsIn w state console files o localConfig) ↔
      e.kind = .monitoring ∨ RefreshFailed e) ∧
    (e.hint = some DeployError.progressHint ↔ e.kind = .monitoring) := by
  have hcourse := course_of_run w state console files o localConfig
  rw [h] at hcourse
  exact ⟨underWay_iff (failedAt_of_course hcourse), hint_eq_some_iff⟩

theorem example_watched_in_vain :
    outcomeIn (Example.world (.error (.watch (.failed "rollout" "unhealthy")))) () ⟨.quiet⟩
      (.ofList [] []) Example.options none =
        .error (.rollout (.watch (.failed "rollout" "unhealthy"))) ∧
    (UnderWay (callsIn (Example.world (.error (.watch (.failed "rollout" "unhealthy")))) ()
      ⟨.quiet⟩ (.ofList [] []) Example.options none) ↔
      (DeployError.rollout (.watch (.failed "rollout" "unhealthy"))).kind = .monitoring ∨
        RefreshFailed (.rollout (.watch (.failed "rollout" "unhealthy")))) ∧
    ((DeployError.rollout (.watch (.failed "rollout" "unhealthy"))).hint =
        some DeployError.progressHint ↔
      (DeployError.rollout (.watch (.failed "rollout" "unhealthy"))).kind = .monitoring) :=
  ⟨rfl, underWay_iff_of_error _ _ _ _ _ _ rfl⟩

namespace Example

/-- A world in which a release is created and its command succeeds, but the release cannot be
looked at again. -/
def unrefreshedWorld : World Deploy Unit where
  answer q state := (match q with
    | .createRelease _ =>
      .ok ⟨⟨⟨"r1"⟩, 1, "ROLLING", ⟨"e1"⟩, "pending", none⟩, some ⟨⟨"c1"⟩, "migrate", "pending"⟩⟩
    | q => ((world (.ok ())).answer q state).1, state)

def releaseOptions : DeployOptions :=
  { options with detach := false, forceMachines := false }

end Example

/-- A release that cannot be looked at again is under way, and yet the failure is not one of
monitoring. -/
theorem not_monitoring_of_underWay :
    ¬∀ (w : World Deploy Unit) (state : Unit) (console : Console) (files : Files)
      (o : DeployOptions) (localConfig : Option AppConfig) (e : DeployError),
      outcomeIn w state console files o localConfig = .error e →
      (e.kind = .monitoring ↔ UnderWay (callsIn w state console files o localConfig)) := by
  intro hall
  have hiff := hall Example.unrefreshedWorld () ⟨.quiet⟩ (.ofList [] []) Example.releaseOptions none
    (.refreshRelease ⟨"r1"⟩ .unauthorized) rfl
  have hunderWay : UnderWay (callsIn Example.unrefreshedWorld () ⟨.quiet⟩ (.ofList [] [])
      Example.releaseOptions none) :=
    ⟨_, .tail _ (.tail _ (.tail _ (.tail _ (.tail _ (.head _))))), rfl⟩
  cases hiff.2 hunderWay

end AppDeploy.Deploy
