import AppDeploy.Proofs.Deploy.FirstFailure
import AppDeploy.Proofs.Plan.Rewording

/-!
# A deploy in its parts

A deploy prepares a shipment, orders it from a platform, and follows what it has ordered
(`run_eq`).
-/

namespace AppDeploy.Deploy

variable {console : Console} {files : Files} {o : DeployOptions} {c : AppConfig}
  {app : AppSummary} {platform : Platform} {image : DeploymentImage}
  {localConfig : Option AppConfig} {calls : List (Exchange Deploy)}

/-- An image, and what it is for. -/
structure Shipment where
  config : AppConfig
  app : AppSummary
  platform : Platform
  image : DeploymentImage

/-- Finds out what a deploy has to know before it obtains an image. -/
def inquire (console : Console) (o : DeployOptions) (localConfig : Option AppConfig) :
    Task Deploy DeployError (AppConfig × AppSummary × Platform) := do
  let config ← (resolveConfig console o localConfig).adapt .config
  let app ← Task.attempt (.appLookup o.app) (Plan.request (S := Deploy) (.summary o.app))
  let platform ← ExceptT.lift (choosePlatform o app)
  Task.fromExcept .invalidMachinesConfig (ensurePlatform config platform)
  return (config, app, platform)

/-- Finds out everything and obtains the image. -/
def prepare (console : Console) (files : Files) (o : DeployOptions)
    (localConfig : Option AppConfig) : Task Deploy DeployError Shipment := do
  let (config, app, platform) ← inquire console o localConfig
  let image ← (obtainImage console files o config).adapt .image
  return { config, app, platform, image }

def orderRelease (console : Console) (o : DeployOptions) (c : AppConfig)
    (image : DeploymentImage) : Task Deploy DeployError CreatedRelease := do
  Task.print (console.progress "Creating release")
  let created ←
    Task.attempt .createRelease (Plan.request (S := Deploy) (.createRelease (newRelease o c image)))
  Task.print (console.detail s!"release v{created.release.version} created")
  return created

/-- Orders a shipment from its platform, unless it is only to be built. A release that is
created for it can be followed. -/
def order (console : Console) (o : DeployOptions) (s : Shipment) :
    Task Deploy DeployError (Option CreatedRelease) :=
  if o.buildOnly then pure none
  else match s.platform with
    | .machines => do
      deployMachines console o s.config.tellPrimaryRegion s.app s.image
      return none
    | .releases => do
      let created ← orderRelease console o s.config.tellPrimaryRegion s.image
      return some created

/-- Waits until a release is live, unless the deploy is detached. -/
def follow (console : Console) (o : DeployOptions) :
    Option CreatedRelease → Task Deploy DeployError Unit
  | none => pure ()
  | some created =>
    if o.detach then pure ()
    else do
      Task.print (console.detail
        "You can detach the terminal anytime without stopping the deployment")
      let release ← effectiveRelease console o.app created
      awaitRelease o.app release

def report (o : DeployOptions) (s : Shipment) : Report :=
  ⟨s.platform, s.image, !o.buildOnly⟩

/-- A deploy from its shipment on. -/
def deliverShipment (console : Console) (o : DeployOptions) (s : Shipment) :
    Task Deploy DeployError Report := do
  let created ← order console o s
  follow console o created
  return report o s

theorem run_eq : run console files o localConfig =
    prepare console files o localConfig >>= deliverShipment console o := by
  simp only [run, deliver, prepare, inquire, bind_assoc, pure_bind]
  congr
  funext config
  congr
  funext app
  congr
  funext platform
  congr
  funext
  congr
  funext image
  cases h : o.buildOnly with
  | true => simp [deliverShipment, order, follow, report, h]
  | false =>
    cases platform with
    | machines => simp [deliverShipment, order, follow, report, h, dispatch]
    | releases =>
      simp [deliverShipment, order, orderRelease, follow, report, h, dispatch, deployRelease]

/-- A deploy up to its order. -/
def submit (console : Console) (files : Files) (o : DeployOptions)
    (localConfig : Option AppConfig) :
    Task Deploy DeployError (Shipment × Option CreatedRelease) := do
  let s ← prepare console files o localConfig
  let created ← order console o s
  return (s, created)

theorem run_eq_submit : run console files o localConfig = do
    let found ← submit console files o localConfig
    follow console o found.2
    return report o found.1 := by
  rw [run_eq]
  simp only [submit, bind_assoc, pure_bind]
  rfl

/-! ## What the parts ask -/

theorem within_baseConfig (app : AppName) :
    (baseConfig app localConfig).Within fun q : Request => q.stage.isInquiry = true := by
  cases localConfig with
  | some base => exact Task.within_pure base
  | none =>
    refine Task.within_bind (Task.within_attempt _ (Plan.within_request rfl)) fun _ => ?_
    exact Task.within_attempt _ (Plan.within_request rfl)

theorem within_resolveConfig :
    (resolveConfig console o localConfig).Within fun q : Request => q.stage.isInquiry = true := by
  refine Task.within_bind (Task.within_notes _) fun _ => ?_
  refine Task.within_bind (within_baseConfig _) fun base => ?_
  refine Task.within_bind (Task.within_fromExcept _ _) fun config => ?_
  refine Task.within_bind (Task.within_notes _) fun _ => ?_
  refine Task.within_bind (Task.within_fromExcept _ _) fun _ => ?_
  exact Task.within_bind (Task.within_notes _) fun _ => Task.within_pure config

theorem backend?_of_stage {q : Request} (h : q.stage ≠ .handover) : q.backend? = none := by
  cases q with
  | createRelease | runRollout => exact absurd rfl h
  | _ => rfl

theorem within_inquire :
    (inquire console o localConfig).Within fun q : Request => q.stage.isInquiry = true := by
  refine Task.within_bind (Task.within_adapt _ within_resolveConfig) fun config => ?_
  refine Task.within_bind (Task.within_attempt _ (Plan.within_request rfl)) fun app => ?_
  refine Task.within_bind (Task.within_lift ?_) fun platform => ?_
  · exact Plan.within_bind (Plan.within_request rfl) fun _ => .done _
  · exact Task.within_bind (Task.within_fromExcept _ _) fun _ => Task.within_pure _

theorem within_announceImage {P : Request → Prop} (found : Option DeploymentImage) :
    (announceImage console found).Within P := by
  cases found with
  | none => exact Task.within_throw _
  | some image =>
    refine Task.within_bind (Task.within_notes _) fun _ => ?_
    exact Task.within_bind (Task.within_notes _) fun _ => Task.within_pure image

theorem within_obtainImage :
    (obtainImage console files o c).Within fun q : Request => q.stage = .image := by
  refine Task.within_bind (Task.within_notes _) fun _ => ?_
  refine Task.within_bind (Task.within_notes _) fun _ => ?_
  cases namedImage o c with
  | some reference =>
    exact Task.within_bind (Task.within_attempt _ (Plan.within_request rfl)) within_announceImage
  | none =>
    refine Task.within_bind (Task.within_fromExcept _ _) fun request => ?_
    refine Task.within_bind (Task.within_attempt _ ?_) within_announceImage
    refine Plan.within_bind (Plan.within_request rfl) fun _ => ?_
    refine Plan.within_bind (Plan.within_request rfl) fun _ => ?_
    exact Plan.within_bind (Plan.within_request rfl) fun _ => .done _

theorem within_prepare :
    (prepare console files o localConfig).Within fun q : Request => q.backend? = none := by
  refine Task.within_bind ?_ fun found => Task.within_bind (Task.within_adapt _ ?_) fun _ =>
    Task.within_pure _
  · refine Plan.within_mono within_inquire fun q hq => backend?_of_stage ?_
    intro hstage
    rw [hstage] at hq
    cases hq
  · refine Plan.within_mono within_obtainImage fun q hq => backend?_of_stage ?_
    simp [hq]

theorem within_deployMachines :
    (deployMachines console o c app image).Within
      fun q : Request => q.backend? = some .machines := by
  refine Task.within_bind (Task.within_fromExcept _ _) fun _ => ?_
  refine Task.within_bind (Task.within_fromExcept _ _) fun rollout => ?_
  refine Task.within_bind (Task.within_notes _) fun _ => Task.within_attempt _ ?_
  refine Plan.within_bind (Plan.within_request rfl) fun result => ?_
  cases result with
  | ok u => exact .done _
  | error e => exact .note (.done _)

theorem within_orderRelease :
    (orderRelease console o c image).Within fun q : Request => q.backend? = some .releases := by
  refine Task.within_bind (Task.within_notes _) fun _ => ?_
  refine Task.within_bind (Task.within_attempt _ (Plan.within_request rfl)) fun created => ?_
  exact Task.within_bind (Task.within_notes _) fun _ => Task.within_pure created

theorem within_order (s : Shipment) :
    (order console o s).Within fun q : Request => q.backend? = some s.platform := by
  rw [order]
  split
  · exact Task.within_pure none
  · cases s.platform with
    | machines => exact Task.within_bind within_deployMachines fun _ => Task.within_pure none
    | releases => exact Task.within_bind within_orderRelease fun _ => Task.within_pure _

theorem within_effectiveRelease (name : AppName) (created : CreatedRelease) :
    (effectiveRelease console name created).Within fun q : Request => q.stage = .wait := by
  rw [effectiveRelease]
  cases created.releaseCommand with
  | none => exact Task.within_pure _
  | some command =>
    refine Task.within_bind (Task.within_notes _) fun _ => ?_
    refine Task.within_bind (Task.within_notes _) fun _ => ?_
    refine Task.within_bind (Task.within_attempt _ (Plan.within_request rfl)) fun _ => ?_
    exact Task.within_attempt _ (Plan.within_request rfl)

theorem within_follow (created : Option CreatedRelease) :
    (follow console o created).Within fun q : Request => q.stage = .wait := by
  cases created with
  | none => exact Task.within_pure ()
  | some created =>
    rw [follow]
    split
    · exact Task.within_pure ()
    · refine Task.within_bind (Task.within_notes _) fun _ => ?_
      refine Task.within_bind (within_effectiveRelease _ _) fun release => ?_
      rw [awaitRelease]
      split
      · exact Task.within_pure ()
      · exact Task.within_attempt _ (Plan.within_request rfl)

/-! ## What the parts come to -/

theorem resolved_of_inquire {config : AppConfig}
    (h : Task.Runs (inquire console o localConfig) calls (.ok (config, app, platform))) :
    Resolved o localConfig calls config app platform ∧
      ensurePlatform config platform = .ok () := by
  rw [inquire, Task.runs_adapt_bind] at h
  simp only [runs_resolveConfig, Task.runs_attempt_bind, Plan.runs_request, Task.runs_lift_bind,
    runs_choosePlatform] at h
  obtain ⟨e, -, he⟩ | ⟨start, c, _, ⟨base, hstart, hc⟩, ⟨e, -, he⟩ | ⟨_, found, _, rfl, h, rfl⟩,
    rfl⟩ := h
  · cases he
  · cases he
  · obtain ⟨_, chosen, rest, ⟨answer, rfl, hchoice⟩, h, rfl⟩ := h
    cases base with
    | error e => cases hc
    | ok base =>
      cases hfit : ensurePlatform c chosen with
      | error e =>
        rw [hfit] at h
        cases (Task.runs_error_bind.1 h).2
      | ok u =>
        rw [hfit, Task.runs_ok_bind] at h
        obtain ⟨rfl, hfound⟩ := Task.runs_pure.1 h
        cases hfound
        exact ⟨⟨start, base, answer, hstart, hc.symm, rfl, hchoice⟩, hfit⟩

theorem prepared_of_prepare {s : Shipment}
    (h : Task.Runs (prepare console files o localConfig) calls (.ok s)) :
    Prepared files o localConfig calls s.config s.app s.platform s.image := by
  obtain ⟨e, -, he⟩ | ⟨first, ⟨c, found, chosen⟩, _, hinquire, hobtain, rfl⟩ := Task.runs_bind.1 h
  · cases he
  · obtain ⟨hresolved, hfit⟩ := resolved_of_inquire hinquire
    obtain ⟨e, -, he⟩ | ⟨acquire, _, _, himage, hrest, rfl⟩ := Task.runs_adapt_bind.1 hobtain
    · cases he
    · obtain ⟨rfl, hs⟩ := Task.runs_pure.1 hrest
      cases hs
      rw [List.append_nil]
      exact prepared_of_obtained hresolved hfit (runs_obtainImage.1 himage)

/-- What is prepared is ordered by one call. -/
theorem backend?_of_order {s : Shipment} {before : List (Exchange Deploy)}
    {result : Except DeployError (Option CreatedRelease)}
    (hprepared : Prepared files o localConfig before s.config s.app s.platform s.image)
    (hbuild : o.buildOnly = false) (h : Task.Runs (order console o s) calls result) :
    ∃ x, calls = [x] ∧ x.request.backend? = some s.platform := by
  obtain ⟨base, -, hc⟩ := hprepared.settled
  have hfit := hprepared.fit
  rw [order, if_neg (by simp [hbuild])] at h
  cases hplatform : s.platform with
  | machines =>
    rw [hplatform] at h hfit
    obtain ⟨found, hmachines, -⟩ := (Task.runs_bind_silent fun _ _ _ => Task.runs_pure).1 h
    obtain ⟨rollout, answer, -, -, rfl, -⟩ :=
      run_of_rolledOut hc hfit (runs_deployMachines.1 hmachines)
    exact ⟨_, rfl, rfl⟩
  | releases =>
    rw [hplatform] at h
    obtain ⟨found, hrelease, -⟩ := (Task.runs_bind_silent fun _ _ _ => Task.runs_pure).1 h
    rw [orderRelease, Task.runs_print_bind] at hrelease
    obtain ⟨created, hcreated, -⟩ := (Task.runs_bind_silent fun created rest result => by
      rw [Task.runs_print_bind]
      exact Task.runs_pure).1 hrelease
    obtain ⟨answer, hasked, -⟩ := Task.runs_attempt.1 hcreated
    exact ⟨_, Plan.runs_request.1 hasked, rfl⟩

/-- Only a release can be followed. -/
theorem platform_of_order {s : Shipment} {created : CreatedRelease}
    (h : Task.Runs (order console o s) calls (.ok (some created))) : s.platform = .releases := by
  rw [order] at h
  split at h
  · cases (Task.runs_pure.1 h).2
  · cases hplatform : s.platform with
    | releases => rfl
    | machines =>
      rw [hplatform] at h
      obtain ⟨found, -, hfound⟩ := (Task.runs_bind_silent fun _ _ _ => Task.runs_pure).1 h
      cases found <;> cases hfound

/-- What a deploy has come to with its order: nothing is ordered, or its last call orders it. -/
inductive Submitted : List (Exchange Deploy) →
    Except DeployError (Shipment × Option CreatedRelease) → Prop where
  | unordered {calls : List (Exchange Deploy)}
      {result : Except DeployError (Shipment × Option CreatedRelease)}
      (hcalls : ∀ x ∈ calls, x.request.backend? = none)
      (hresult : ∀ s created, result ≠ .ok (s, some created)) : Submitted calls result
  | ordered {first : List (Exchange Deploy)} {x : Exchange Deploy} {platform : Platform}
      {result : Except DeployError (Shipment × Option CreatedRelease)}
      (hfirst : ∀ x ∈ first, x.request.backend? = none)
      (hx : x.request.backend? = some platform)
      (hresult : ∀ s created, result = .ok (s, some created) → platform = .releases) :
      Submitted (first ++ [x]) result

theorem submitted_of_submit {result : Except DeployError (Shipment × Option CreatedRelease)}
    (h : Task.Runs (submit console files o localConfig) calls result) : Submitted calls result := by
  obtain ⟨e, hprepare, rfl⟩ | ⟨first, s, rest, hprepare, hrest, rfl⟩ := Task.runs_bind.1 h
  · refine .unordered (Plan.within_of_runs within_prepare hprepare) ?_
    intro s created hresult
    cases hresult
  · have hfirst := Plan.within_of_runs within_prepare hprepare
    obtain ⟨found, horder, rfl⟩ := (Task.runs_bind_silent fun _ _ _ => Task.runs_pure).1 hrest
    cases hbuild : o.buildOnly with
    | true =>
      rw [order, if_pos hbuild] at horder
      obtain ⟨rfl, rfl⟩ := Task.runs_pure.1 horder
      rw [List.append_nil]
      refine .unordered hfirst ?_
      intro s created hresult
      cases hresult
    | false =>
      obtain ⟨x, rfl, hx⟩ := backend?_of_order (prepared_of_prepare hprepare) hbuild horder
      refine .ordered hfirst hx ?_
      intro s' created hresult
      cases found with
      | error e => cases hresult
      | ok found =>
        cases hresult
        exact platform_of_order horder

/-! ## The parts in other words -/

section Rewording

variable {o' : DeployOptions} {f : Rewording Deploy}

/-- An image is obtained in other words where the requests for it are so worded. -/
theorem reword_obtainImage {g : BuildRequest → BuildRequest}
    (hadvisory : dockerfileAdvisory? files o' c = dockerfileAdvisory? files o c)
    (hnamed : namedImage o' c = namedImage o c)
    (hfind : ∀ reference,
      (Plan.request (S := Deploy) (.findImage (referenceRequest o reference))).reword f =
        Plan.request (S := Deploy) (.findImage (referenceRequest o' reference)))
    (hbuild : ∀ r, (buildAlive r).reword f = buildAlive (g r))
    (hr : buildRequest files o' c = (buildRequest files o c).map g) :
    obtainImage console files o' c = (obtainImage console files o c).reword f := by
  have hannounce : ∀ found, (announceImage console found).reword f = announceImage console found :=
    fun found => Task.reword_of_within (within_announceImage found) fun _ => False.elim
  simp only [obtainImage, hadvisory, hnamed, Task.reword_bind, Task.reword_print,
    Task.reword_notes]
  congr
  funext
  congr
  funext
  cases namedImage o c with
  | some reference => simp only [Task.reword_bind, Task.reword_attempt, hfind, hannounce]
  | none =>
    simp only [hr, Task.fromExcept_map_bind, Task.reword_bind, Task.reword_fromExcept,
      Task.reword_attempt, hbuild, hannounce]

theorem reword_prepare (hf : ∀ q : Request, q.stage ≠ .image → f.request q = q)
    (hinquire : inquire console o' localConfig = inquire console o localConfig)
    (himage : ∀ c, obtainImage console files o' c = (obtainImage console files o c).reword f) :
    prepare console files o' localConfig = (prepare console files o localConfig).reword f := by
  have hsame : (inquire console o localConfig).reword f = inquire console o localConfig := by
    refine Task.reword_of_within within_inquire fun q hq => hf q ?_
    intro hstage
    rw [hstage] at hq
    cases hq
  rw [prepare, prepare, Task.reword_bind, hsame, hinquire]
  congr
  funext found
  obtain ⟨c, app, platform⟩ := found
  simp only [Task.reword_bind, Task.reword_adapt, Task.reword_pure, himage]

end Rewording

end AppDeploy.Deploy
