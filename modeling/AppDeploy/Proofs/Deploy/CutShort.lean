import AppDeploy.Proofs.Deploy.Parts

/-!
# Deploys that are cut short

A deploy that only builds and a deploy that is detached do what the same deploy does otherwise,
only less of it. The one stops with the image that the other would hand to a platform
(`StopsAtImage`), and the other stops with the order (`StopsAtOrder`). On the way no request is
worded differently but for the two flags that tell others of it: whether an image has to be
published, and whether a rollout is to skip its health checks. So they are compared in worlds that
do not look at these (`flagless`).
-/

namespace AppDeploy.Deploy

variable {console : Console} {files : Files} {o : DeployOptions} {c : AppConfig}
  {app : AppSummary} {platform : Platform} {image : DeploymentImage}
  {localConfig : Option AppConfig} {calls : List (Exchange Deploy)}

/-! ## Flags -/

/-- A request with other flags; a flag that is not given stays as it is. -/
def Request.withFlags (find build skip : Option Bool) : Request → Request
  | .findImage r => .findImage { r with publish := find.getD r.publish }
  | .buildImage r => .buildImage { r with publish := build.getD r.publish }
  | .runRollout r => .runRollout { r with skipHealthChecks := skip.getD r.skipHealthChecks }
  | q => q

def flags (find build skip : Option Bool) : Rewording Deploy where
  request := Request.withFlags find build skip
  answer_eq q := by cases q <;> rfl

/-- A request as it looks to those who do not look at the flags. -/
def flagless : Rewording Deploy :=
  flags (some false) (some false) (some false)

/-- What is asked for an image that is only to be built: one that is named is not published, and
one that is built is if it is to be pushed. -/
def onlyBuilding (push : Bool) : Rewording Deploy :=
  flags (some false) (some push) none

/-- What is asked by a deploy that is detached. -/
def detaching : Rewording Deploy :=
  flags none none (some true)

theorem flagless_flags (find build skip : Option Bool) (q : Request) :
    flagless.request ((flags find build skip).request q) = flagless.request q := by
  cases q <;> rfl

theorem flagless_onlyBuilding (push : Bool) (q : Request) :
    flagless.request ((onlyBuilding push).request q) = flagless.request q :=
  flagless_flags _ _ _ q

theorem flagless_detaching (q : Request) :
    flagless.request (detaching.request q) = flagless.request q :=
  flagless_flags _ _ _ q

theorem onlyBuilding_of_stage (push : Bool) {q : Request} (h : q.stage ≠ .image) :
    (onlyBuilding push).request q = q := by
  cases q with
  | findImage | buildImage => exact absurd rfl h
  | _ => rfl

theorem detaching_of_backend? {q : Request} (h : q.backend? ≠ some .machines) :
    detaching.request q = q := by
  cases q with
  | runRollout => exact absurd rfl h
  | _ => rfl

theorem exchange_detaching {x : Exchange Deploy} (h : x.request.backend? ≠ some .machines) :
    detaching.exchange x = x := by
  obtain ⟨q, answer⟩ := x
  cases q with
  | runRollout => exact absurd rfl h
  | _ => rfl

theorem map_exchange_detaching (h : ∀ x ∈ calls, x.request.backend? = none) :
    calls.map detaching.exchange = calls := by
  refine (List.map_congr_left fun x hx => ?_).trans (List.map_id calls)
  refine exchange_detaching ?_
  simp [h x hx]

/-! ## Only building -/

theorem buildRequest_buildOnly :
    buildRequest files { o with buildOnly := true } c =
      (buildRequest files { o with buildOnly := false } c).map
        fun r => { r with publish := o.build.push } := by
  show _ = _ <$> _
  simp only [buildRequest, map_bind, map_pure, Bool.not_true, Bool.or_false]
  rfl

theorem prepare_buildOnly :
    prepare console files { o with buildOnly := true } localConfig =
      (prepare console files { o with buildOnly := false } localConfig).reword
        (onlyBuilding o.build.push) := by
  refine reword_prepare (fun q hq => onlyBuilding_of_stage _ hq) rfl ?_
  intro c
  exact reword_obtainImage rfl rfl (fun _ => rfl) (fun _ => rfl) buildRequest_buildOnly

theorem run_buildOnly :
    run console files { o with buildOnly := true } localConfig = do
      let s ← prepare console files { o with buildOnly := true } localConfig
      return ⟨s.platform, s.image, false⟩ := by
  rw [run_eq]
  rfl

theorem backend?_of_follow (created : Option CreatedRelease) :
    (follow console o created).Within fun q : Request => q.backend? = none := by
  refine Plan.within_mono (within_follow created) fun q hq => backend?_of_stage ?_
  simp [hq]

/-- A shipment that is not only built is ordered at once. Then there is only waiting. -/
theorem ordered_of_prepared {s : Shipment} {before : List (Exchange Deploy)}
    {result : Except DeployError Report}
    (hprepared : Prepared files o localConfig before s.config s.app s.platform s.image)
    (hbuild : o.buildOnly = false)
    (h : Task.Runs (deliverShipment console o s) calls result) :
    ∃ x waits, calls = x :: waits ∧ x.request.backend? = some s.platform ∧
      (∀ y ∈ waits, y.request.backend? = none) ∧
      ∀ r, result = .ok r → r = ⟨s.platform, s.image, true⟩ := by
  obtain ⟨e, horder, rfl⟩ | ⟨first, created, rest, horder, hrest, rfl⟩ := Task.runs_bind.1 h
  · obtain ⟨x, rfl, hx⟩ := backend?_of_order hprepared hbuild horder
    refine ⟨x, [], rfl, hx, List.forall_mem_nil _, ?_⟩
    intro r hr
    cases hr
  · obtain ⟨x, rfl, hx⟩ := backend?_of_order hprepared hbuild horder
    obtain ⟨found, hfollow, rfl⟩ := (Task.runs_bind_silent fun _ _ _ => Task.runs_pure).1 hrest
    refine ⟨x, rest, rfl, hx, Plan.within_of_runs (backend?_of_follow created) hfollow, ?_⟩
    intro r hr
    cases found with
    | error e => cases hr
    | ok u =>
      cases hr
      simp [report, hbuild]

/-! ## Detaching -/

theorem newRollout_detach :
    newRollout { o with detach := true } c app image =
      (newRollout { o with detach := false } c app image).map
        fun r => { r with skipHealthChecks := true } := by
  show _ = _ <$> _
  simp only [newRollout, map_bind, map_pure]
  rfl

theorem runRollout_detach (r : NewRollout) :
    runRollout { r with skipHealthChecks := true } = (runRollout r).reword detaching := by
  show Plan.ask _ _ = Plan.ask _ _
  congr
  funext answer
  cases answer <;> rfl

theorem deployMachines_detach :
    deployMachines console { o with detach := true } c app image =
      (deployMachines console { o with detach := false } c app image).reword detaching := by
  simp only [deployMachines, newRollout_detach, Task.fromExcept_map_bind, runRollout_detach,
    Task.reword_bind, Task.reword_fromExcept, Task.reword_print, Task.reword_attempt]

theorem orderRelease_detach :
    orderRelease console { o with detach := true } c image =
      (orderRelease console { o with detach := false } c image).reword detaching := by
  refine (Task.reword_of_within within_orderRelease ?_).symm
  intro q hq
  exact detaching_of_backend? (by simp [hq])

theorem order_detach (s : Shipment) :
    order console { o with detach := true } s =
      (order console { o with detach := false } s).reword detaching := by
  simp only [order]
  split
  · rfl
  · cases s.platform with
    | machines => simp only [deployMachines_detach, Task.reword_bind, Task.reword_pure]
    | releases => simp only [orderRelease_detach, Task.reword_bind, Task.reword_pure]

theorem submit_detach :
    submit console files { o with detach := true } localConfig =
      (submit console files { o with detach := false } localConfig).reword detaching := by
  have hprepare : prepare console files { o with detach := true } localConfig =
      (prepare console files { o with detach := false } localConfig).reword detaching := by
    refine (Task.reword_of_within within_prepare ?_).symm
    intro q hq
    exact detaching_of_backend? (by simp [hq])
  simp only [submit, hprepare, order_detach, Task.reword_bind, Task.reword_pure]

theorem run_detach :
    run console files { o with detach := true } localConfig = do
      let found ← submit console files { o with detach := true } localConfig
      return report o found.1 := by
  rw [run_eq_submit]
  congr
  funext found
  cases found.2 <;> rfl

/-! ## Deploys side by side -/

/-- What a deploy that only builds does, given what the same deploy does otherwise. -/
structure StopsAtImage (files : Files) (o : DeployOptions) (localConfig : Option AppConfig)
    (calls : List (Exchange Deploy)) (outcome : Except DeployError Report)
    (calls' : List (Exchange Deploy)) (outcome' : Except DeployError Report) : Prop where
  /-- Where the other one hands an image to a platform, it stops with these two. -/
  handed : ∀ before x after platform, calls = before ++ x :: after →
    x.request.backend? = some platform →
    calls' = before.map (onlyBuilding o.build.push).exchange ∧
      ∃ config app image,
        Prepared files { o with buildOnly := false } localConfig before config app platform image ∧
        outcome' = .ok ⟨platform, image, false⟩ ∧
        ∀ r, outcome = .ok r → r = ⟨platform, image, true⟩
  /-- Where the other one does not come to that, both fail in the same way. -/
  failed : (∀ x ∈ calls, x.request.backend? = none) →
    calls' = calls.map (onlyBuilding o.build.push).exchange ∧
      ∃ e, outcome = .error e ∧ outcome' = .error e

/-- What a deploy that is detached does, given what the same deploy does otherwise. -/
structure StopsAtOrder (calls : List (Exchange Deploy)) (outcome : Except DeployError Report)
    (calls' : List (Exchange Deploy)) (outcome' : Except DeployError Report) : Prop where
  /-- It does not go on when a release is created. -/
  release : ∀ before order answer after,
    calls = before ++ ⟨.createRelease order, answer⟩ :: after →
    calls' = before ++ [⟨.createRelease order, answer⟩]
  /-- With a rollout the other one ends as well. -/
  rollout : ∀ before order answer after, calls = before ++ ⟨.runRollout order, answer⟩ :: after →
    after = [] ∧
      calls' = before ++ [⟨.runRollout { order with skipHealthChecks := true }, answer⟩]
  neither : (∀ x ∈ calls, x.request.backend? = none) → calls' = calls
  failed : ∀ e, outcome' = .error e → outcome = .error e

variable {first later : List (Exchange Deploy)} {outcome : Except DeployError Report}

theorem not_mem_of_backend? {x : Exchange Deploy} (hx : x.request.backend? = some platform)
    (h : ∀ y ∈ calls, y.request.backend? = none) : x ∉ calls := by
  intro hmem
  cases (h x hmem).symm.trans hx

theorem stopsAtImage_of_failure {e : DeployError}
    (hfirst : ∀ x ∈ first, x.request.backend? = none) :
    StopsAtImage files o localConfig first (.error e)
      (first.map (onlyBuilding o.build.push).exchange) (.error e) := by
  constructor
  · intro before x after platform hcalls hx
    exact absurd (by simp [hcalls]) (not_mem_of_backend? hx hfirst)
  · intro _
    exact ⟨rfl, e, rfl, rfl⟩

theorem stopsAtImage_of_prepared {s : Shipment}
    (hprepared : Prepared files { o with buildOnly := false } localConfig first s.config s.app
      s.platform s.image)
    (hfirst : ∀ x ∈ first, x.request.backend? = none)
    (h : Task.Runs (deliverShipment console { o with buildOnly := false } s) later outcome) :
    StopsAtImage files o localConfig (first ++ later) outcome
      (first.map (onlyBuilding o.build.push).exchange) (.ok ⟨s.platform, s.image, false⟩) := by
  obtain ⟨y, waits, rfl, hy, hwaits, hreport⟩ := ordered_of_prepared hprepared rfl h
  constructor
  · intro before x after platform hcalls hx
    obtain ⟨rfl, rfl, rfl⟩ := split_of_once hcalls (not_mem_of_backend? hx hfirst)
      (not_mem_of_backend? hx hwaits)
    obtain rfl := Option.some.inj (hy.symm.trans hx)
    exact ⟨rfl, s.config, s.app, s.image, hprepared, rfl, hreport⟩
  · intro hnone
    exact absurd (by simp) (not_mem_of_backend? hy hnone)

theorem stopsAtImage_of_begun {calls' : List (Exchange Deploy)}
    {outcome' : Except DeployError Report}
    (h : Task.Begun (onlyBuilding o.build.push)
      (prepare console files { o with buildOnly := false } localConfig)
      (deliverShipment console { o with buildOnly := false })
      (fun s => ⟨s.platform, s.image, false⟩) calls outcome calls' outcome') :
    StopsAtImage files o localConfig calls outcome calls' outcome' := by
  cases h with
  | failed hprepare =>
    exact stopsAtImage_of_failure (Plan.within_of_runs within_prepare hprepare)
  | goesOn hprepare hlater =>
    exact stopsAtImage_of_prepared (prepared_of_prepare hprepare)
      (Plan.within_of_runs within_prepare hprepare) hlater

/-- A call that orders something is made in other words, and is the last one then. The other
deploy may only go on after a release. -/
theorem stopsAtOrder_of_handed {calls' : List (Exchange Deploy)}
    {outcome' : Except DeployError Report}
    (hhanded : ∀ before x after platform, calls = before ++ x :: after →
      x.request.backend? = some platform →
      calls' = before ++ [detaching.exchange x] ∧ (platform = .machines → after = []))
    (hnone : (∀ x ∈ calls, x.request.backend? = none) → calls' = calls)
    (hfailed : ∀ e, outcome' = .error e → outcome = .error e) :
    StopsAtOrder calls outcome calls' outcome' := by
  refine ⟨?_, ?_, hnone, hfailed⟩
  · intro before order answer after hcalls
    exact (hhanded before _ after .releases hcalls rfl).1
  · intro before order answer after hcalls
    obtain ⟨hcalls', hafter⟩ := hhanded before _ after .machines hcalls rfl
    exact ⟨hafter rfl, hcalls'⟩

/-- What comes after a submission is only waiting, and only for a release. -/
theorem stopsAtOrder_of_submitted {found : Except DeployError (Shipment × Option CreatedRelease)}
    {outcome' : Except DeployError Report} (h : Submitted first found)
    (hlater : ∀ x ∈ later, x.request.backend? = none)
    (hunfollowed : (∀ s created, found ≠ .ok (s, some created)) → later = [])
    (hfailed : ∀ e, outcome' = .error e → outcome = .error e) :
    StopsAtOrder (first ++ later) outcome (first.map detaching.exchange) outcome' := by
  cases h with
  | unordered hfirst hresult =>
    obtain rfl := hunfollowed hresult
    rw [List.append_nil]
    refine stopsAtOrder_of_handed ?_ (fun _ => map_exchange_detaching hfirst) hfailed
    intro before x after platform hcalls hx
    exact absurd (by simp [hcalls]) (not_mem_of_backend? hx hfirst)
  | @ordered first y chosen _ hfirst hy hresult =>
    rw [List.map_append, map_exchange_detaching hfirst, List.append_assoc]
    refine stopsAtOrder_of_handed ?_ ?_ hfailed
    · intro before x after platform hcalls hx
      obtain ⟨rfl, rfl, rfl⟩ := split_of_once hcalls (not_mem_of_backend? hx hfirst)
        (not_mem_of_backend? hx hlater)
      refine ⟨rfl, ?_⟩
      intro hmachines
      refine hunfollowed fun s created hfound => ?_
      cases (hresult s created hfound).symm.trans (Option.some.inj (hy.symm.trans hx))
      cases hmachines
    · intro hnone
      exact absurd (by simp) (not_mem_of_backend? hy hnone)

theorem stopsAtOrder_of_begun {calls' : List (Exchange Deploy)}
    {outcome' : Except DeployError Report} {g : Shipment × Option CreatedRelease → Report}
    (h : Task.Begun detaching (submit console files o localConfig)
      (fun found => do
        follow console o found.2
        return report o found.1) g calls outcome calls' outcome') :
    StopsAtOrder calls outcome calls' outcome' := by
  cases h with
  | failed hsubmit =>
    simpa only [List.append_nil] using stopsAtOrder_of_submitted (submitted_of_submit hsubmit)
      (List.forall_mem_nil _) (fun _ => rfl) fun _ => id
  | @goesOn _ _ found _ hsubmit hlater =>
    obtain ⟨s, created⟩ := found
    refine stopsAtOrder_of_submitted (submitted_of_submit hsubmit) ?_ ?_ ?_
    · refine Plan.within_of_runs (P := fun q : Request => q.backend? = none) ?_ hlater
      exact Task.within_bind (backend?_of_follow created) fun _ => Task.within_pure _
    · intro hunfollowed
      cases created with
      | none => exact (Task.runs_pure.1 hlater).1
      | some created => exact absurd rfl (hunfollowed s created)
    · intro e he
      cases he

/-- A deploy that only builds, and one that is detached, are the same deploy cut short. The
worlds may be two, as long as they answer alike all that is the same but for its flags. -/
theorem cut_short_by_buildOnly_and_detach {ω ω' : Type} (w : World Deploy ω) (w' : World Deploy ω')
    (Corresponds : ω → ω' → Prop) (h : w.AlikeSeeing flagless Corresponds w') (state : ω)
    (state' : ω') (hstate : Corresponds state state') (console : Console) (files : Files)
    (o : DeployOptions) (localConfig : Option AppConfig) :
    StopsAtImage files o localConfig
        (callsIn w state console files { o with buildOnly := false } localConfig)
        (outcomeIn w state console files { o with buildOnly := false } localConfig)
        (callsIn w' state' console files { o with buildOnly := true } localConfig)
        (outcomeIn w' state' console files { o with buildOnly := true } localConfig) ∧
      StopsAtOrder (callsIn w state console files { o with detach := false } localConfig)
        (outcomeIn w state console files { o with detach := false } localConfig)
        (callsIn w' state' console files { o with detach := true } localConfig)
        (outcomeIn w' state' console files { o with detach := true } localConfig) := by
  constructor
  · rw [callsIn, outcomeIn, callsIn, outcomeIn, run_eq, run_buildOnly, prepare_buildOnly]
    exact stopsAtImage_of_begun (Task.begun_of_run h (flagless_onlyBuilding _) _ _ _ hstate)
  · rw [callsIn, outcomeIn, callsIn, outcomeIn, run_eq_submit, run_detach, submit_detach]
    exact stopsAtOrder_of_begun (Task.begun_of_run h flagless_detaching _ _ _ hstate)

theorem example_cut_short :
    StopsAtImage (.ofList [] []) Example.options none
        (callsIn ((Example.world (.ok ())).seeing flagless) () ⟨.quiet⟩ (.ofList [] [])
          { Example.options with buildOnly := false } none)
        (outcomeIn ((Example.world (.ok ())).seeing flagless) () ⟨.quiet⟩ (.ofList [] [])
          { Example.options with buildOnly := false } none)
        (callsIn ((Example.world (.ok ())).seeing flagless) () ⟨.quiet⟩ (.ofList [] [])
          { Example.options with buildOnly := true } none)
        (outcomeIn ((Example.world (.ok ())).seeing flagless) () ⟨.quiet⟩ (.ofList [] [])
          { Example.options with buildOnly := true } none) ∧
      StopsAtOrder
        (callsIn ((Example.world (.ok ())).seeing flagless) () ⟨.quiet⟩ (.ofList [] [])
          { Example.options with detach := false } none)
        (outcomeIn ((Example.world (.ok ())).seeing flagless) () ⟨.quiet⟩ (.ofList [] [])
          { Example.options with detach := false } none)
        (callsIn ((Example.world (.ok ())).seeing flagless) () ⟨.quiet⟩ (.ofList [] [])
          { Example.options with detach := true } none)
        (outcomeIn ((Example.world (.ok ())).seeing flagless) () ⟨.quiet⟩ (.ofList [] [])
          { Example.options with detach := true } none) :=
  cut_short_by_buildOnly_and_detach _ _ Eq (World.alikeSeeing_seeing flagless _) () () rfl
    ⟨.quiet⟩ (.ofList [] []) Example.options none

end AppDeploy.Deploy
