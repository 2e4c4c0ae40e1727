import AppDeploy.Proofs.Deploy.Findings
import AppDeploy.Proofs.Plan.Lockstep

/-!
# What a deploy does not depend on

What shows of a deploy is what it prints, logs and asks, in order, and what it comes to
(`shownIn`). Only the choice of the platform looks at the flags that force one and at the
default of the organization; what follows that choice depends on the platform alone. So two
deploys that choose the same platform show the same, whatever else they were told about it
(`shown_eq_of_select`).
-/

namespace AppDeploy.Deploy

variable {console : Console} {files : Files} {o : DeployOptions} {c : AppConfig}
  {app : AppSummary} {platform : Platform} {localConfig : Option AppConfig}
  {calls : List (Exchange Deploy)}

/-! ## The parts of a deploy -/

/-- What is left of a deploy when its app is looked up. -/
def afterSummary (console : Console) (files : Files) (o : DeployOptions) (c : AppConfig) :
    Except ApiError AppSummary → Plan Deploy (Except DeployError Report)
  | .error e => .done (.error (.appLookup o.app e))
  | .ok app =>
    (Plan.request (S := Deploy) (.machinesDefault app.organization.slug)).bind fun answer =>
      (deliver console files o c app
        (.select app o.forceReleases o.forceMachines (saysMachines answer))).run

/-- What is left of a deploy when its config is resolved. -/
def afterConfig (console : Console) (files : Files) (o : DeployOptions) :
    Except ConfigError AppConfig → Plan Deploy (Except DeployError Report)
  | .error e => .done (.error (.config e))
  | .ok c => (Plan.request (S := Deploy) (.summary o.app)).bind (afterSummary console files o c)

theorem choosePlatform_bind {α : Type} {f : Platform → Plan Deploy α} :
    (choosePlatform o app).bind f =
      (Plan.request (S := Deploy) (.machinesDefault app.organization.slug)).bind fun answer =>
        f (.select app o.forceReleases o.forceMachines (saysMachines answer)) := by
  refine (Plan.bind_assoc ..).trans ?_
  congr
  funext answer
  cases answer <;> rfl

theorem run_eq_afterConfig :
    (run console files o localConfig).run =
      (resolveConfig console o localConfig).run.bind (afterConfig console files o) := by
  refine Task.run_attempt_bind.trans ?_
  congr
  funext resolved
  cases resolved with
  | error e => rfl
  | ok c =>
    refine Task.run_attempt_bind.trans ?_
    congr
    funext looked
    cases looked with
    | error e => rfl
    | ok app => exact Task.run_lift_bind.trans choosePlatform_bind

theorem notPlatform_of_delivered {result : Except DeployError Report}
    (h : Delivered files o c app platform calls result) :
    ∀ x ∈ calls, x.request.stage ≠ .platform := by
  have hobtained : ∀ {acquire found}, Obtained files o c acquire found →
      ∀ x ∈ acquire, x.request.stage ≠ .platform := by
    intro acquire found himage x hx
    simp [stage_of_obtained himage hx]
  cases h with
  | unfit => exact List.forall_mem_nil _
  | imageless _ himage => exact hobtained himage
  | built _ himage => exact hobtained himage
  | dispatched _ himage _ hdispatch =>
    refine List.forall_mem_append.2 ⟨hobtained himage, ?_⟩
    intro x hx
    cases hdispatch with
    | machines h =>
      obtain ⟨rollout, -, hrequest⟩ := request_of_rolledOut h hx
      simp [hrequest, Request.stage]
    | releases h =>
      rcases created_or_wait_of_released h hx with hrequest | hwait
      · simp [hrequest, Request.stage]
      · simp [hwait]

/-! ## Deploys side by side -/

section World

variable {ω ω' : Type}

/-- What shows of a deploy in a world. -/
def shownIn (w : World Deploy ω) (state : ω) (console : Console) (files : Files)
    (o : DeployOptions) (localConfig : Option AppConfig) :
    List (Note ⊕ Request) × Except DeployError Report :=
  Plan.shown w (run console files o localConfig).run state

/-- Two worlds answer alike, but for the defaults of organizations: of these they may say
different things. -/
structure AlikeButDefault (MaySay : Except ApiError Bool → Except ApiError Bool → Prop)
    (Corresponds : ω → ω' → Prop) (w : World Deploy ω) (w' : World Deploy ω') : Prop where
  others : w.Alike Corresponds (fun q : Request => q.stage ≠ .platform) w'
  default : ∀ organization state state', Corresponds state state' →
    MaySay (w.answer (.machinesDefault organization) state).1
      (w'.answer (.machinesDefault organization) state').1 ∧
    Corresponds (w.answer (.machinesDefault organization) state).2
      (w'.answer (.machinesDefault organization) state').2

variable {MaySay : Except ApiError Bool → Except ApiError Bool → Prop}
  {Corresponds : ω → ω' → Prop} {w : World Deploy ω} {w' : World Deploy ω'} {state : ω}
  {state' : ω'}

/-- For an app, other flags and defaults make the same choice of a platform. -/
def SameChoice (MaySay : Except ApiError Bool → Except ApiError Bool → Prop) (o : DeployOptions)
    (forceReleases forceMachines : Bool) (app : AppSummary) : Prop :=
  ∀ answer answer', MaySay answer answer' →
    Platform.select app forceReleases forceMachines (saysMachines answer') =
      Platform.select app o.forceReleases o.forceMachines (saysMachines answer)

theorem shown_deliver (h : AlikeButDefault MaySay Corresponds w w')
    (hstate : Corresponds state state') :
    Plan.shown w' (deliver console files o c app platform).run state' =
      Plan.shown w (deliver console files o c app platform).run state := by
  have hdelivered := runs_deliver.1
    (Plan.runs_run w (deliver console files o c app platform).run state)
  obtain ⟨hevents, hresult, -⟩ :=
    Plan.run_congr h.others _ hstate (notPlatform_of_delivered hdelivered)
  rw [Plan.shown, Plan.shown, hevents, hresult]

/-- Once an app is looked up, all that counts of the flags and the default is the platform that
they make it choose. -/
theorem shown_afterSummary (h : AlikeButDefault MaySay Corresponds w w')
    (hstate : Corresponds state state') {forceReleases forceMachines : Bool}
    (hselect : SameChoice MaySay o forceReleases forceMachines app) :
    Plan.shown w' (afterSummary console files { o with forceReleases, forceMachines } c (.ok app))
        state' =
      Plan.shown w (afterSummary console files o c (.ok app)) state := by
  obtain ⟨hdefault, hnext⟩ := h.default app.organization.slug state state' hstate
  rw [afterSummary, afterSummary, Plan.shown_request_bind, Plan.shown_request_bind,
    hselect _ _ hdefault, ← shown_deliver h hnext]
  -- A delivery itself does not look at the flags.
  rfl

theorem shown_afterConfig (h : AlikeButDefault MaySay Corresponds w w')
    (hstate : Corresponds state state') {forceReleases forceMachines : Bool}
    {resolved : Except ConfigError AppConfig}
    (hselect : ∀ app,
      ⟨.summary o.app, .ok app⟩ ∈
        exchanges (Plan.run w (afterConfig console files o resolved) state).1 →
      SameChoice MaySay o forceReleases forceMachines app) :
    Plan.shown w' (afterConfig console files { o with forceReleases, forceMachines } resolved)
        state' =
      Plan.shown w (afterConfig console files o resolved) state := by
  cases resolved with
  | error e => rfl
  | ok c =>
    obtain ⟨hlooked, hnext⟩ :=
      h.others (.summary o.app) state state' (by simp [Request.stage]) hstate
    rw [afterConfig, Plan.run_bind] at hselect
    rw [afterConfig, afterConfig, Plan.shown_request_bind, Plan.shown_request_bind, hlooked]
    cases hanswer : (w.answer (.summary o.app) state).1 with
    | error e => rfl
    | ok app =>
      have hmem : (⟨.summary o.app, .ok app⟩ : Exchange Deploy) ∈
          exchanges (Plan.run w (Plan.request (S := Deploy) (.summary o.app)) state).1 := by
        simp [Plan.request, Plan.run, exchanges, Event.exchange?, hanswer]
      rw [exchanges_append] at hselect
      rw [shown_afterSummary h hnext (hselect app (List.mem_append_left _ hmem))]

/-- Two deploys that choose the same platform show the same, whatever they are told about it. -/
theorem shown_eq_of_select (h : AlikeButDefault MaySay Corresponds w w')
    (hstate : Corresponds state state') {forceReleases forceMachines : Bool}
    (hselect : ∀ app, ⟨.summary o.app, .ok app⟩ ∈ callsIn w state console files o localConfig →
      SameChoice MaySay o forceReleases forceMachines app) :
    shownIn w' state' console files { o with forceReleases, forceMachines } localConfig =
      shownIn w state console files o localConfig := by
  rw [callsIn, run_eq_afterConfig, Plan.run_bind, exchanges_append] at hselect
  rw [shownIn, shownIn, run_eq_afterConfig, run_eq_afterConfig]
  -- The config is resolved in lockstep: it has nothing to do with the flags.
  have hconfig : ∀ x ∈ exchanges (Plan.run w (resolveConfig console o localConfig).run state).1,
      x.request.stage ≠ .platform := by
    intro x hx
    obtain ⟨base, hstart, -⟩ := runs_resolveConfig.1
      (Plan.runs_run w (resolveConfig console o localConfig).run state)
    simp [stage_of_started hstart hx]
  refine Plan.shown_bind_congr h.others (resolveConfig console o localConfig).run hstate hconfig ?_
  intro after' hafter
  refine shown_afterConfig h hafter fun app hlooked => hselect app ?_
  exact List.mem_append_right _ hlooked

/-! ## What does not matter -/

/-- What may be said of a default that is not known: what is said of it otherwise, or that it
cannot be had, if it is off. -/
def UnknownIfOff (answer answer' : Except ApiError Bool) : Prop :=
  answer' = answer ∨ answer = .ok false ∧ ∃ e, answer' = .error e

theorem saysMachines_of_unknownIfOff {answer answer' : Except ApiError Bool}
    (h : UnknownIfOff answer answer') : saysMachines answer' = saysMachines answer := by
  rcases h with rfl | ⟨rfl, e, rfl⟩
  · rfl
  · rfl

/-- An app that was deployed before stays on its platform. -/
theorem select_of_deployed (h : app.deployed = true)
    {forceReleases forceMachines machinesDefault : Bool} :
    Platform.select app forceReleases forceMachines machinesDefault =
      app.platform.getD .releases := by
  rw [Platform.select, if_pos h]

/-- In worlds that answer alike, a deploy shows the same whether it is confirmed in advance or
not, whether the default of the organization is off or cannot be had, and, if its app was
deployed before, whatever the default is and whatever flags force a platform. -/
theorem idle_wishes_do_not_show (w : World Deploy ω) (w' : World Deploy ω')
    (Corresponds : ω → ω' → Prop) (state : ω) (state' : ω') (hstate : Corresponds state state')
    (console : Console) (files : Files) (o : DeployOptions) (localConfig : Option AppConfig) :
    (AlikeButDefault Eq Corresponds w w' → ∀ autoConfirm,
      shownIn w' state' console files { o with autoConfirm } localConfig =
        shownIn w state console files o localConfig) ∧
    (AlikeButDefault UnknownIfOff Corresponds w w' →
      shownIn w' state' console files o localConfig =
        shownIn w state console files o localConfig) ∧
    (AlikeButDefault (fun _ _ => True) Corresponds w w' →
      (∀ app, ⟨.summary o.app, .ok app⟩ ∈ callsIn w state console files o localConfig →
        app.deployed = true) →
      ∀ forceReleases forceMachines,
        shownIn w' state' console files { o with forceReleases, forceMachines } localConfig =
          shownIn w state console files o localConfig) := by
  refine ⟨?_, ?_, ?_⟩
  · intro h autoConfirm
    -- No part of a deploy reads this flag, so that it is the same deploy.
    have hsame : shownIn w' state' console files { o with autoConfirm } localConfig =
        shownIn w' state' console files o localConfig := rfl
    rw [hsame]
    exact shown_eq_of_select h hstate fun _ _ _ _ hanswer => by rw [hanswer]
  · intro h
    refine shown_eq_of_select h hstate fun _ _ _ _ hanswer => ?_
    rw [saysMachines_of_unknownIfOff hanswer]
  · intro h hdeployed forceReleases forceMachines
    refine shown_eq_of_select h hstate fun app hlooked _ _ _ => ?_
    rw [select_of_deployed (hdeployed app hlooked), select_of_deployed (hdeployed app hlooked)]

end World

namespace Example

/-- A world in which the app was deployed to machines before, and something is said of the
default of its organization. -/
def deployedWorld (default : Except ApiError Bool) : World Deploy Unit where
  answer q state := (match q with
    | .summary _ => .ok { Example.app with platform := some .machines, deployed := true }
    | .machinesDefault _ => default
    | q => ((world (.ok ())).answer q state).1, state)

theorem alike_deployedWorld {MaySay : Except ApiError Bool → Except ApiError Bool → Prop}
    {default default' : Except ApiError Bool} (h : MaySay default default') :
    AlikeButDefault MaySay Eq (deployedWorld default) (deployedWorld default') where
  others q state state' hq _ := by
    cases q with
    | machinesDefault => exact absurd rfl hq
    | _ => exact ⟨rfl, rfl⟩
  default organization state state' _ := ⟨h, rfl⟩

end Example

theorem example_deployed_before :
    (∀ autoConfirm,
      shownIn (Example.deployedWorld (.ok true)) () ⟨.quiet⟩ (.ofList [] [])
          { Example.options with autoConfirm } none =
        shownIn (Example.deployedWorld (.ok true)) () ⟨.quiet⟩ (.ofList [] [])
          Example.options none) ∧
    (∀ e,
      shownIn (Example.deployedWorld (.error e)) () ⟨.quiet⟩ (.ofList [] []) Example.options none =
        shownIn (Example.deployedWorld (.ok false)) () ⟨.quiet⟩ (.ofList [] [])
          Example.options none) ∧
    ∀ default forceReleases forceMachines,
      shownIn (Example.deployedWorld default) () ⟨.quiet⟩ (.ofList [] [])
          { Example.options with forceReleases, forceMachines } none =
        shownIn (Example.deployedWorld (.ok true)) () ⟨.quiet⟩ (.ofList [] [])
          Example.options none := by
  refine ⟨?_, ?_, ?_⟩
  · exact (idle_wishes_do_not_show _ _ Eq () () rfl _ _ _ _).1 (Example.alike_deployedWorld rfl)
  · intro e
    exact (idle_wishes_do_not_show _ _ Eq () () rfl _ _ _ _).2.1
      (Example.alike_deployedWorld (.inr ⟨rfl, e, rfl⟩))
  · intro default
    refine (idle_wishes_do_not_show _ _ Eq () () rfl _ _ _ _).2.2
      (Example.alike_deployedWorld trivial) ?_
    intro app hlooked
    obtain ⟨_, hanswer⟩ := Plan.answer_of_run _ _ _ _ hlooked
    cases hanswer
    rfl

end AppDeploy.Deploy
