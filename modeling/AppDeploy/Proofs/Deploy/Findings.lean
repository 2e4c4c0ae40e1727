import AppDeploy.Proofs.Deploy.Course

/-!
# What a run of a deploy has found out

The calls of a deploy are read here without regard to the code that made them: which config
it starts with (`Base`), which app it is about and what platform is chosen for it (`Chosen`),
which image it has (`Found`), and all of that (`Prepared`). Every request belongs to one
stage of a deploy (`Request.stage`), so that a finding can stem from one stage only.
-/

namespace AppDeploy.Deploy

variable {files : Files} {o : DeployOptions} {c config : AppConfig} {app : AppSummary}
  {platform : Platform} {image : DeploymentImage} {localConfig : Option AppConfig}
  {calls : List (Exchange Deploy)}

/-! ## Stages -/

inductive Stage where
  | config | app | platform | image | handover | wait
deriving DecidableEq, Repr

/-- Whether things are only looked up at a stage. -/
def Stage.isInquiry : Stage → Bool
  | .config | .app | .platform => true
  | _ => false

/-- Whether everything has been found out at a stage. -/
def Stage.isLast : Stage → Bool
  | .handover | .wait => true
  | _ => false

theorem isLast_of_isInquiry {s : Stage} (h : s.isInquiry = true) : s.isLast = false := by
  cases s with
  | config | app | platform => rfl
  | image | handover | wait => cases h

/-- The stage of a deploy at which something is asked. -/
def Request.stage : Request → Stage
  | .openConfig _ | .fetchConfig _ => .config
  | .summary _ => .app
  | .machinesDefault _ => .platform
  | .findImage _ | .startHeartbeat | .buildImage _ | .releaseHeartbeat => .image
  | .createRelease _ | .runRollout _ => .handover
  | .release _ _ | .watchReleaseCommand _ _ | .watchDeployment _ _ => .wait

theorem stage_of_started {base : Except ConfigError AppConfig}
    (h : Started o.app localConfig calls base) {x : Exchange Deploy} (hx : x ∈ calls) :
    x.request.stage = .config := by
  cases h with
  | kept => simp at hx
  | unopened e =>
    obtain rfl := List.mem_singleton.1 hx
    rfl
  | fetched answer =>
    simp only [List.mem_cons, List.not_mem_nil, or_false] at hx
    rcases hx with rfl | rfl <;> rfl

theorem stage_of_obtained {found : Except BuildError DeploymentImage}
    (h : Obtained files o c calls found) {x : Exchange Deploy} (hx : x ∈ calls) :
    x.request.stage = .image := by
  cases h with
  | named _ answer =>
    obtain rfl := List.mem_singleton.1 hx
    rfl
  | unassembled => simp at hx
  | built _ _ answer =>
    simp only [List.mem_cons, List.not_mem_nil, or_false] at hx
    rcases hx with rfl | rfl | rfl <;> rfl

theorem stage_of_commandAwaited {created : CreatedRelease} {result : Except DeployError Release}
    (h : CommandAwaited o.app created calls result) {x : Exchange Deploy} (hx : x ∈ calls) :
    x.request.stage = .wait := by
  cases h with
  | none => simp at hx
  | failed _ e =>
    obtain rfl := List.mem_singleton.1 hx
    rfl
  | refreshed _ answer =>
    simp only [List.mem_cons, List.not_mem_nil, or_false] at hx
    rcases hx with rfl | rfl <;> rfl

theorem stage_of_releaseAwaited {release : Release} {result : Except DeployError Unit}
    (h : ReleaseAwaited o.app release calls result) {x : Exchange Deploy} (hx : x ∈ calls) :
    x.request.stage = .wait := by
  cases h with
  | immediate => simp at hx
  | watched _ answer =>
    obtain rfl := List.mem_singleton.1 hx
    rfl

/-- A release is created, and from then on it is waited for. -/
theorem created_or_wait_of_released {result : Except DeployError Unit}
    (h : Released o c image calls result) {x : Exchange Deploy} (hx : x ∈ calls) :
    x.request = .createRelease (newRelease o c image) ∨ x.request.stage = .wait := by
  cases h with
  | refused e =>
    obtain rfl := List.mem_singleton.1 hx
    exact .inl rfl
  | detached _ created =>
    obtain rfl := List.mem_singleton.1 hx
    exact .inl rfl
  | stranded _ hcommand =>
    rcases List.mem_cons.1 hx with rfl | hx
    · exact .inl rfl
    · exact .inr (stage_of_commandAwaited hcommand hx)
  | followed _ hcommand hwatch =>
    rcases List.mem_cons.1 hx with rfl | hx
    · exact .inl rfl
    · rcases List.mem_append.1 hx with hx | hx
      · exact .inr (stage_of_commandAwaited hcommand hx)
      · exact .inr (stage_of_releaseAwaited hwatch hx)

/-- The one call that a rollout needs. -/
theorem request_of_rolledOut {result : Except DeployError Unit}
    (h : RolledOut o c app image calls result) {x : Exchange Deploy} (hx : x ∈ calls) :
    ∃ rollout, newRollout o c app image = .ok rollout ∧ x.request = .runRollout rollout := by
  cases h with
  | unfit => simp at hx
  | unread => simp at hx
  | run _ hr answer =>
    obtain rfl := List.mem_singleton.1 hx
    exact ⟨_, hr, rfl⟩

theorem stage_of_resolved (h : Resolved o localConfig calls config app platform)
    {x : Exchange Deploy} (hx : x ∈ calls) :
    x.request.stage = .config ∨ x.request.stage = .app ∨ x.request.stage = .platform := by
  obtain ⟨start, base, answer, hstart, -, rfl, -⟩ := h
  rcases List.mem_append.1 hx with hx | hx
  · exact .inl (stage_of_started hstart hx)
  · simp only [List.mem_cons, List.not_mem_nil, or_false] at hx
    rcases hx with rfl | rfl
    · exact .inr (.inl rfl)
    · exact .inr (.inr rfl)

theorem inquiry_of_started {found : Except ConfigError AppConfig}
    (h : Started o.app localConfig calls found) :
    ∀ y ∈ calls, y.request.stage.isInquiry = true := by
  intro y hy
  rw [stage_of_started h hy]
  rfl

theorem inquiry_of_resolved (h : Resolved o localConfig calls config app platform) :
    ∀ y ∈ calls, y.request.stage.isInquiry = true := by
  intro y hy
  rcases stage_of_resolved h hy with hstage | hstage | hstage <;> rw [hstage] <;> rfl

/-- Up to the image, a deploy does not come to its last stages. -/
theorem notLast_of_obtained {acquire : List (Exchange Deploy)}
    {found : Except BuildError DeploymentImage}
    (hresolved : Resolved o localConfig calls config app platform)
    (himage : Obtained files o config acquire found) :
    ∀ y ∈ calls ++ acquire, y.request.stage.isLast = false := by
  refine List.forall_mem_append.2 ⟨?_, ?_⟩
  · intro y hy
    exact isLast_of_isInquiry (inquiry_of_resolved hresolved y hy)
  · intro y hy
    rw [stage_of_obtained himage hy]
    rfl

/-! ## Findings -/

/-- The config that a deploy starts with: the one that it is given, or else the one that was
fetched. -/
inductive Base (app : AppName) (calls : List (Exchange Deploy)) :
    Option AppConfig → AppConfig → Prop where
  | kept (base : AppConfig) : Base app calls (some base) base
  | fetched {base : AppConfig} (hopen : ⟨.openConfig app, .ok ()⟩ ∈ calls)
      (hfetch : ⟨.fetchConfig app, .ok base⟩ ∈ calls) : Base app calls none base

/-- The app was looked up, and the platform is the one to select for it. -/
structure Chosen (o : DeployOptions) (calls : List (Exchange Deploy)) (app : AppSummary)
    (platform : Platform) : Prop where
  looked : ⟨.summary o.app, .ok app⟩ ∈ calls
  selected : ∃ answer, ⟨.machinesDefault app.organization.slug, answer⟩ ∈ calls ∧
    platform = .select app o.forceReleases o.forceMachines (saysMachines answer)

/-- The image that was found or built for a config. -/
inductive Found (files : Files) (o : DeployOptions) (c : AppConfig)
    (calls : List (Exchange Deploy)) (image : DeploymentImage) : Prop where
  | named {reference : String} (h : namedImage o c = some reference)
      (hfind : ⟨.findImage (referenceRequest o reference), .ok (some image)⟩ ∈ calls)
  | built {request : BuildRequest} (h : namedImage o c = none)
      (hr : buildRequest files o c = .ok request)
      (hbuild : ⟨.buildImage request, .ok (some image)⟩ ∈ calls)

/-- Everything is found out that has to be before an image goes to a platform. -/
structure Prepared (files : Files) (o : DeployOptions) (localConfig : Option AppConfig)
    (calls : List (Exchange Deploy)) (config : AppConfig) (app : AppSummary)
    (platform : Platform) (image : DeploymentImage) : Prop where
  settled : ∃ base, Base o.app calls localConfig base ∧ settle o base = .ok config
  chosen : Chosen o calls app platform
  fit : ensurePlatform config platform = .ok ()
  found : Found files o config calls image

section Monotone

variable {later : List (Exchange Deploy)}

theorem Base.mono {base : AppConfig} (h : Base o.app calls localConfig base)
    (hsub : calls ⊆ later) : Base o.app later localConfig base := by
  cases h with
  | kept => exact .kept base
  | fetched hopen hfetch => exact .fetched (hsub hopen) (hsub hfetch)

theorem Chosen.mono (h : Chosen o calls app platform) (hsub : calls ⊆ later) :
    Chosen o later app platform := by
  obtain ⟨answer, hanswer, hplatform⟩ := h.selected
  exact ⟨hsub h.looked, answer, hsub hanswer, hplatform⟩

theorem Found.mono (h : Found files o c calls image) (hsub : calls ⊆ later) :
    Found files o c later image := by
  cases h with
  | named h hfind => exact .named h (hsub hfind)
  | built h hr hbuild => exact .built h hr (hsub hbuild)

theorem Prepared.mono (h : Prepared files o localConfig calls config app platform image)
    (hsub : calls ⊆ later) : Prepared files o localConfig later config app platform image := by
  obtain ⟨base, hbase, hsettle⟩ := h.settled
  exact ⟨⟨base, hbase.mono hsub, hsettle⟩, h.chosen.mono hsub, h.fit, h.found.mono hsub⟩

end Monotone

/-! ## Findings of the stages -/

theorem base_of_started {base : AppConfig} (h : Started o.app localConfig calls (.ok base)) :
    Base o.app calls localConfig base := by
  generalize hresult : Except.ok base = result at h
  cases h with
  | kept base' =>
    cases hresult
    exact .kept base
  | unopened e => cases hresult
  | fetched answer =>
    cases answer with
    | error e => cases hresult
    | ok base' =>
      cases hresult
      exact .fetched (by simp) (by simp)

theorem Resolved.base (h : Resolved o localConfig calls config app platform) :
    ∃ base, Base o.app calls localConfig base ∧ settle o base = .ok config := by
  obtain ⟨start, base, answer, hstart, hc, rfl, -⟩ := h
  exact ⟨base, (base_of_started hstart).mono (List.subset_append_left ..), hc⟩

theorem Resolved.chosen (h : Resolved o localConfig calls config app platform) :
    Chosen o calls app platform := by
  obtain ⟨start, base, answer, -, -, rfl, hplatform⟩ := h
  exact ⟨by simp, answer, by simp, hplatform⟩

theorem found_of_obtained (h : Obtained files o c calls (.ok image)) :
    Found files o c calls image := by
  generalize hresult : Except.ok image = result at h
  cases h with
  | named h answer =>
    rcases answer with e | _ | image' <;> cases hresult
    exact .named h (by simp)
  | unassembled => cases hresult
  | built h hr answer =>
    rcases answer with e | _ | image' <;> cases hresult
    exact .built h hr (by simp)

/-- Once the image is there, everything is. -/
theorem prepared_of_obtained {acquire : List (Exchange Deploy)}
    (hresolved : Resolved o localConfig calls config app platform)
    (hfit : ensurePlatform config platform = .ok ())
    (himage : Obtained files o config acquire (.ok image)) :
    Prepared files o localConfig (calls ++ acquire) config app platform image := by
  obtain ⟨base, hbase, hsettle⟩ := hresolved.base
  exact {
    settled := ⟨base, hbase.mono (List.subset_append_left ..), hsettle⟩
    chosen := hresolved.chosen.mono (List.subset_append_left ..)
    fit := hfit
    found := (found_of_obtained himage).mono (List.subset_append_right ..) }

/-! ## The last stages -/

/-- A deploy comes to its last stages: it has found out everything in some first calls, none
of them of those stages, and dispatches the image in the others. -/
def Reached (files : Files) (o : DeployOptions) (localConfig : Option AppConfig)
    (calls : List (Exchange Deploy)) (result : Except DeployError Report) : Prop :=
  ∃ first second config app platform image dispatched, calls = first ++ second ∧
    (∀ y ∈ first, y.request.stage.isLast = false) ∧
    Prepared files o localConfig first config app platform image ∧
    o.buildOnly = false ∧
    Dispatched o config.tellPrimaryRegion app image platform second dispatched ∧
    result = dispatched.map fun _ => ⟨platform, image, true⟩

/-- A deploy comes to its last stages, or it has neither calls of them nor dispatched its
image. -/
theorem reached_or_not {result : Except DeployError Report}
    (h : Course files o localConfig calls result) :
    Reached files o localConfig calls result ∨
      (∀ y ∈ calls, y.request.stage.isLast = false) ∧
        ∀ report, result = .ok report → report.dispatched = false := by
  cases h with
  | unresolved hstart =>
    refine .inr ⟨?_, fun _ hresult => by cases hresult⟩
    intro y hy
    exact isLast_of_isInquiry (inquiry_of_started hstart y hy)
  | unknown hstart _ e =>
    refine .inr ⟨List.forall_mem_append.2 ⟨?_, ?_⟩, fun _ hresult => by cases hresult⟩
    · intro y hy
      exact isLast_of_isInquiry (inquiry_of_started hstart y hy)
    · exact List.forall_mem_cons.2 ⟨rfl, List.forall_mem_nil _⟩
  | @delivered before _ config app platform _ hresolved hdelivered =>
    cases hdelivered with
    | unfit =>
      rw [List.append_nil]
      refine .inr ⟨?_, fun _ hresult => by cases hresult⟩
      intro y hy
      exact isLast_of_isInquiry (inquiry_of_resolved hresolved y hy)
    | imageless _ himage =>
      exact .inr ⟨notLast_of_obtained hresolved himage, fun _ hresult => by cases hresult⟩
    | built _ himage =>
      refine .inr ⟨notLast_of_obtained hresolved himage, ?_⟩
      intro report hresult
      cases hresult
      rfl
    | dispatched hfit himage hbuild hdispatch =>
      exact .inl ⟨_, _, config, app, platform, _, _, (List.append_assoc ..).symm,
        notLast_of_obtained hresolved himage, prepared_of_obtained hresolved hfit himage, hbuild,
        hdispatch, rfl⟩

theorem reached_of_call {result : Except DeployError Report}
    (h : Course files o localConfig calls result) {x : Exchange Deploy} (hx : x ∈ calls)
    (hlast : x.request.stage.isLast = true) : Reached files o localConfig calls result := by
  rcases reached_or_not h with hreached | ⟨hnot, -⟩
  · exact hreached
  · rw [hnot x hx] at hlast
    cases hlast

theorem reached_of_dispatched {report : Report}
    (h : Course files o localConfig calls (.ok report)) (hdispatched : report.dispatched = true) :
    Reached files o localConfig calls (.ok report) := by
  rcases reached_or_not h with hreached | ⟨-, hnot⟩
  · exact hreached
  · rw [hnot report rfl] at hdispatched
    cases hdispatched

/-! ## Backends -/

/-- The platform that a call hands an image to. -/
def Request.backend? : Request → Option Platform
  | .createRelease _ => some .releases
  | .runRollout _ => some .machines
  | _ => none

theorem stage_of_backend? {q : Request} (h : q.backend? = some platform) : q.stage = .handover := by
  cases q with
  | createRelease => rfl
  | runRollout => rfl
  | _ => cases h

theorem backend?_of_dispatched {result : Except DeployError Unit} {x : Exchange Deploy}
    {backend : Platform} (h : Dispatched o c app image platform calls result) (hx : x ∈ calls)
    (hbackend : x.request.backend? = some backend) : backend = platform := by
  cases h with
  | machines h =>
    obtain ⟨rollout, -, hrequest⟩ := request_of_rolledOut h hx
    rw [hrequest] at hbackend
    exact (Option.some.inj hbackend).symm
  | releases h =>
    rcases created_or_wait_of_released h hx with hrequest | hwait
    · rw [hrequest] at hbackend
      exact (Option.some.inj hbackend).symm
    · rw [stage_of_backend? hbackend] at hwait
      cases hwait

/-- An element that does not occur in the first of two lists splits the second of them. -/
theorem split_of_not_mem {α : Type} {first second before after : List α} {x : α}
    (h : first ++ second = before ++ x :: after) (hx : x ∉ first) :
    ∃ middle, before = first ++ middle ∧ second = middle ++ x :: after := by
  rcases List.append_eq_append_iff.1 h with ⟨middle, hbefore, hsecond⟩ | ⟨middle, hfirst, hrest⟩
  · exact ⟨middle, hbefore, hsecond⟩
  · -- Otherwise the first list reaches beyond `before`, and unless it only meets its end it
    -- would hold the element.
    cases middle with
    | nil => exact ⟨[], by simpa using hfirst.symm, by simpa using hrest.symm⟩
    | cons y middle =>
      obtain ⟨rfl, -⟩ := List.cons.inj hrest
      exact absurd (by simp [hfirst]) hx

/-- An element that occurs once splits a list in one way. -/
theorem split_of_once {α : Type} {first rest before after : List α} {x y : α}
    (h : first ++ y :: rest = before ++ x :: after) (hfirst : x ∉ first) (hrest : x ∉ rest) :
    before = first ∧ x = y ∧ after = rest := by
  obtain ⟨middle, rfl, hlast⟩ := split_of_not_mem h hfirst
  cases middle with
  | nil =>
    obtain ⟨rfl, rfl⟩ := List.cons.inj hlast
    exact ⟨List.append_nil _, rfl, rfl⟩
  | cons z middle =>
    obtain ⟨rfl, rfl⟩ := List.cons.inj hlast
    simp at hrest

/-- Before an image goes to a platform, everything is found out and found fit. -/
theorem handover_of_course {before after : List (Exchange Deploy)} {x : Exchange Deploy}
    {result : Except DeployError Report}
    (h : Course files o localConfig (before ++ x :: after) result)
    (hbackend : x.request.backend? = some platform) :
    o.buildOnly = false ∧ ∃ config app image second dispatched,
      Prepared files o localConfig before config app platform image ∧
      Dispatched o config.tellPrimaryRegion app image platform second dispatched ∧
      x ∈ second := by
  have hlast : x.request.stage.isLast = true := by
    rw [stage_of_backend? hbackend]
    rfl
  obtain ⟨first, second, config, app, chosen, image, dispatched, hcalls, hfirst, hprepared,
    hbuild, hdispatch, -⟩ := reached_of_call h (by simp) hlast
  have hnot : x ∉ first := by
    intro hx
    rw [hfirst x hx] at hlast
    cases hlast
  -- The call lies in the second part, so that all of the first part came before it.
  obtain ⟨middle, rfl, rfl⟩ := split_of_not_mem hcalls.symm hnot
  obtain rfl := backend?_of_dispatched hdispatch (by simp) hbackend
  exact ⟨hbuild, config, app, image, _, dispatched,
    hprepared.mono (List.subset_append_left ..), hdispatch, by simp⟩

end AppDeploy.Deploy
