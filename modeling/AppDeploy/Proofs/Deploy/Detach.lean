import AppDeploy.Proofs.Config.RoundTrip
import AppDeploy.Proofs.Deploy.ErrorKind
import AppDeploy.Proofs.Deploy.Posts
import AppDeploy.Proofs.Deploy.Success

/-!
# Detached deploys

What a detached deploy does once its release or rollout is accepted depends on the platform
(`Followed`): a release ends it at once and well, but a rollout is watched as in any other deploy.
So it returns at once exactly if its platform is that of releases
(`detached_returnsAtOnce_iff`).
-/

namespace AppDeploy.Deploy

open Outside (AddsNothing)

variable {c : ControlPlane} {b : ImageBuilder} {files : Files} {o : DeployOptions}
  {config : AppConfig} {app : AppSummary} {image : DeploymentImage} {platform : Platform}
  {calls : List (Exchange Deploy)} {before after : List (Exchange Outside)}
  {x : Exchange Outside}

/-! ## What is accepted -/

/-- The control plane has accepted a request for a release or a rollout of an app. -/
inductive Accepted (c : ControlPlane) (app : AppName) (posted : Exchange Outside) :
    Platform → Prop where
  | release {order : NewRelease} {created : CreatedRelease} {took : Span}
      (h : c.Answers .post (.releases app) (some order.toJson) CreatedRelease.read posted
        ⟨.ok created, took⟩) : Accepted c app posted .releases
  | rollout {order : NewRollout} {created : CreatedRollout} {took : Span}
      (h : c.Answers .post (.rollouts app) (some order.toJson) CreatedRollout.read posted
        ⟨.ok created, took⟩) : Accepted c app posted .machines

/-- What follows the request that dispatches the image of a detached deploy once it is accepted,
and what the deploy comes to: nothing after a release, and after a rollout it is watched. -/
inductive Followed (c : ControlPlane) (app : AppName) (posted : Exchange Outside) :
    Platform → List (Exchange Outside) → Except DeployError Report → Prop where
  | released (image : DeploymentImage) :
      Followed c app posted .releases [] (.ok ⟨.releases, image, true⟩)
  | rolled {order : NewRollout} {created : CreatedRollout} {took : Span}
      (h : c.Answers .post (.rollouts app) (some order.toJson) CreatedRollout.read posted
        ⟨.ok created, took⟩) (image : DeploymentImage) {polls : List (Exchange Outside)}
      {result : Except WatchError Unit}
      (hpolls : Plan.Runs (c.watch (.rollout app created.id)) polls result) :
      Followed c app posted .machines polls
        (((result.mapError .watch).mapError .rollout).map fun _ => ⟨.machines, image, true⟩)

/-- A deploy sends nothing more, and ends well. -/
def ReturnsAtOnce (after : List (Exchange Outside)) (outcome : Except DeployError Report) : Prop :=
  (∀ y ∈ after, y.request.isSend = false) ∧ ∃ report, outcome = .ok report

theorem Accepted.isPost (h : Accepted c o.app x platform) : x.request.isPost = true := by
  cases h with
  | release h | rollout h => exact h.isPost

/-- An order says whether it is for a release or for a rollout. -/
theorem release_ne_rollout (release : NewRelease) (rollout : NewRollout) :
    release.toJson ≠ rollout.toJson := by
  intro h
  -- The two name their app in fields of different names.
  have happ : release.toJson.field? "app_id" = some (.str release.app.text) := by
    show (Table.ofList _).get? "app_id" = _
    simp
  have hnone : rollout.toJson.field? "app_id" = none := by
    show (Table.ofList _).get? "app_id" = _
    simp
  rw [h, hnone] at happ
  cases happ

/-- Where a release was asked for, only a release can have been accepted. -/
theorem Accepted.of_release {order : NewRelease} {found : Except ApiError CreatedRelease}
    {took : Span} (h : Accepted c o.app x platform)
    (hpost : c.Answers .post (.releases o.app) (some order.toJson) CreatedRelease.read x
      ⟨found, took⟩) : platform = .releases ∧ ∃ created, found = .ok created := by
  cases h with
  | release h =>
    obtain ⟨rfl, -⟩ := Timed.mk.inj (hpost.unique h)
    exact ⟨rfl, _, rfl⟩
  | rollout h => exact absurd (hpost.body_unique h) (release_ne_rollout _ _)

theorem Accepted.of_rollout {order : NewRollout} {found : Except ApiError CreatedRollout}
    {took : Span} (h : Accepted c o.app x platform)
    (hpost : c.Answers .post (.rollouts o.app) (some order.toJson) CreatedRollout.read x
      ⟨found, took⟩) : platform = .machines ∧ ∃ created, found = .ok created := by
  cases h with
  | release h => exact absurd (h.body_unique hpost) (release_ne_rollout _ _)
  | rollout h =>
    obtain ⟨rfl, -⟩ := Timed.mk.inj (hpost.unique h)
    exact ⟨rfl, _, rfl⟩

/-! ## What follows -/

theorem answers_of_createRelease {order : NewRelease} {answer : Except ApiError CreatedRelease}
    (h : Plan.Carried (S := Deploy) (carry c b files) [⟨.createRelease order, answer⟩]
      (before ++ x :: after)) :
    after = [] ∧ ∃ took, c.Answers .post (.releases order.app) (some order.toJson)
      CreatedRelease.read x ⟨answer, took⟩ := by
  have hcarried := Plan.carried_singleton.1 h
  have hrun : Plan.Runs (c.post (.releases order.app) order.toJson CreatedRelease.read)
      (before ++ x :: after) answer := hcarried
  exact (ControlPlane.answers_of_runs_post hrun).2

theorem followed_of_released {dispatched : Except DeployError Unit} (hdetach : o.detach = true)
    (haccepted : Accepted c o.app x platform) (h : Released o config image calls dispatched)
    (hcarried : Plan.Carried (carry c b files) calls (before ++ x :: after)) :
    Followed c o.app x platform after (dispatched.map fun _ => ⟨.releases, image, true⟩) := by
  cases h with
  | refused e =>
    obtain ⟨-, took, hpost⟩ := answers_of_createRelease hcarried
    obtain ⟨-, created, hcreated⟩ := haccepted.of_release hpost
    cases hcreated
  | detached _ created =>
    obtain ⟨rfl, took, hpost⟩ := answers_of_createRelease hcarried
    obtain ⟨rfl, -⟩ := haccepted.of_release hpost
    exact .released image
  -- Only a deploy that is not detached goes on after that.
  | stranded h | followed h => cases hdetach.symm.trans h

/-- Once a rollout is accepted, it is watched. -/
theorem followed_of_runRollout {order : NewRollout} {result : Except RolloutError Unit}
    (haccepted : Accepted c o.app x platform) (happ : order.app = o.app)
    (h : Plan.Runs (c.runRollout order) (before ++ x :: after) result) :
    Followed c o.app x platform after
      ((result.mapError .rollout).map fun _ => ⟨.machines, image, true⟩) := by
  obtain ⟨first, created, rest, hpost, hrest, hsplit⟩ := Plan.runs_bind.1 h
  rw [happ] at hpost
  cases created with
  | error e =>
    -- A rollout that is refused is the end of the run, but this one was accepted.
    obtain ⟨rfl, -⟩ := Plan.runs_done.1 hrest
    rw [List.append_nil] at hsplit
    rw [← hsplit] at hpost
    obtain ⟨-, -, took, hanswer⟩ := ControlPlane.answers_of_runs_post hpost
    obtain ⟨-, created, hcreated⟩ := haccepted.of_rollout hanswer
    cases hcreated
  | ok created =>
    obtain ⟨y, took, hanswer, rfl⟩ := ControlPlane.answers_of_post hpost
    obtain ⟨watched, hwatch, rfl⟩ := Plan.runs_map.1 hrest
    rw [happ] at hwatch
    cases before with
    | nil =>
      obtain ⟨rfl, rfl⟩ := List.cons.inj hsplit
      obtain ⟨rfl, -⟩ := haccepted.of_rollout hanswer
      exact .rolled hanswer image hwatch
    | cons z before =>
      -- The request would be one of those that watch the rollout, and they add nothing.
      obtain ⟨-, rfl⟩ := List.cons.inj hsplit
      have hnothing := Plan.within_of_runs ControlPlane.polls_add_nothing hwatch x (by simp)
      rw [AddsNothing, haccepted.isPost] at hnothing
      cases hnothing

theorem followed_of_rolledOut {dispatched : Except DeployError Unit}
    (haccepted : Accepted c o.app x platform) (h : RolledOut o config app image calls dispatched)
    (hcarried : Plan.Carried (carry c b files) calls (before ++ x :: after)) :
    Followed c o.app x platform after (dispatched.map fun _ => ⟨.machines, image, true⟩) := by
  cases h with
  | unfit | unread =>
    generalize htrace : before ++ x :: after = trace at hcarried
    cases hcarried
    simp at htrace
  | @run order _ hr answer =>
    have hrollout := Plan.carried_singleton.1 hcarried
    have hrun : Plan.Runs (c.runRollout order) (before ++ x :: after) answer := hrollout
    obtain ⟨env, -, rfl⟩ := newRollout_eq_ok.1 hr
    exact followed_of_runRollout haccepted rfl hrun

/-- What follows in a detached deploy, once the dispatch of its image is accepted. -/
theorem followed_of_runs {console : Console} {localConfig : Option AppConfig}
    {outcome : Except DeployError Report} (hdetach : o.detach = true)
    (h : Task.Runs (runOutside c b console files o localConfig) (before ++ x :: after) outcome)
    (haccepted : Accepted c o.app x platform) : Followed c o.app x platform after outcome := by
  have hpost : ¬AddsNothing x.request := by
    rw [AddsNothing, haccepted.isPost]
    nofun
  obtain ⟨calls, hcalls, hcarried⟩ := Plan.runs_through.1 h
  rcases reached_or_not (runs_run.1 hcalls) with hreached | ⟨hnot, -⟩
  · obtain ⟨first, second, config, app, chosen, image, dispatched, rfl, hfirst, -, -, hdispatch,
      rfl⟩ := hreached
    obtain ⟨found, rest, hfound, hrest, hsplit⟩ := Plan.carried_append.1 hcarried
    -- The request is not among those of the first stages, so that it is one of the dispatch.
    have hlate : x ∉ found := by
      intro hx
      exact hpost (Plan.within_of_carried hfound (fun y hy => within_carry (hfirst y hy)) x hx)
    obtain ⟨middle, rfl, rfl⟩ := split_of_not_mem hsplit.symm hlate
    cases hdispatch with
    | machines h => exact followed_of_rolledOut haccepted h hrest
    | releases h => exact followed_of_released hdetach haccepted h hrest
  · have hx : x ∈ before ++ x :: after := by simp
    exact absurd
      (Plan.within_of_carried hcarried (fun y hy => within_carry (hnot y hy)) x hx) hpost

theorem Followed.returnsAtOnce_iff {outcome : Except DeployError Report}
    (h : Followed c o.app x platform after outcome) :
    ReturnsAtOnce after outcome ↔ platform = .releases := by
  cases h with
  | released image => exact iff_of_true ⟨List.forall_mem_nil _, _, rfl⟩ rfl
  | @rolled _ _ _ _ image _ result hpolls =>
    refine iff_of_false ?_ nofun
    intro hreturns
    obtain ⟨hquiet, report, hok⟩ := hreturns
    cases result with
    | error e => cases hok
    | ok u =>
      obtain ⟨y, hy, hsend⟩ := ControlPlane.exists_send_of_watch hpolls
      rw [hquiet y hy] at hsend
      cases hsend

/-- An order that leaves a deploy under way has been accepted. -/
theorem accepted_of_dispatched {dispatched : Except DeployError Unit} {y : Exchange Deploy}
    {trace : List (Exchange Outside)} (h : Dispatched o config app image platform calls dispatched)
    (hy : y ∈ calls) (hleaves : leavesUnderWay y = true)
    (hruns : Plan.Runs (carry c b files y.request) trace y.answer) :
    ∃ x after, trace = x :: after ∧ Accepted c o.app x platform := by
  obtain ⟨q, answer⟩ := y
  cases h with
  | machines h =>
    obtain ⟨order, hr, rfl⟩ := request_of_rolledOut h hy
    obtain ⟨env, -, rfl⟩ := newRollout_eq_ok.1 hr
    obtain ⟨first, created, rest, hpost, hrest, rfl⟩ := Plan.runs_bind.1 hruns
    cases created with
    | error cause =>
      cases (Plan.runs_done.1 hrest).2
      cases hleaves
    | ok created =>
      obtain ⟨x, took, hanswer, rfl⟩ := ControlPlane.answers_of_post hpost
      exact ⟨x, rest, rfl, .rollout hanswer⟩
  | releases h =>
    rcases created_or_wait_of_released h hy with rfl | hwait
    · cases answer with
      | error cause => cases hleaves
      | ok created =>
        have hrun : Plan.Runs (c.post (.releases o.app) (newRelease o config image).toJson
            CreatedRelease.read) trace (.ok created) := hruns
        obtain ⟨x, took, hanswer, rfl⟩ := ControlPlane.answers_of_post hrun
        exact ⟨x, [], rfl, .release hanswer⟩
    · rw [stage_of_leavesUnderWay hleaves] at hwait
      cases hwait

theorem backend?_of_leavesUnderWay {y : Exchange Deploy} (h : leavesUnderWay y = true) :
    ∃ platform, y.request.backend? = some platform := by
  obtain ⟨q, answer⟩ := y
  cases q with
  | createRelease => exact ⟨.releases, rfl⟩
  | runRollout => exact ⟨.machines, rfl⟩
  | _ => cases h

/-- A deploy whose failure is one of monitoring was accepted before. -/
theorem accepted_of_monitoring {console : Console} {localConfig : Option AppConfig}
    {trace : List (Exchange Outside)} {e : DeployError}
    (h : Task.Runs (runOutside c b console files o localConfig) trace (.error e))
    (hkind : e.kind = .monitoring) :
    ∃ before x after platform, trace = before ++ x :: after ∧ Accepted c o.app x platform := by
  obtain ⟨calls, hcalls, hcarried⟩ := Plan.runs_through.1 h
  have hcourse := runs_run.1 hcalls
  obtain ⟨y, hy, hleaves⟩ := (underWay_iff (failedAt_of_course hcourse)).2 (.inl hkind)
  obtain ⟨platform, hbackend⟩ := backend?_of_leavesUnderWay hleaves
  obtain ⟨earlier, later, rfl⟩ := List.append_of_mem hy
  obtain ⟨-, config, app, image, second, dispatched, -, hdispatch, hsecond⟩ :=
    handover_of_course hcourse hbackend
  obtain ⟨before, rest, -, hrest, rfl⟩ := Plan.carried_append.1 hcarried
  obtain ⟨ordered, ended, hordered, -, rfl⟩ := Plan.carried_cons.1 hrest
  obtain ⟨x, after, rfl, haccepted⟩ := accepted_of_dispatched hdispatch hsecond hleaves hordered
  exact ⟨before, x, after ++ ended, platform, by simp, haccepted⟩

section World

variable {ω : Type} (w : World Outside ω) (state : ω) (c : ControlPlane) (b : ImageBuilder)
  (console : Console) (files : Files) (o : DeployOptions) (localConfig : Option AppConfig)

/-- What a deploy asks of the world outside, with the answers that it gets. -/
def outsideIn : List (Exchange Outside) :=
  exchanges (Plan.run w (runOutside c b console files o localConfig).run state).1

/-- What a deploy comes to in the world outside. -/
def outsideOutcomeIn : Except DeployError Report :=
  (Plan.run w (runOutside c b console files o localConfig).run state).2.1

theorem runs_outsideIn :
    Task.Runs (runOutside c b console files o localConfig)
      (outsideIn w state c b console files o localConfig)
      (outsideOutcomeIn w state c b console files o localConfig) :=
  Plan.runs_run w (runOutside c b console files o localConfig).run state

/-- In every world, once the dispatch of a detached deploy is accepted, a release is not looked at
again, but a rollout is watched: the deploy returns at once exactly if it is one of releases. -/
theorem detached_returnsAtOnce_iff (hdetach : o.detach = true)
    {before after : List (Exchange Outside)} {x : Exchange Outside} {platform : Platform}
    (hasked : outsideIn w state c b console files o localConfig = before ++ x :: after)
    (haccepted : Accepted c o.app x platform) :
    Followed c o.app x platform after (outsideOutcomeIn w state c b console files o localConfig) ∧
      (ReturnsAtOnce after (outsideOutcomeIn w state c b console files o localConfig) ↔
        platform = .releases) := by
  have hruns := runs_outsideIn w state c b console files o localConfig
  rw [hasked] at hruns
  have hfollowed := followed_of_runs hdetach hruns haccepted
  exact ⟨hfollowed, hfollowed.returnsAtOnce_iff⟩

end World

namespace Example

/-- A reply with an object. -/
def reply (fields : List (String × Json)) : Except Http.Failure Http.Reply :=
  .ok ⟨200, (Json.object fields).text⟩

/-- A world in which a rollout is accepted, and then fails. -/
def failingWorld : World Outside Unit where
  answer q state := (match q with
    | .now => ⟨0, 0, 0⟩
    | .wait _ => ()
    | .send r =>
      match r.method with
      | .get =>
        ⟨reply [("name", .str "web"), ("organization", Example.app.organization.toJson),
          ("status", .str "failed")], .ofSeconds 1⟩
      | .post => ⟨reply [("id", .str "r1")], .ofSeconds 1⟩
    | .findDaemon => .ok ()
    | .inspect _ _ => reply []
    | .pull _ _ => .error .unreachable
    | .run _ _ => .ok (.code 0), state)

def localBuilder : ImageBuilder :=
  ⟨.here, "registry", false⟩

theorem outcome_failingWorld :
    outsideOutcomeIn failingWorld () controlPlane localBuilder ⟨.quiet⟩ (.ofList [] []) options
      (some base) = .error (.rollout (.watch (.failed "rollout" "failed"))) := by
  decide +kernel

/-- In that world a rollout is accepted. -/
theorem accepted_failingWorld :
    ∃ before x after platform,
      outsideIn failingWorld () controlPlane localBuilder ⟨.quiet⟩ (.ofList [] []) options
        (some base) = before ++ x :: after ∧ Accepted controlPlane options.app x platform := by
  have hruns := runs_outsideIn failingWorld () controlPlane localBuilder ⟨.quiet⟩ (.ofList [] [])
    options (some base)
  rw [outcome_failingWorld] at hruns
  exact accepted_of_monitoring hruns rfl

end Example

theorem example_detached_rollout :
    ∃ before x after platform, Example.options.detach = true ∧
      outsideIn Example.failingWorld () Example.controlPlane Example.localBuilder ⟨.quiet⟩
        (.ofList [] []) Example.options (some Example.base) = before ++ x :: after ∧
      Accepted Example.controlPlane Example.options.app x platform ∧
      Followed Example.controlPlane Example.options.app x platform after
        (outsideOutcomeIn Example.failingWorld () Example.controlPlane Example.localBuilder
          ⟨.quiet⟩ (.ofList [] []) Example.options (some Example.base)) ∧
      (ReturnsAtOnce after (outsideOutcomeIn Example.failingWorld () Example.controlPlane
          Example.localBuilder ⟨.quiet⟩ (.ofList [] []) Example.options (some Example.base)) ↔
        platform = .releases) := by
  obtain ⟨before, x, after, platform, hasked, haccepted⟩ := Example.accepted_failingWorld
  exact ⟨before, x, after, platform, rfl, hasked, haccepted,
    detached_returnsAtOnce_iff Example.failingWorld () Example.controlPlane Example.localBuilder
      ⟨.quiet⟩ (.ofList [] []) Example.options (some Example.base) rfl hasked haccepted⟩

/-- A detached deploy to machines does not return once its rollout is accepted: it waits for the
rollout, and fails with it. -/
theorem detached_rollout_is_awaited :
    ¬∀ (w : World Outside Unit) (state : Unit) (c : ControlPlane) (b : ImageBuilder)
      (console : Console) (files : Files) (o : DeployOptions) (localConfig : Option AppConfig)
      (before after : List (Exchange Outside)) (x : Exchange Outside) (platform : Platform),
      o.detach = true →
      outsideIn w state c b console files o localConfig = before ++ x :: after →
      Accepted c o.app x platform →
      ReturnsAtOnce after (outsideOutcomeIn w state c b console files o localConfig) := by
  intro hall
  obtain ⟨before, x, after, platform, hasked, haccepted⟩ := Example.accepted_failingWorld
  obtain ⟨-, report, hok⟩ := hall _ _ _ _ _ _ _ _ _ _ _ _ rfl hasked haccepted
  rw [Example.outcome_failingWorld] at hok
  cases hok

end AppDeploy.Deploy
