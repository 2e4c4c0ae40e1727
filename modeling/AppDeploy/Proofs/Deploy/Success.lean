import AppDeploy.Proofs.ControlPlane.Client
import AppDeploy.Proofs.Deploy.Polling

/-!
# Deploys that have succeeded

A deploy that polls does not claim a success that it has not seen. When it ends well, having
dispatched its image and not detached, its last exchanges are the polls that saw the success of
what it dispatched, in time (`Live`): of the command of its release, of the release in hand
after that, or of its rollout.
-/

namespace AppDeploy.Deploy

open Polling (ofCall ofStatus ofOutside)
open Watched (Seen)

variable {pace : Pace} {c : ControlPlane} {files : Files} {o : DeployOptions}
  {config : AppConfig} {app : AppSummary} {image : DeploymentImage} {platform : Platform}
  {calls : List (Exchange Deploy)} {trace : List (Exchange Polling)}

/-! ## What has been seen -/

/-- The command of a release has been seen to succeed, if there is one, and only then was the
release looked at again. The release in hand is the last one. -/
inductive CommandSeen (pace : Pace) (app : AppName) (created : CreatedRelease) :
    List (Exchange Polling) → Release → Prop where
  | none (h : created.releaseCommand = none) : CommandSeen pace app created [] created.release
  | seen {command : ReleaseCommand} {asked : List (Exchange Status)}
      (h : created.releaseCommand = some command)
      (hseen : Seen (.releaseCommand app command.id) pace asked) (release : Release) :
      CommandSeen pace app created
        (asked.map ofStatus ++ [ofCall ⟨.release app created.release.id, .ok release⟩]) release

/-- A release has been seen to be live, unless it is so at once. -/
inductive ReleaseSeen (pace : Pace) (app : AppName) (release : Release) :
    List (Exchange Polling) → Prop where
  | immediate (h : release.deploymentStrategy = "IMMEDIATE") : ReleaseSeen pace app release []
  | seen {asked : List (Exchange Status)} (h : release.deploymentStrategy ≠ "IMMEDIATE")
      (hseen : Seen (.deployment app release.evaluationId) pace asked) :
      ReleaseSeen pace app release (asked.map ofStatus)

/-- The exchanges of a deploy, with the polls that saw the success of what it dispatched last. -/
inductive Live (pace : Pace) (c : ControlPlane) (o : DeployOptions) :
    Platform → List (Exchange Polling) → Prop where
  | releases {first : List (Exchange Deploy)} {order : NewRelease} {created : CreatedRelease}
      {release : Release} {command watch : List (Exchange Polling)}
      (hfirst : ∀ x ∈ first, x.request.stage.isLast = false)
      (hcommand : CommandSeen pace o.app created command release)
      (hwatch : ReleaseSeen pace o.app release watch) :
      Live pace c o .releases (first.map ofCall ++
        ofCall ⟨.createRelease order, .ok created⟩ :: (command ++ watch))
  | machines {first : List (Exchange Deploy)} {order : NewRollout}
      {rollout : List (Exchange Outside)}
      (hfirst : ∀ x ∈ first, x.request.stage.isLast = false) (happ : order.app = o.app)
      (hseen : c.RolloutSeen order rollout) :
      Live pace c o .machines (first.map ofCall ++ rollout.map ofOutside)

/-! ## How it is seen -/

theorem carryPolling_of_first {q : Request} (h : q.stage.isLast = false) :
    carryPolling pace c q = Plan.request (S := Polling) (.call q) := by
  cases q with
  | watchReleaseCommand => cases h
  | watchDeployment => cases h
  | runRollout => cases h
  | _ => rfl

/-- Nothing but calls comes before an image is dispatched. -/
theorem carried_first (h : ∀ x ∈ calls, x.request.stage.isLast = false)
    (hcarried : Plan.Carried (carryPolling pace c) calls trace) : trace = calls.map ofCall := by
  refine (Plan.carried_map ?_).1 hcarried
  intro x hx first
  rw [carryPolling_of_first (h x hx)]
  exact Plan.runs_request

theorem seen_of_onStatus {subject : Watched}
    (h : Plan.Runs (Polling.onStatus (subject.watch pace)) trace (.ok ())) :
    ∃ asked, Seen subject pace asked ∧ trace = asked.map ofStatus := by
  obtain ⟨asked, hasked, rfl⟩ := Polling.runs_onStatus.1 h
  exact ⟨asked, Watched.seen_of_watch hasked, rfl⟩

theorem commandSeen_of_commandAwaited {created : CreatedRelease} {release : Release}
    (h : CommandAwaited o.app created calls (.ok release))
    (hcarried : Plan.Carried (carryPolling pace c) calls trace) :
    CommandSeen pace o.app created trace release := by
  generalize hresult : Except.ok release = result at h
  cases h with
  | none h =>
    cases hresult
    cases hcarried
    exact .none h
  | failed => cases hresult
  | refreshed h answer =>
    cases answer with
    | error e => cases hresult
    | ok release' =>
      cases hresult
      obtain ⟨watch, rest, hwatch, hrest, rfl⟩ := Plan.carried_cons.1 hcarried
      obtain ⟨look, _, hlook, hnone, rfl⟩ := Plan.carried_cons.1 hrest
      cases hnone
      obtain ⟨asked, hseen, rfl⟩ := seen_of_onStatus hwatch
      obtain rfl := Plan.runs_request.1 hlook
      exact .seen h hseen release

theorem releaseSeen_of_releaseAwaited {release : Release}
    (h : ReleaseAwaited o.app release calls (.ok ()))
    (hcarried : Plan.Carried (carryPolling pace c) calls trace) :
    ReleaseSeen pace o.app release trace := by
  generalize hresult : Except.ok () = result at h
  cases h with
  | immediate h =>
    cases hcarried
    exact .immediate (beq_iff_eq.1 h)
  | watched h answer =>
    cases answer with
    | error e => cases hresult
    | ok u =>
      obtain ⟨watch, _, hwatch, hnone, rfl⟩ := Plan.carried_cons.1 hcarried
      cases hnone
      obtain ⟨asked, hseen, rfl⟩ := seen_of_onStatus hwatch
      rw [List.append_nil]
      exact .seen (beq_eq_false_iff_ne.1 h) hseen

theorem live_of_released (hfirst : ∀ x ∈ calls, x.request.stage.isLast = false)
    {dispatched : List (Exchange Deploy)} (hdetach : o.detach = false)
    (h : Released o config image dispatched (.ok ()))
    (hcarried : Plan.Carried (carryPolling pace c) dispatched trace) :
    Live pace c o .releases (calls.map ofCall ++ trace) := by
  generalize hresult : Except.ok () = result at h
  cases h with
  | refused => cases hresult
  | detached h => cases hdetach.symm.trans h
  | stranded => cases hresult
  | @followed _ created command watch release _ hcommand hwatch =>
    subst hresult
    obtain ⟨create, rest, hcreate, hrest, rfl⟩ := Plan.carried_cons.1 hcarried
    obtain ⟨first, second, hfirst', hsecond, rfl⟩ := Plan.carried_append.1 hrest
    obtain rfl := Plan.runs_request.1 hcreate
    have hcommandSeen := commandSeen_of_commandAwaited hcommand hfirst'
    have hreleaseSeen := releaseSeen_of_releaseAwaited hwatch hsecond
    show Live pace c o .releases (calls.map ofCall ++ ofCall _ :: (first ++ second))
    exact .releases hfirst hcommandSeen hreleaseSeen

theorem live_of_rolledOut (hfirst : ∀ x ∈ calls, x.request.stage.isLast = false)
    {dispatched : List (Exchange Deploy)} (h : RolledOut o config app image dispatched (.ok ()))
    (hcarried : Plan.Carried (carryPolling pace c) dispatched trace) :
    Live pace c o .machines (calls.map ofCall ++ trace) := by
  generalize hresult : Except.ok () = result at h
  cases h with
  | unfit => cases hresult
  | unread => cases hresult
  | @run rollout _ hr answer =>
    cases answer with
    | error e => cases hresult
    | ok u =>
      obtain ⟨first, _, hrun, hnone, rfl⟩ := Plan.carried_cons.1 hcarried
      cases hnone
      obtain ⟨http, hhttp, rfl⟩ := Polling.runs_onOutside.1 hrun
      rw [List.append_nil]
      obtain ⟨env, -, rfl⟩ := newRollout_eq_ok.1 hr
      exact .machines hfirst rfl (ControlPlane.rolloutSeen_of_runRollout hhttp)

/-- A deploy that polls and ends well has seen the success of what it has dispatched, unless it
is detached. -/
theorem live_of_runs {console : Console} {localConfig : Option AppConfig} {report : Report}
    (h : Task.Runs (runPolling pace c console files o localConfig) trace (.ok report))
    (hdispatched : report.dispatched = true) (hdetach : o.detach = false) :
    Live pace c o report.platform trace := by
  obtain ⟨calls, hcalls, hcarried⟩ := Plan.runs_through.1 h
  obtain ⟨first, second, config, app, platform, image, dispatched, rfl, hfirst, -, -, hdispatch,
    hreport⟩ := reached_of_dispatched (runs_run.1 hcalls) hdispatched
  -- The calls before the dispatch are passed on as they are; the polls are in the rest.
  obtain ⟨before, after, hbefore, hafter, rfl⟩ := Plan.carried_append.1 hcarried
  rw [carried_first hfirst hbefore]
  cases dispatched with
  | error e => cases hreport
  | ok u =>
    cases hreport
    cases hdispatch with
    | machines h => exact live_of_rolledOut hfirst h hafter
    | releases h => exact live_of_released hfirst hdetach h hafter

/-- In the world outside, what a deploy has seen was answered by the control plane. -/
theorem live_outside {b : ImageBuilder} {console : Console} {localConfig : Option AppConfig}
    {report : Report} {asked : List (Exchange Outside)}
    (h : Task.Runs (runOutside c b console files o localConfig) asked (.ok report))
    (hdispatched : report.dispatched = true) (hdetach : o.detach = false) :
    ∃ trace, Live c.pace c o report.platform trace ∧
      Plan.Carried (carryOutside c b files) trace asked := by
  rw [Task.Runs, runOutside_eq] at h
  obtain ⟨trace, htrace, hcarried⟩ := Plan.runs_through.1 h
  exact ⟨trace, live_of_runs htrace hdispatched hdetach, hcarried⟩

/-! ## No false success -/

section World

variable {ω : Type} (w : World Polling ω) (state : ω) (pace : Pace) (c : ControlPlane)
  (console : Console) (files : Files) (o : DeployOptions) (localConfig : Option AppConfig)

/-- What a deploy that polls asks in a world, with the answers that it gets. -/
def pollsIn : List (Exchange Polling) :=
  exchanges (Plan.run w (runPolling pace c console files o localConfig).run state).1

/-- What a deploy that polls comes to in a world. -/
def polledOutcomeIn : Except DeployError Report :=
  (Plan.run w (runPolling pace c console files o localConfig).run state).2.1

/-- In no world does a deploy claim a success that it has not seen. -/
theorem no_false_success {report : Report}
    (hok : polledOutcomeIn w state pace c console files o localConfig = .ok report)
    (hdispatched : report.dispatched = true) (hdetach : o.detach = false) :
    Live pace c o report.platform (pollsIn w state pace c console files o localConfig) := by
  have hruns : Task.Runs (runPolling pace c console files o localConfig)
      (pollsIn w state pace c console files o localConfig) (.ok report) := by
    rw [← hok]
    exact Plan.runs_run w (runPolling pace c console files o localConfig).run state
  exact live_of_runs hruns hdispatched hdetach

end World

namespace Example

def created : CreatedRelease where
  release := ⟨⟨"r1"⟩, 3, "ROLLING", ⟨"e1"⟩, "", none⟩
  releaseCommand := some ⟨⟨"c1"⟩, "migrate", ""⟩

/-- A world in which what is watched is under way at every other poll, and succeeds at the
poll after that; each poll takes some time. -/
def pollingWorld : World Polling Bool where
  answer q underWay := match q with
    | .call (.openConfig _) => (.ok (), underWay)
    | .call (.fetchConfig _) => (.ok base, underWay)
    | .call (.summary _) => (.ok Example.app, underWay)
    | .call (.machinesDefault _) => (.ok false, underWay)
    | .call (.findImage _) => (.ok (some Example.image), underWay)
    | .call .startHeartbeat => ((), underWay)
    | .call (.buildImage _) => (.ok (some Example.image), underWay)
    | .call .releaseHeartbeat => ((), underWay)
    | .call (.createRelease _) => (.ok created, underWay)
    | .call (.release _ _) => (.ok { created.release with evaluationId := ⟨"e2"⟩ }, underWay)
    | .call (.watchReleaseCommand _ _) => (.ok (), underWay)
    | .call (.watchDeployment _ _) => (.ok (), underWay)
    | .call (.runRollout _) => (.ok (), underWay)
    | .status (.report _) =>
      if underWay then (⟨.ok ⟨"running", none⟩, .ofSeconds 3⟩, false)
      else (⟨.ok ⟨"Succeeded", none⟩, .ofSeconds 1⟩, true)
    | .status (.wait _) => ((), underWay)
    | .outside .now => (⟨0, 0, 0⟩, underWay)
    | .outside (.wait _) => ((), underWay)
    | .outside (.send _) => (⟨.error .unreachable, .zero⟩, underWay)
    | .outside .findDaemon => (.error "", underWay)
    | .outside (.inspect _ _) => (.error .unreachable, underWay)
    | .outside (.pull _ _) => (.error .unreachable, underWay)
    | .outside (.run _ _) => (.error "", underWay)

def attached : DeployOptions :=
  { options with detach := false, forceMachines := false }

def slowPace : Pace := ⟨.ofSeconds 2, .ofSeconds 60⟩

def controlPlane : ControlPlane := ⟨"http://localhost:4280", "Bearer tok", slowPace⟩

end Example

theorem example_no_false_success :
    Live Example.slowPace Example.controlPlane Example.attached .releases
      (pollsIn Example.pollingWorld true Example.slowPace Example.controlPlane ⟨.quiet⟩
        (.ofList [] []) Example.attached none) := by
  have hok : polledOutcomeIn Example.pollingWorld true Example.slowPace Example.controlPlane
      ⟨.quiet⟩ (.ofList [] []) Example.attached none = .ok ⟨.releases, Example.image, true⟩ := rfl
  exact no_false_success _ _ _ _ _ _ _ _ hok rfl rfl

end AppDeploy.Deploy
