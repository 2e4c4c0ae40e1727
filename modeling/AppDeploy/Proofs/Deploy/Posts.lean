import AppDeploy.Proofs.ControlPlane.Client
import AppDeploy.Proofs.Deploy.Bounds
import AppDeploy.Proofs.Deploy.Findings

/-!
# What a deploy adds to the control plane

A deploy adds one thing to the control plane, a release or a rollout, by one request
(`ControlPlane.answers_of_runs_post`). All else that it asks of the world outside before its last
stages adds nothing there (`Deploy.within_carry`), and neither do the polls of a watch
(`ControlPlane.polls_add_nothing`).
-/

namespace AppDeploy

/-! ## Requests that add nothing -/

namespace Outside

/-- A request to a web service. -/
def Request.isSend : Request → Bool
  | .send _ => true
  | _ => false

/-- A request that adds something to a web service. -/
def Request.isPost : Request → Bool
  | .send r => r.method == .post
  | _ => false

/-- Nothing is added to a web service. -/
def AddsNothing (q : Request) : Prop :=
  q.isPost = false

end Outside

open Outside (AddsNothing)

namespace ControlPlane

variable {α : Type} {c : ControlPlane} {resource : Resource} {body : Json}
  {read : Record.Reader Json.Document α} {before after : List (Exchange Outside)}
  {x : Exchange Outside} {subject : Watched}

theorem polls_add_nothing : (c.watch subject).Within AddsNothing :=
  within_watch (fun _ _ => rfl) fun _ => rfl

/-- Adding something takes one request at most. -/
theorem answers_of_runs_post {result : Except ApiError α}
    (h : Plan.Runs (c.post resource body read) (before ++ x :: after) result) :
    before = [] ∧ after = [] ∧
      ∃ took, Answers c .post resource (some body) read x ⟨result, took⟩ := by
  obtain ⟨⟨found, took⟩, hexchange, rfl⟩ := runs_post.1 h
  rcases runs_exchange.1 hexchange with ⟨e, -, hnone, -⟩ | ⟨y, hy, hone⟩
  · simp at hnone
  · obtain ⟨rfl, hrest⟩ := List.append_eq_singleton_iff.1 hone |>.resolve_right (by simp)
    obtain ⟨rfl, rfl⟩ := List.cons.inj hrest
    exact ⟨rfl, rfl, took, hy⟩

theorem Answers.isSend {method : Http.Method} {body : Option Json}
    {answer : Timed (Except ApiError α)} (h : Answers c method resource body read x answer) :
    x.request.isSend = true := by
  cases h
  rfl

theorem Answers.isPost {answer : Timed (Except ApiError α)}
    (h : Answers c .post resource (some body) read x answer) : x.request.isPost = true := by
  cases h
  rfl

theorem Answers.body_unique {β : Type} {resource' : Resource} {body' : Json}
    {read' : Record.Reader Json.Document β} {answer : Timed (Except ApiError α)}
    {answer' : Timed (Except ApiError β)} (h : Answers c .post resource (some body) read x answer)
    (h' : Answers c .post resource' (some body') read' x answer') : body = body' := by
  cases h with
  | intro =>
    cases h'
    rfl

theorem Answers.unique {body' : Json} {answer answer' : Timed (Except ApiError α)}
    (h : Answers c .post resource (some body) read x answer)
    (h' : Answers c .post resource (some body') read x answer') : answer = answer' := by
  cases h with
  | intro =>
    cases h'
    rfl

/-- A watch that ends well has sent a request. -/
theorem exists_send_of_watch {polls : List (Exchange Outside)}
    (h : Plan.Runs (c.watch subject) polls (.ok ())) : ∃ y ∈ polls, y.request.isSend = true := by
  obtain ⟨asked, hasked, hcarried⟩ := Plan.runs_through.1 h
  cases (Watched.seen_of_watch hasked).succeeds with
  | @intro waiting report took =>
    obtain ⟨first, last, -, hlast, rfl⟩ := Plan.carried_append.1 hcarried
    have hpoll := Plan.carried_singleton.1 hlast
    have hexchange : Plan.Runs (c.exchange .get subject.resource none StatusReport.read) last
      ⟨.ok report, took⟩ := hpoll
    rcases runs_exchange.1 hexchange with ⟨e, -, -, he⟩ | ⟨y, hy, rfl⟩
    · cases he
    · exact ⟨y, by simp, hy.isSend⟩

end ControlPlane

namespace Deploy

variable {c : ControlPlane} {b : ImageBuilder} {files : Files}

/-- Whatever a deploy asks for before its last stages adds nothing to the control plane. -/
theorem within_carry {q : Request} (h : q.stage.isLast = false) :
    (carry c b files q).Within AddsNothing := by
  have hget : ∀ resource, c.Allowed AddsNothing .get resource none := fun _ _ _ => rfl
  cases q with
  | openConfig app => exact ControlPlane.within_openConfig (hget _)
  | fetchConfig app => exact ControlPlane.within_get (hget _)
  | summary app => exact ControlPlane.within_get (hget _)
  | machinesDefault organization => exact ControlPlane.within_machinesDefault (hget _)
  | findImage r =>
    exact ImageBuilder.within_find rfl rfl rfl (fun _ => rfl) (fun _ => rfl) fun _ => rfl
  | startHeartbeat => exact .done ()
  | buildImage r =>
    exact ImageBuilder.within_build rfl (fun _ _ _ _ => rfl) (fun _ => rfl) fun _ => rfl
  | releaseHeartbeat => exact .done ()
  | createRelease | release | watchReleaseCommand | watchDeployment | runRollout => cases h

end Deploy

end AppDeploy
