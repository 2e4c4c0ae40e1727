import AppDeploy.ControlPlane.Client
import AppDeploy.Proofs.Deploy.Watch
import Mathlib.Data.List.Forall2

/-!
# Exchanges with the control plane

What is found out from the control plane is read from the reply to one request (`Answers`). A
rollout that ends well was added by such a request, and the polls that follow are requests for
the status of that very rollout, read one by one until its success (`RolloutSeen`).
-/

namespace AppDeploy.ControlPlane

variable {α : Type} {c : ControlPlane} {method : Http.Method} {resource : Resource}
  {body : Option Json} {read : Record.Reader Json.Document α} {subject : Watched}
  {trace : List (Exchange Outside)}

/-! ## One request -/

/-- A request for a resource is sent, and this is what its reply says, and when. -/
inductive Answers (c : ControlPlane) (method : Http.Method) (resource : Resource)
    (body : Option Json) (read : Record.Reader Json.Document α) :
    Exchange Outside → Timed (Except ApiError α) → Prop where
  | intro {url : Url} (hurl : c.url resource.path = .ok url)
      (reply : Timed (Except Http.Failure Http.Reply)) :
      Answers c method resource body read
        ⟨.send { method, url, body, authorization := c.authorization, userAgent }, reply⟩
        ⟨readAnswer read resource.path url reply.value, reply.took⟩

/-- One request is sent, if there is an address to send it to. -/
theorem runs_exchange {answer : Timed (Except ApiError α)} :
    Plan.Runs (c.exchange method resource body read) trace answer ↔
      (∃ e, c.url resource.path = .error e ∧ trace = [] ∧ answer = ⟨.error e, .zero⟩) ∨
      ∃ x, Answers c method resource body read x answer ∧ trace = [x] := by
  rw [exchange]
  cases hurl : c.url resource.path with
  | error e =>
    constructor
    · intro h
      obtain ⟨rfl, rfl⟩ := Plan.runs_done.1 h
      exact .inl ⟨e, rfl, rfl, rfl⟩
    · intro hrun
      rcases hrun with ⟨_, he, rfl, rfl⟩ | ⟨x, hx, -⟩
      · cases he
        exact .done _
      · cases hx with
        | intro hurl' => cases hurl.symm.trans hurl'
  | ok url =>
    constructor
    · intro h
      obtain ⟨reply, _, hdone, rfl⟩ := Plan.runs_request_bind.1 h
      obtain ⟨rfl, rfl⟩ := Plan.runs_done.1 hdone
      exact .inr ⟨_, .intro hurl reply, rfl⟩
    · intro hrun
      rcases hrun with ⟨_, he, -⟩ | ⟨x, hx, rfl⟩
      · cases he
      · cases hx with
        | intro hurl' reply =>
          cases hurl.symm.trans hurl'
          exact Plan.runs_request_bind.2 ⟨reply, [], .done _, rfl⟩

theorem runs_post {body : Json} {result : Except ApiError α} :
    Plan.Runs (c.post resource body read) trace result ↔
      ∃ answer, Plan.Runs (c.exchange .post resource (some body) read) trace answer ∧
        result = answer.value :=
  Plan.runs_map

/-- Something that is added was added by one request. -/
theorem answers_of_post {body : Json} {value : α}
    (h : Plan.Runs (c.post resource body read) trace (.ok value)) :
    ∃ x took, Answers c .post resource (some body) read x ⟨.ok value, took⟩ ∧ trace = [x] := by
  obtain ⟨⟨found, took⟩, hexchange, hvalue⟩ := runs_post.1 h
  cases hvalue
  rcases runs_exchange.1 hexchange with ⟨e, -, -, he⟩ | ⟨x, hx, rfl⟩
  · cases he
  · exact ⟨x, took, hx, rfl⟩

/-! ## Polls -/

/-- A turn of a watch, and the exchange with the world outside that carries it out. -/
inductive Polled (c : ControlPlane) : Exchange Status → Exchange Outside → Prop where
  | report {subject : Watched} {answer : Timed (Except ApiError StatusReport)}
      {x : Exchange Outside} (h : Answers c .get subject.resource none StatusReport.read x answer) :
      Polled c ⟨.report subject, answer⟩ x
  | wait (span : Span) : Polled c ⟨.wait span, ()⟩ ⟨.wait span, ()⟩

theorem polled_of_carried {asked : List (Exchange Status)}
    (h : Plan.Carried c.carryStatus asked trace)
    (hasked : ∀ x ∈ asked, Watched.Heard subject x) : List.Forall₂ (Polled c) asked trace := by
  induction asked generalizing trace with
  | nil =>
    cases h
    exact .nil
  | cons x rest ih =>
    obtain ⟨hx, hrest⟩ := List.forall_mem_cons.1 hasked
    obtain ⟨first, later, hfirst, hlater, rfl⟩ := Plan.carried_cons.1 h
    have htail := ih hlater hrest
    cases hx with
    | report report took =>
      have hexchange : Plan.Runs (c.exchange .get subject.resource none StatusReport.read) first
        ⟨.ok report, took⟩ := hfirst
      rcases runs_exchange.1 hexchange with ⟨e, -, -, he⟩ | ⟨y, hy, rfl⟩
      · cases he
      · exact .cons (.report hy) htail
    | pause span =>
      obtain rfl := Plan.runs_request.1 hfirst
      exact .cons (.wait span) htail

/-! ## Rollouts -/

/-- The exchanges of a rollout that has succeeded: it was added, and then it was polled, by the
identity it was given, until its success was seen in time. -/
inductive RolloutSeen (c : ControlPlane) (r : NewRollout) : List (Exchange Outside) → Prop where
  | intro {posted : Exchange Outside} {created : CreatedRollout} {took : Span}
      {asked : List (Exchange Status)} {polls : List (Exchange Outside)}
      (hpost : Answers c .post (.rollouts r.app) (some r.toJson) CreatedRollout.read posted
        ⟨.ok created, took⟩)
      (hseen : (Watched.rollout r.app created.id).Seen c.pace asked)
      (hpolls : List.Forall₂ (Polled c) asked polls) : RolloutSeen c r (posted :: polls)

theorem rolloutSeen_of_runRollout {r : NewRollout}
    (h : Plan.Runs (c.runRollout r) trace (.ok ())) : RolloutSeen c r trace := by
  obtain ⟨posted, created, rest, hpost, hrest, rfl⟩ := Plan.runs_bind.1 h
  cases created with
  | error e => cases (Plan.runs_done.1 hrest).2
  | ok created =>
    obtain ⟨x, took, hx, rfl⟩ := answers_of_post hpost
    obtain ⟨result, hwatch, hresult⟩ := Plan.runs_map.1 hrest
    cases result with
    | error e => cases hresult
    | ok u =>
      obtain ⟨asked, hasked, hcarried⟩ := Plan.runs_through.1 hwatch
      have hseen := Watched.seen_of_watch hasked
      exact .intro hx hseen
        (polled_of_carried hcarried (Watched.heard_of_succeeds hseen.succeeds))

end AppDeploy.ControlPlane
