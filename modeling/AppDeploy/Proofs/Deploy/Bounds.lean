import AppDeploy.Deploy.Carried
import AppDeploy.Proofs.Plan.Within

/-!
# Bounds for what carries out a deploy

The calls of a deploy are carried out by requests to the control plane and by a builder of images.
The lemmas here say for each of the two what has to be allowed for it to stay within bounds,
whatever the bounds are.
-/

namespace AppDeploy

/-! ## Watches -/

theorem Plan.within_watchFrom {S : Service} {P : S.Request → Prop} {what : String} {pace : Pace}
    {wait : Span → Plan S Unit} {poll : Plan S (Timed (Except ApiError StatusReport))}
    (hwait : ∀ span, (wait span).Within P) (hpoll : poll.Within P) (count : Nat) (start : Span) :
    (watchFrom what pace wait poll count start).Within P := by
  induction count generalizing start with
  | zero => exact .done _
  | succ count ih =>
    rw [watchFrom]
    refine within_bind hpoll fun answer => ?_
    dsimp only
    split
    · exact .done _
    · split
      · exact .done _
      · split
        · exact within_bind (hwait _) fun _ => .done _
        · exact within_bind (hwait _) fun _ => ih _

/-- A watch looks at its own subject only. -/
inductive Watched.Looks (subject : Watched) : Status.Request → Prop where
  | report : Looks subject (.report subject)
  | wait (span : Span) : Looks subject (.wait span)

theorem Watched.within_watch (subject : Watched) (pace : Pace) :
    (subject.watch pace).Within subject.Looks := by
  rw [watch, Plan.watch]
  split
  · exact .done _
  · exact Plan.within_watchFrom (fun span => Plan.within_request (.wait span))
      (Plan.within_request .report) _ _

/-! ## The control plane -/

namespace ControlPlane

variable {α : Type} {c : ControlPlane} {P : Outside.Request → Prop} {method : Http.Method}
  {resource : Resource} {body : Option Json} {read : Record.Reader Json.Document α}

/-- Requests for a resource are allowed, wherever it is found. -/
def Allowed (c : ControlPlane) (P : Outside.Request → Prop) (method : Http.Method)
    (resource : Resource) (body : Option Json) : Prop :=
  ∀ url, c.url resource.path = .ok url →
    P (.send { method, url, body, authorization := c.authorization, userAgent })

theorem within_exchange (h : c.Allowed P method resource body) :
    (c.exchange method resource body read).Within P := by
  rw [exchange]
  cases hurl : c.url resource.path with
  | error e => exact .done _
  | ok url => exact Plan.within_map (Plan.within_request (h url hurl)) _

theorem within_get (h : c.Allowed P .get resource none) : (c.get resource read).Within P :=
  Plan.within_map (within_exchange h) _

theorem within_post {body : Json} (h : c.Allowed P .post resource (some body)) :
    (c.post resource body read).Within P :=
  Plan.within_map (within_exchange h) _

theorem within_openConfig {app : AppName} (h : c.Allowed P .get (.app app) none) :
    (c.openConfig app).Within P :=
  Plan.within_map (within_get h) _

theorem within_machinesDefault {organization : String}
    (h : c.Allowed P .get (.organization organization) none) :
    (c.machinesDefault organization).Within P :=
  Plan.within_map (within_get h) _

theorem within_watch {subject : Watched} (h : c.Allowed P .get subject.resource none)
    (hwait : ∀ span, P (.wait span)) : (c.watch subject).Within P := by
  refine Plan.within_through (subject.within_watch c.pace) fun q hq => ?_
  cases hq with
  | report => exact within_exchange h
  | wait span => exact Plan.within_request (hwait span)

theorem within_runRollout {r : NewRollout}
    (hpost : c.Allowed P .post (.rollouts r.app) (some r.toJson))
    (hpoll : ∀ id, c.Allowed P .get (.rollout r.app id) none) (hwait : ∀ span, P (.wait span)) :
    (c.runRollout r).Within P := by
  refine Plan.within_bind (within_post hpost) fun created => ?_
  cases created with
  | error e => exact .done _
  | ok created =>
    have hwatch : (c.watch (.rollout r.app created.id)).Within P :=
      within_watch (hpoll created.id) hwait
    exact Plan.within_map hwatch _

end ControlPlane

/-! ## A builder of images -/

namespace ImageBuilder

variable {b : ImageBuilder} {P : Outside.Request → Prop}

/-- What is asked of a daemon or of a program. -/
theorem within_ask {α ε : Type} {q : Outside.Request} {f : Outside.Answer q → Task Outside ε α}
    (h : P q) (hf : ∀ answer, (f answer).Within P) :
    (ExceptT.lift (Plan.request (S := Outside) q) >>= f).Within P :=
  Task.within_bind (Task.within_lift (Plan.within_request h)) hf

theorem within_inspect {reference : String} (h : P (.inspect b.daemon reference)) :
    (b.inspect reference).Within P :=
  within_ask h fun _ => Task.within_fromExcept _ _

theorem within_pull {reference : String} (h : P (.pull b.daemon reference)) :
    (b.pull reference).Within P :=
  within_ask h fun _ => Task.within_fromExcept _ _

theorem within_run {command : Command} (h : P (.run command b.daemon)) :
    (b.run command).Within P :=
  within_ask h fun _ => Task.within_fromExcept _ _

/-- What is done with a new tag is done with a tag of the app. -/
theorem within_tagFor_bind {α : Type} {app : AppName} {wanted : Option String}
    {f : String → Task Outside BuildError α} (hnow : P .now)
    (hf : ∀ label, (f (ImageTag.text b.registry app label)).Within P) :
    (b.tagFor app wanted >>= f).Within P := by
  rw [tagFor, bind_assoc]
  refine Task.within_bind ?_ fun label => ?_
  · cases wanted with
    | some label => exact Task.within_pure label
    | none => exact within_ask hnow fun _ => Task.within_pure _
  · rw [pure_bind]
    exact hf label

/-- An image that is there is looked up and downloaded by its reference, and may be published under
a tag of its app. -/
theorem within_find {r : ReferenceRequest} (hnow : P .now)
    (hinspect : P (.inspect b.daemon r.reference)) (hpull : P (.pull b.daemon r.reference))
    (htag : ∀ label, P (.run (.tagImage r.reference (ImageTag.text b.registry r.app label))
      b.daemon))
    (hpush : ∀ label, P (.run (.push (ImageTag.text b.registry r.app label)) b.daemon))
    (hpublished : ∀ label, P (.inspect b.daemon (ImageTag.text b.registry r.app label))) :
    (b.find r).Within P := by
  refine Task.within_bind (within_inspect hinspect) fun found => ?_
  cases found with
  | none => exact Task.within_bind (within_pull hpull) fun _ => within_inspect hinspect
  | some image =>
    show Task.Within _ (if r.publish then b.publish r else pure (some image))
    split
    · refine within_tagFor_bind hnow fun label => ?_
      refine Task.within_bind (within_run (htag label)) fun _ => ?_
      exact Task.within_bind (within_run (hpush label)) fun _ => within_inspect (hpublished label)
    · exact Task.within_pure _

/-- An image is built under a tag of its app. -/
theorem within_build {files : Files} {r : BuildRequest} (hnow : P .now)
    (hcommand : ∀ label remarks command,
      b.command? files r (ImageTag.text b.registry r.app label) = some (remarks, command) →
      P (.run command b.daemon))
    (hpush : ∀ label, P (.run (.push (ImageTag.text b.registry r.app label)) b.daemon))
    (hinspect : ∀ label, P (.inspect b.daemon (ImageTag.text b.registry r.app label))) :
    (b.build files r).Within P := by
  rw [build]
  cases r.builtin with
  | some builtin => exact Task.within_throw _
  | none =>
    refine within_tagFor_bind hnow fun label => ?_
    cases hfound : b.command? files r (ImageTag.text b.registry r.app label) with
    | none => exact Task.within_pure none
    | some chosen =>
      refine Task.within_bind (Task.within_notes _) fun _ => ?_
      refine Task.within_bind (within_run (hcommand label _ _ hfound)) fun _ => ?_
      split
      · exact Task.within_bind (within_run (hpush label)) fun _ => within_inspect (hinspect label)
      · exact within_inspect (hinspect label)

end ImageBuilder

end AppDeploy
