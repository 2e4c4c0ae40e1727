import AppDeploy.Proofs.Deploy.FirstFailure

/-!
# The release that a deploy follows

A deploy to releases creates a release and then follows the one that it has in hand (`InHand`):
the created one, or what has become of it once its command is done. What it asks after the
creation is three things at most (`Following`), and for each of them `Follows` says exactly when
it is asked, and about what. A release is watched as it is then, whatever it was when it was
created.
-/

namespace AppDeploy.Deploy

variable {o : DeployOptions} {c : AppConfig} {image : DeploymentImage}
  {calls : List (Exchange Deploy)} {release : Release} {result : Except DeployError Unit}

/-! ## What is asked -/

/-- What is asked after the creation of a release: a command that is waited for, a release that is
looked at again, and a deployment that is watched. -/
structure Following where
  command : Option ReleaseCommandId := none
  refresh : Option ReleaseId := none
  watch : Option EvaluationId := none

/-- The calls in which these are asked, in order, each of them once. -/
def Following.requests (app : AppName) (f : Following) : List Request :=
  (f.command.map (.watchReleaseCommand app)).toList ++
    ((f.refresh.map (.release app)).toList ++ (f.watch.map (.watchDeployment app)).toList)

/-- The release in hand when there is nothing left but to watch it: the created one if it has no
command, or else the one that was found when it was looked at again. -/
inductive InHand (o : DeployOptions) (calls : List (Exchange Deploy)) : Release → Prop where
  | created {order : NewRelease} {created : CreatedRelease} (hdetach : o.detach = false)
      (h : ⟨.createRelease order, .ok created⟩ ∈ calls) (hnone : created.releaseCommand = none) :
      InHand o calls created.release
  | refreshed {id : ReleaseId} {release : Release}
      (h : ⟨.release o.app id, .ok release⟩ ∈ calls) : InHand o calls release

/-- Some calls create a release and follow the one in hand. -/
structure Follows (o : DeployOptions) (c : AppConfig) (image : DeploymentImage)
    (calls : List (Exchange Deploy)) (result : Except DeployError Unit) (f : Following) :
    Prop where
  /-- The release is created first, and only once. -/
  requests : calls.map Exchange.request =
    .createRelease (newRelease o c image) :: f.requests o.app
  /-- Its command is waited for if it has one, unless the deploy is detached. -/
  command : ∀ id, f.command = some id ↔ o.detach = false ∧ ∃ created command,
    ⟨.createRelease (newRelease o c image), .ok created⟩ ∈ calls ∧
      created.releaseCommand = some command ∧ command.id = id
  /-- Once the command has succeeded, the created release is looked at again. -/
  refresh : ∀ id, f.refresh = some id ↔ ∃ created command,
    ⟨.createRelease (newRelease o c image), .ok created⟩ ∈ calls ∧
      ⟨.watchReleaseCommand o.app command, .ok ()⟩ ∈ calls ∧ created.release.id = id
  /-- The release in hand is watched unless its strategy makes it live at once. -/
  watch : ∀ id, f.watch = some id ↔ ∃ release, InHand o calls release ∧
    release.deploymentStrategy ≠ "IMMEDIATE" ∧ release.evaluationId = id
  /-- A release that is looked at again takes the place of the created one. -/
  replaced : ∀ id release, ⟨.release o.app id, .ok release⟩ ∈ calls →
    ∀ other, InHand o calls other → other = release
  /-- All is well exactly if no call has failed. -/
  outcome : result = .ok () ↔ Unfailing o calls

/-! ## The stages -/

theorem inHand_iff :
    InHand o calls release ↔
      (∃ order created, o.detach = false ∧ ⟨.createRelease order, .ok created⟩ ∈ calls ∧
        created.releaseCommand = none ∧ release = created.release) ∨
      ∃ id, ⟨.release o.app id, .ok release⟩ ∈ calls := by
  constructor
  · intro h
    cases h with
    | created hdetach h hnone => exact .inl ⟨_, _, hdetach, h, hnone, rfl⟩
    | refreshed h => exact .inr ⟨_, h⟩
  · rintro (⟨order, created, hdetach, h, hnone, rfl⟩ | ⟨id, h⟩)
    · exact .created hdetach h hnone
    · exact .refreshed h

/-- A command that is not waited for to its good end leaves no release in hand. -/
theorem follows_of_stranded {created : CreatedRelease} {command : List (Exchange Deploy)}
    {e : DeployError} (hdetach : o.detach = false)
    (h : CommandAwaited o.app created command (.error e)) :
    ∃ f, Follows o c image
      (⟨.createRelease (newRelease o c image), .ok created⟩ :: command) (.error e) f := by
  generalize hfound : Except.error e = found at h
  cases h with
  | none => cases hfound
  | @failed awaited hsome reason =>
    exact ⟨{ command := some awaited.id }, {
      requests := rfl
      command := by simp [hdetach, hsome]
      refresh := by simp
      watch := by simp [inHand_iff, hsome]
      replaced := by simp
      outcome := by simp [Unfailing, failure?] }⟩
  | @refreshed awaited hsome answer =>
    cases answer with
    | ok release => cases hfound
    | error reason =>
      exact ⟨{ command := some awaited.id, refresh := some created.release.id }, {
        requests := rfl
        command := by simp [hdetach, hsome]
        refresh := by simp
        watch := by simp [inHand_iff, hsome]
        replaced := by simp
        outcome := by simp [Unfailing, failure?] }⟩

/-- Without a command the created release is watched as it is. -/
theorem follows_of_created {created : CreatedRelease} {watch : List (Exchange Deploy)}
    (hdetach : o.detach = false) (hnone : created.releaseCommand = none)
    (h : ReleaseAwaited o.app created.release watch result) :
    ∃ f, Follows o c image
      (⟨.createRelease (newRelease o c image), .ok created⟩ :: watch) result f := by
  cases h with
  | immediate h =>
    have himmediate : created.release.deploymentStrategy = "IMMEDIATE" := beq_iff_eq.1 h
    exact ⟨{}, {
      requests := rfl
      command := by simp [hnone]
      refresh := by simp
      watch := by simp [inHand_iff, hnone, himmediate]
      replaced := by simp
      outcome := by simp [Unfailing, failure?] }⟩
  | watched h answer =>
    have hlater : created.release.deploymentStrategy ≠ "IMMEDIATE" := beq_eq_false_iff_ne.1 h
    exact ⟨{ watch := some created.release.evaluationId }, {
      requests := rfl
      command := by simp [hnone]
      refresh := by simp
      watch := by simp [inHand_iff, hdetach, hnone, hlater]
      replaced := by simp
      outcome := by cases answer <;> simp [Unfailing, failure?, Except.mapError] }⟩

/-- After a command the release is watched as it was found then, whatever was created. -/
theorem follows_of_refreshed {created : CreatedRelease} {awaited : ReleaseCommand}
    {watch : List (Exchange Deploy)} (hdetach : o.detach = false)
    (hsome : created.releaseCommand = some awaited)
    (h : ReleaseAwaited o.app release watch result) :
    ∃ f, Follows o c image
      (⟨.createRelease (newRelease o c image), .ok created⟩ ::
        ⟨.watchReleaseCommand o.app awaited.id, .ok ()⟩ ::
        ⟨.release o.app created.release.id, .ok release⟩ :: watch) result f := by
  cases h with
  | immediate h =>
    have himmediate : release.deploymentStrategy = "IMMEDIATE" := beq_iff_eq.1 h
    exact ⟨{ command := some awaited.id, refresh := some created.release.id }, {
      requests := rfl
      command := by simp [hdetach, hsome]
      refresh := by simp
      watch := by simp [inHand_iff, hsome, himmediate]
      replaced := by simp [inHand_iff, hsome]
      outcome := by simp [Unfailing, failure?] }⟩
  | watched h answer =>
    have hlater : release.deploymentStrategy ≠ "IMMEDIATE" := beq_eq_false_iff_ne.1 h
    exact ⟨⟨some awaited.id, some created.release.id, some release.evaluationId⟩, {
      requests := rfl
      command := by simp [hdetach, hsome]
      refresh := by simp
      watch := by simp [inHand_iff, hsome, hlater]
      replaced := by simp [inHand_iff, hsome]
      outcome := by cases answer <;> simp [Unfailing, failure?, Except.mapError] }⟩

theorem follows_of_released (h : Released o c image calls result) :
    ∃ f, Follows o c image calls result f := by
  cases h with
  | refused e =>
    exact ⟨{}, {
      requests := rfl
      command := by simp
      refresh := by simp
      watch := by simp [inHand_iff]
      replaced := by simp
      outcome := by simp [Unfailing, failure?] }⟩
  | detached hdetach created =>
    exact ⟨{}, {
      requests := rfl
      command := by simp [hdetach]
      refresh := by simp
      watch := by simp [inHand_iff, hdetach]
      replaced := by simp
      outcome := by simp [Unfailing, failure?] }⟩
  | stranded hdetach hcommand => exact follows_of_stranded hdetach hcommand
  | @followed hdetach created command watch release _ hcommand hwatch =>
    -- The release that is watched is what the command has left in hand.
    generalize hfound : Except.ok release = found at hcommand
    cases hcommand with
    | none hnone =>
      cases hfound
      exact follows_of_created hdetach hnone hwatch
    | failed => cases hfound
    | refreshed hsome answer =>
      cases answer with
      | error e => cases hfound
      | ok refreshed =>
        cases hfound
        exact follows_of_refreshed hdetach hsome hwatch

/-! ## In a world -/

/-- In every world a deploy to releases follows the release that it has in hand: what it asks
after the creation is decided by the answers, and a release that is looked at again takes the
place of the created one in all that follows. -/
theorem deployRelease_follows {ω : Type} (w : World Deploy ω) (state : ω) (console : Console)
    (o : DeployOptions) (c : AppConfig) (image : DeploymentImage) :
    ∃ f, Follows o c image
      (exchanges (Plan.run w (deployRelease console o c image).run state).1)
      (Plan.run w (deployRelease console o c image).run state).2.1 f :=
  follows_of_released (runs_deployRelease.1
    (Plan.runs_run w (deployRelease console o c image).run state))

namespace Example

/-- A world in which a release has a command, and is found with another strategy and another
evaluation once that is done. -/
def flippingWorld (before after : String) : World Deploy Unit where
  answer q state := match q with
    | .createRelease _ =>
      (.ok ⟨⟨⟨"r1"⟩, 1, before, ⟨"e1"⟩, "", none⟩, some ⟨⟨"c1"⟩, "migrate", ""⟩⟩, state)
    | .release _ _ => (.ok ⟨⟨"r1"⟩, 1, after, ⟨"e2"⟩, "", none⟩, state)
    | q => (world (.ok ())).answer q state

/-- What is asked in it after the creation. -/
def askedAfter (before after : String) : List Request :=
  ((exchanges (Plan.run (flippingWorld before after)
    (deployRelease ⟨.quiet⟩ { options with detach := false } base Example.image).run ()).1).map
      Exchange.request).tail

example : askedAfter "IMMEDIATE" "ROLLING" =
    Following.requests Example.app.name ⟨some ⟨"c1"⟩, some ⟨"r1"⟩, some ⟨"e2"⟩⟩ := rfl

example : askedAfter "ROLLING" "IMMEDIATE" =
    Following.requests Example.app.name ⟨some ⟨"c1"⟩, some ⟨"r1"⟩, none⟩ := rfl

end Example

end AppDeploy.Deploy
