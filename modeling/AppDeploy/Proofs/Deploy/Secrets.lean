import AppDeploy.Proofs.Deploy.Indifference
import AppDeploy.Proofs.Deploy.Parts
import AppDeploy.Image.Command

/-!
# The secrets of a build

The values of secrets are handed to a builder and go nowhere else. Two deploys that are given the
same secrets with different values show the same, but for the values in the request for the image
(`SameButSecrets`), and the command line of a build tells only which secrets there are. Those who
answer are taken not to look at the values (`redacted`).
-/

namespace AppDeploy

namespace BuildRequest

/-- A request as it looks to those who do not look at the values of its secrets. -/
def redacted (r : BuildRequest) : BuildRequest :=
  { r with secrets := r.secrets.map fun _ => "" }

/-- A request with some secrets exchanged for others. -/
def exchangeSecrets (secrets secrets' : Table String) (r : BuildRequest) : BuildRequest :=
  if r.secrets = secrets then { r with secrets := secrets' } else r

theorem redacted_exchangeSecrets {secrets secrets' : Table String}
    (h : secrets'.map (fun _ => "") = secrets.map fun _ => "") (r : BuildRequest) :
    (r.exchangeSecrets secrets secrets').redacted = r.redacted := by
  rw [exchangeSecrets]
  split
  case isTrue heq => rw [redacted, redacted, h, heq]
  case isFalse => rfl

end BuildRequest

/-- On the command line of a build, secrets have only names. -/
theorem Command.dockerBuildArgs_of_keys {secrets : Table String} {r : BuildRequest}
    (h : secrets.keys = r.secrets.keys) (tag dockerfile : String) :
    dockerBuildArgs { r with secrets } tag dockerfile = dockerBuildArgs r tag dockerfile := by
  rw [dockerBuildArgs, dockerBuildArgs, secretOptions, secretOptions, h]

namespace Deploy

variable {console : Console} {files : Files} {o : DeployOptions} {c : AppConfig}
  {localConfig : Option AppConfig} {g : BuildRequest → BuildRequest}

/-! ## Other requests for an image that is to be built -/

def Request.rebuilt (g : BuildRequest → BuildRequest) : Request → Request
  | .buildImage r => .buildImage (g r)
  | q => q

/-- What is asked where images are to be built otherwise. -/
def rebuilding (g : BuildRequest → BuildRequest) : Rewording Deploy where
  request := Request.rebuilt g
  answer_eq q := by cases q <;> rfl

/-- A request as it looks to those who do not look at the values of secrets. -/
def redacted : Rewording Deploy :=
  rebuilding .redacted

theorem rebuilding_of_stage {q : Request} (h : q.stage ≠ .image) :
    (rebuilding g).request q = q := by
  cases q with
  | buildImage => exact absurd rfl h
  | _ => rfl

theorem redacted_rebuilding (hg : ∀ r, (g r).redacted = r.redacted) (q : Request) :
    redacted.request ((rebuilding g).request q) = redacted.request q := by
  cases q with
  | buildImage r => exact congrArg Request.buildImage (hg r)
  | _ => rfl

/-- After the image, nothing is asked that has to do with how it was built. -/
theorem reword_deliverShipment (s : Shipment) :
    (deliverShipment console o s).reword (rebuilding g) = deliverShipment console o s := by
  have hwithin : (deliverShipment console o s).Within fun q : Request => q.stage ≠ .image := by
    refine Task.within_bind (Plan.within_mono (within_order s) ?_) fun created => ?_
    · intro q hq
      simp [stage_of_backend? hq]
    · refine Task.within_bind (Plan.within_mono (within_follow created) ?_) fun _ => ?_
      · intro q hq
        simp [hq]
      · exact Task.within_pure _
  exact Task.reword_of_within hwithin fun q hq => rebuilding_of_stage hq

/-! ## Other secrets -/

variable {secrets : List String} {given given' : Table String}

theorem buildRequest_secrets (hgiven : Assignment.readAll o.build.secrets = .ok given)
    (hgiven' : Assignment.readAll secrets = .ok given') :
    buildRequest files { o with build := { o.build with secrets } } c =
      (buildRequest files o c).map (.exchangeSecrets given given') := by
  have hread : (Assignment.readAll o.build.secrets).mapError BuildError.secrets = pure given := by
    rw [hgiven]
    rfl
  have hread' : (Assignment.readAll secrets).mapError BuildError.secrets = pure given' := by
    rw [hgiven']
    rfl
  show _ = _ <$> _
  simp only [buildRequest, hread, hread', pure_bind, map_bind, map_pure,
    BuildRequest.exchangeSecrets, if_true]
  rfl

theorem run_secrets (hgiven : Assignment.readAll o.build.secrets = .ok given)
    (hgiven' : Assignment.readAll secrets = .ok given') :
    run console files { o with build := { o.build with secrets } } localConfig =
      (run console files o localConfig).reword (rebuilding (.exchangeSecrets given given')) := by
  have hprepare :
      prepare console files { o with build := { o.build with secrets } } localConfig =
        (prepare console files o localConfig).reword
          (rebuilding (.exchangeSecrets given given')) := by
    refine reword_prepare (fun q hq => rebuilding_of_stage hq) rfl fun c => ?_
    exact reword_obtainImage rfl rfl (fun _ => rfl) (fun _ => rfl)
      (buildRequest_secrets hgiven hgiven')
  rw [run_eq, run_eq, Task.reword_bind, hprepare]
  congr
  funext s
  exact (reword_deliverShipment s).symm

/-! ## What shows -/

/-- The same shows, but for the values of secrets in a request for an image. These do not show
on the command line that builds it. -/
inductive SameButSecrets : Note ⊕ Request → Note ⊕ Request → Prop where
  | same (e : Note ⊕ Request) : SameButSecrets e e
  | build {r : BuildRequest} {secrets : Table String} (hnames : secrets.keys = r.secrets.keys)
      (hcommand : ∀ tag dockerfile, Command.dockerBuildArgs { r with secrets } tag dockerfile =
        Command.dockerBuildArgs r tag dockerfile) :
      SameButSecrets (.inr (.buildImage r)) (.inr (.buildImage { r with secrets }))

theorem sameButSecrets_of_rebuilding (h : given'.keys = given.keys) (e : Note ⊕ Request) :
    SameButSecrets e ((rebuilding (.exchangeSecrets given given')).shown e) := by
  rcases e with n | q
  · exact .same _
  · cases q with
    | buildImage r =>
      show SameButSecrets _ (.inr (.buildImage (r.exchangeSecrets given given')))
      rw [BuildRequest.exchangeSecrets]
      split
      case isTrue heq =>
        rw [← heq] at h
        exact .build h (Command.dockerBuildArgs_of_keys h)
      case isFalse => exact .same _
    | _ => exact .same _

/-- The values of secrets do not leak: with others, the same shows but for the values that are
handed to the builder, and the result is the same. -/
theorem secrets_do_not_leak {ω ω' : Type} (w : World Deploy ω) (w' : World Deploy ω')
    (Corresponds : ω → ω' → Prop) (h : w.AlikeSeeing redacted Corresponds w') (state : ω)
    (state' : ω') (hstate : Corresponds state state') (console : Console) (files : Files)
    (o : DeployOptions) (localConfig : Option AppConfig) (secrets : List String)
    (given given' : List Assignment) (hread : Assignment.ReadAs o.build.secrets given)
    (hread' : Assignment.ReadAs secrets given')
    (hnames : given'.map (·.name) = given.map (·.name)) :
    List.Forall₂ SameButSecrets (shownIn w state console files o localConfig).1
        (shownIn w' state' console files { o with build := { o.build with secrets } }
          localConfig).1 ∧
      (shownIn w' state' console files { o with build := { o.build with secrets } }
        localConfig).2 = (shownIn w state console files o localConfig).2 := by
  obtain ⟨read, read', hgiven, hgiven', hblank⟩ :=
    Assignment.map_readAll "" hread hread' hnames
  have hkeys : read'.keys = read.keys := by
    rw [← Table.keys_map (fun _ => "") read', hblank, Table.keys_map]
  obtain ⟨hevents, hresult, -⟩ := Plan.run_reword h (run console files o localConfig).run hstate
    fun x _ => redacted_rebuilding (BuildRequest.redacted_exchangeSecrets hblank) x.request
  have hrun : (run console files { o with build := { o.build with secrets } } localConfig).run =
      (run console files o localConfig).run.reword
        (rebuilding (.exchangeSecrets read read')) := congrArg _ (run_secrets hgiven hgiven')
  rw [shownIn, shownIn, Plan.shown, Plan.shown, hrun]
  refine ⟨?_, hresult⟩
  rw [hevents, List.map_map, List.forall₂_map_left_iff, List.forall₂_map_right_iff,
    List.forall₂_same]
  intro e _
  rw [Function.comp, Rewording.shown_event]
  exact sameButSecrets_of_rebuilding hkeys e.shown

namespace Example

/-- A deploy that builds its image with a secret. -/
def secretive (value : String) : DeployOptions :=
  { options with image := none, build := { secrets := ["TOKEN=" ++ value] } }

end Example

theorem example_secrets_do_not_leak :
    List.Forall₂ SameButSecrets
        (shownIn ((Example.world (.ok ())).seeing redacted) () ⟨.quiet⟩ (.ofList [] [])
          (Example.secretive "one") none).1
        (shownIn ((Example.world (.ok ())).seeing redacted) () ⟨.quiet⟩ (.ofList [] [])
          (Example.secretive "two") none).1 ∧
      (shownIn ((Example.world (.ok ())).seeing redacted) () ⟨.quiet⟩ (.ofList [] [])
          (Example.secretive "two") none).2 =
        (shownIn ((Example.world (.ok ())).seeing redacted) () ⟨.quiet⟩ (.ofList [] [])
          (Example.secretive "one") none).2 :=
  secrets_do_not_leak _ _ Eq (World.alikeSeeing_seeing redacted _) () () rfl ⟨.quiet⟩
    (.ofList [] []) (Example.secretive "one") none ["TOKEN=two"] [⟨"TOKEN", "one"⟩]
    [⟨"TOKEN", "two"⟩] (.cons (by decide) .nil) (.cons (by decide) .nil) rfl

end Deploy

end AppDeploy
