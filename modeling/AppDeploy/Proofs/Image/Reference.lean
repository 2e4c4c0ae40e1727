import AppDeploy.Proofs.Image.Publication
import Mathlib.Data.List.Basic

/-!
# Images that are there already

`Located` says which exchanges the search for an image can make, and what comes of them. An image
that is to be published is published if it is at hand; one that has to be downloaded first keeps
the reference that it was asked for by, and nothing is sent (`published_iff_at_hand`).
-/

namespace AppDeploy.ImageBuilder

variable {b : ImageBuilder} {r : ReferenceRequest} {tag reference : String}
  {trace : List (Exchange Outside)} {result : Except BuildError (Option DeploymentImage)}

/-! ## Single steps -/

theorem runs_inspect_bind {α : Type} {f : Option DeploymentImage → Task Outside BuildError α}
    {result : Except BuildError α} :
    Task.Runs (b.inspect reference >>= f) trace result ↔
      ∃ answer rest, trace = ⟨.inspect b.daemon reference, answer⟩ :: rest ∧
        ((∃ e, readInspection reference answer = .error e ∧ rest = [] ∧
            result = .error (.daemon e)) ∨
          ∃ found, readInspection reference answer = .ok found ∧ Task.Runs (f found) rest result) :=
  runs_answer_bind

theorem runs_pull_bind {α : Type} {f : Unit → Task Outside BuildError α}
    {result : Except BuildError α} :
    Task.Runs (b.pull reference >>= f) trace result ↔
      ∃ answer rest, trace = ⟨.pull b.daemon reference, answer⟩ :: rest ∧
        ((∃ e, readDownload answer = .error e ∧ rest = [] ∧ result = .error (.daemon e)) ∨
          ∃ u, readDownload answer = .ok u ∧ Task.Runs (f u) rest result) :=
  runs_answer_bind

/-! ## The search for an image -/

/-- How an image that is at hand is sent to the registry under a tag. -/
inductive Sent (b : ImageBuilder) (r : ReferenceRequest) (tag : String) :
    List (Exchange Outside) → Except BuildError (Option DeploymentImage) → Prop where
  | untagged {exit : Except String ExitStatus} {e : BuildError}
      (he : readExit "docker" exit = .error e) :
      Sent b r tag [⟨.run (.tagImage r.reference tag) b.daemon, exit⟩] (.error e)
  | unpushed {tagged exit : Except String ExitStatus} {e : BuildError}
      (htagged : readExit "docker" tagged = .ok ()) (he : readExit "docker" exit = .error e) :
      Sent b r tag [⟨.run (.tagImage r.reference tag) b.daemon, tagged⟩,
        ⟨.run (.push tag) b.daemon, exit⟩] (.error e)
  | pushed {tagged exit : Except String ExitStatus} (htagged : readExit "docker" tagged = .ok ())
      (hexit : readExit "docker" exit = .ok ()) (answer : Except Http.Failure Http.Reply) :
      Sent b r tag [⟨.run (.tagImage r.reference tag) b.daemon, tagged⟩,
        ⟨.run (.push tag) b.daemon, exit⟩, ⟨.inspect b.daemon tag, answer⟩]
        ((readInspection tag answer).mapError .daemon)

/-- How an image that is there already is looked for, by the way that ends. -/
inductive Located (b : ImageBuilder) (r : ReferenceRequest) :
    List (Exchange Outside) → Except BuildError (Option DeploymentImage) → Prop where
  | unanswered {answer : Except Http.Failure Http.Reply} {e : DaemonError}
      (he : readInspection r.reference answer = .error e) :
      Located b r [⟨.inspect b.daemon r.reference, answer⟩] (.error (.daemon e))
  | kept {answer : Except Http.Failure Http.Reply} {image : DeploymentImage}
      (h : r.publish = false) (hfound : readInspection r.reference answer = .ok (some image)) :
      Located b r [⟨.inspect b.daemon r.reference, answer⟩] (.ok (some image))
  | published {answer : Except Http.Failure Http.Reply} {image : DeploymentImage}
      {start rest : List (Exchange Outside)} {label : String}
      {result : Except BuildError (Option DeploymentImage)} (h : r.publish = true)
      (hfound : readInspection r.reference answer = .ok (some image))
      (hlabel : Labelled r.label start label)
      (hsent : Sent b r (ImageTag.text b.registry r.app label) rest result) :
      Located b r (⟨.inspect b.daemon r.reference, answer⟩ :: (start ++ rest)) result
  | undownloaded {answer pulled : Except Http.Failure Http.Reply} {e : DaemonError}
      (hmissing : readInspection r.reference answer = .ok none)
      (he : readDownload pulled = .error e) :
      Located b r [⟨.inspect b.daemon r.reference, answer⟩, ⟨.pull b.daemon r.reference, pulled⟩]
        (.error (.daemon e))
  | downloaded {answer pulled : Except Http.Failure Http.Reply}
      (hmissing : readInspection r.reference answer = .ok none)
      (hpulled : readDownload pulled = .ok ()) (again : Except Http.Failure Http.Reply) :
      Located b r [⟨.inspect b.daemon r.reference, answer⟩, ⟨.pull b.daemon r.reference, pulled⟩,
        ⟨.inspect b.daemon r.reference, again⟩]
        ((readInspection r.reference again).mapError .daemon)

theorem runs_send : Task.Runs (b.run (.tagImage r.reference tag) >>= fun _ =>
      b.run (.push tag) >>= fun _ => b.inspect tag) trace result ↔ Sent b r tag trace result := by
  simp only [runs_run_bind, runs_inspect]
  constructor
  · intro hrun
    obtain ⟨tagged, _, rfl, ⟨e, he, rfl, rfl⟩ | ⟨htagged, exit, _, rfl, hrest⟩⟩ := hrun
    · exact .untagged he
    · obtain ⟨e, he, rfl, rfl⟩ | ⟨hexit, answer, rfl, rfl⟩ := hrest
      · exact .unpushed htagged he
      · exact .pushed htagged hexit answer
  · intro hsent
    cases hsent with
    | untagged he => exact ⟨_, [], rfl, .inl ⟨_, he, rfl, rfl⟩⟩
    | unpushed htagged he =>
      exact ⟨_, _, rfl, .inr ⟨htagged, _, [], rfl, .inl ⟨_, he, rfl, rfl⟩⟩⟩
    | pushed htagged hexit answer =>
      exact ⟨_, _, rfl, .inr ⟨htagged, _, _, rfl, .inr ⟨hexit, answer, rfl, rfl⟩⟩⟩

theorem runs_publish : Task.Runs (b.publish r) trace result ↔
    ∃ start label rest, Labelled r.label start label ∧
      Sent b r (ImageTag.text b.registry r.app label) rest result ∧ trace = start ++ rest := by
  rw [publish, Task.runs_bind]
  simp only [runs_tagOf, runs_send]
  constructor
  · intro hrun
    obtain ⟨e, ⟨_, -, he⟩, -⟩ | ⟨start, _, rest, ⟨label, hlabel, htag⟩, hsent, rfl⟩ := hrun
    · cases he
    · cases htag
      exact ⟨start, label, rest, hlabel, hsent, rfl⟩
  · intro hrun
    obtain ⟨start, label, rest, hlabel, hsent, rfl⟩ := hrun
    exact .inr ⟨start, _, rest, ⟨label, hlabel, rfl⟩, hsent, rfl⟩

theorem runs_find : Task.Runs (b.find r) trace result ↔ Located b r trace result := by
  rw [find, runs_inspect_bind]
  constructor
  · intro hrun
    obtain ⟨answer, rest, rfl, ⟨e, he, rfl, rfl⟩ | ⟨found, hfound, hrest⟩⟩ := hrun
    · exact .unanswered he
    cases found with
    | some image =>
      dsimp only at hrest
      cases h : r.publish with
      | true =>
        rw [h, if_pos rfl] at hrest
        obtain ⟨start, label, rest, hlabel, hsent, rfl⟩ := runs_publish.1 hrest
        exact .published h hfound hlabel hsent
      | false =>
        rw [h, if_neg Bool.false_ne_true] at hrest
        obtain ⟨rfl, rfl⟩ := Task.runs_pure.1 hrest
        exact .kept h hfound
    | none =>
      obtain ⟨pulled, _, rfl, ⟨e, he, rfl, rfl⟩ | ⟨_, hpulled, hagain⟩⟩ := runs_pull_bind.1 hrest
      · exact .undownloaded hfound he
      · obtain ⟨again, rfl, rfl⟩ := runs_inspect.1 hagain
        exact .downloaded hfound hpulled again
  · intro hlocated
    cases hlocated with
    | unanswered he => exact ⟨_, [], rfl, .inl ⟨_, he, rfl, rfl⟩⟩
    | kept h hfound =>
      refine ⟨_, [], rfl, .inr ⟨_, hfound, ?_⟩⟩
      show Task.Runs (if r.publish then _ else _) _ _
      rw [h, if_neg Bool.false_ne_true]
      exact Task.runs_pure.2 ⟨rfl, rfl⟩
    | published h hfound hlabel hsent =>
      refine ⟨_, _, rfl, .inr ⟨_, hfound, ?_⟩⟩
      show Task.Runs (if r.publish then _ else _) _ _
      rw [h, if_pos rfl]
      exact runs_publish.2 ⟨_, _, _, hlabel, hsent, rfl⟩
    | undownloaded hmissing he =>
      refine ⟨_, _, rfl, .inr ⟨none, hmissing, ?_⟩⟩
      exact runs_pull_bind.2 ⟨_, [], rfl, .inl ⟨_, he, rfl, rfl⟩⟩
    | downloaded hmissing hpulled again =>
      refine ⟨_, _, rfl, .inr ⟨none, hmissing, ?_⟩⟩
      exact runs_pull_bind.2 ⟨_, _, rfl, .inr ⟨_, hpulled, runs_inspect.2 ⟨again, rfl, rfl⟩⟩⟩

/-! ## What is published -/

/-- The daemon knows the image when it is first asked. -/
def AtHand (b : ImageBuilder) (r : ReferenceRequest) (trace : List (Exchange Outside)) : Prop :=
  ∃ answer image, trace.head? = some ⟨.inspect b.daemon r.reference, answer⟩ ∧
    readInspection r.reference answer = .ok (some image)

/-- An image has a tag of the app in the registry, and was sent there. -/
def IsPublished (b : ImageBuilder) (r : ReferenceRequest) (trace : List (Exchange Outside))
    (image : DeploymentImage) : Prop :=
  b.IsTag r.app trace r.label image.tag ∧ .well (.push image.tag) ∈ ranIn trace

theorem ranIn_of_sent {image : DeploymentImage} (h : Sent b r tag trace result)
    (hfound : result = .ok (some image)) :
    image.tag = tag ∧ ranIn trace = [.well (.tagImage r.reference tag), .well (.push tag)] := by
  cases h with
  | untagged => cases hfound
  | unpushed => cases hfound
  | pushed htagged hexit answer =>
    obtain rfl := readExit_eq_ok.1 htagged
    obtain rfl := readExit_eq_ok.1 hexit
    exact ⟨tag_of_readInspection (mapError_eq_ok.1 hfound), rfl⟩

/-- An image that is at hand is published, and one that is downloaded is only looked up. -/
theorem published_or_downloaded {image : DeploymentImage} (h : Located b r trace result)
    (hpublish : r.publish = true) (hfound : result = .ok (some image)) :
    (b.AtHand r trace ∧ b.IsTag r.app trace r.label image.tag ∧
      ranIn trace = [.well (.tagImage r.reference image.tag), .well (.push image.tag)]) ∨
    (¬b.AtHand r trace ∧ image.tag = r.reference ∧ ranIn trace = []) := by
  cases h with
  | unanswered => cases hfound
  | kept hkept => cases hpublish.symm.trans hkept
  | @published answer _ start rest label _ _ hthere hlabel hsent =>
    obtain ⟨htag, hran⟩ := ranIn_of_sent hsent hfound
    refine .inl ⟨⟨answer, _, rfl, hthere⟩, ?_, ?_⟩
    · rw [htag]
      exact isTag_of_labelled hlabel fun _ hmem => .tail _ (List.mem_append_left _ hmem)
    · rw [htag, ← hran]
      show ranIn (start ++ rest) = _
      rw [ranIn_append, ranIn_of_labelled hlabel, List.nil_append]
  | undownloaded => cases hfound
  | downloaded hmissing hpulled again =>
    refine .inr ⟨?_, tag_of_readInspection (mapError_eq_ok.1 hfound), rfl⟩
    rintro ⟨_, _, hfirst, hthere⟩
    cases hfirst
    cases hmissing.symm.trans hthere

/-- Whatever is answered, an image that is there already and is to be published is published
exactly if it is at hand; else it is the one that was asked for, and no command is run. -/
theorem published_iff_at_hand {ω : Type} (w : World Outside ω) (state : ω) (b : ImageBuilder)
    (r : ReferenceRequest) (image : DeploymentImage) (hpublish : r.publish = true)
    (hfound : (Plan.run w (b.find r).run state).2.1 = .ok (some image)) :
    let trace := exchanges (Plan.run w (b.find r).run state).1
    (b.IsPublished r trace image ↔ b.AtHand r trace) ∧
      (b.AtHand r trace →
        ranIn trace = [.well (.tagImage r.reference image.tag), .well (.push image.tag)]) ∧
      (¬b.AtHand r trace → image.tag = r.reference ∧ ranIn trace = []) := by
  intro trace
  have hlocated : Located b r trace _ := runs_find.1 (Plan.runs_run w _ state)
  rcases published_or_downloaded hlocated hpublish hfound with
    ⟨hthere, htag, hran⟩ | ⟨hmissing, htag, hran⟩
  · have hpublished : b.IsPublished r trace image := ⟨htag, by simp [hran]⟩
    exact ⟨iff_of_true hpublished hthere, fun _ => hran, fun hnot => absurd hthere hnot⟩
  · have hunpublished : ¬b.IsPublished r trace image := fun h => by
      have hpush := h.2
      rw [hran] at hpush
      cases hpush
    exact ⟨iff_of_false hunpublished hmissing, fun hthere => absurd hthere hmissing,
      fun _ => ⟨htag, hran⟩⟩

/-! ### An image that is downloaded -/

namespace Example

/-- A world with a daemon that has one image at hand, or has it once it was downloaded. -/
def registry : World Outside Bool where
  answer q atHand := match q with
    | .now => (⟨0, 0, 0⟩, atHand)
    | .wait _ => ((), atHand)
    | .send _ => (⟨.error .unreachable, .zero⟩, atHand)
    | .findDaemon => (.ok (), atHand)
    | .inspect _ _ => (.ok (if atHand then ⟨200, "\x7b\x7d"⟩ else ⟨404, ""⟩), atHand)
    | .pull _ _ => (.ok ⟨200, ""⟩, true)
    | .run _ _ => (.ok (.code 0), atHand)

def builder : ImageBuilder :=
  ⟨.here, "registry", false⟩

def nginx : ReferenceRequest where
  app := ⟨"shop", by decide +kernel⟩
  workingDir := "/srv/shop"
  publish := true
  reference := "nginx:1.27"
  label := some "v1"

/-- A download of which nothing is said went well. -/
theorem readDownload_empty : readDownload (.ok ⟨200, ""⟩) = .ok () := by
  have hlines : "".splitOn "\n" = [""] := by
    rw [String.splitOn, if_neg (by decide), String.splitOnAux]
    rfl
  show readProgress ("".splitOn "\n") = .ok ()
  rw [hlines]
  rfl

theorem find_nginx (atHand : Bool) :
    (Plan.run registry (builder.find nginx).run atHand).2.1 =
      .ok (some ⟨if atHand then "registry/shop:v1" else "nginx:1.27", none, none, 0, .empty⟩) := by
  cases atHand with
  | true => decide +kernel
  | false =>
    show (Plan.run registry (Task.fromExcept BuildError.daemon (readDownload (.ok ⟨200, ""⟩)) >>=
      fun _ => builder.inspect nginx.reference).run true).2.1 = _
    rw [readDownload_empty]
    decide +kernel

end Example

theorem example_published_at_hand :
    let trace :=
      exchanges (Plan.run Example.registry (Example.builder.find Example.nginx).run true).1
    (Example.builder.IsPublished Example.nginx trace
        ⟨"registry/shop:v1", none, none, 0, .empty⟩ ↔
      Example.builder.AtHand Example.nginx trace) ∧
    (Example.builder.AtHand Example.nginx trace → ranIn trace =
      [.well (.tagImage "nginx:1.27" "registry/shop:v1"), .well (.push "registry/shop:v1")]) ∧
    (¬Example.builder.AtHand Example.nginx trace →
      "registry/shop:v1" = "nginx:1.27" ∧ ranIn trace = []) :=
  published_iff_at_hand Example.registry true Example.builder Example.nginx
    ⟨"registry/shop:v1", none, none, 0, .empty⟩ rfl (Example.find_nginx true)

/-- An image that is to be published is not, if it has to be downloaded. -/
theorem downloaded_image_is_not_published :
    ¬∀ (w : World Outside Bool) (state : Bool) (b : ImageBuilder) (r : ReferenceRequest)
      (image : DeploymentImage), r.publish = true →
      (Plan.run w (b.find r).run state).2.1 = .ok (some image) →
      b.IsPublished r (exchanges (Plan.run w (b.find r).run state).1) image := by
  intro hall
  obtain ⟨htag, -⟩ := hall Example.registry false _ _ _ rfl (Example.find_nginx false)
  exact absurd htag.eq_of_wanted (by decide +kernel)

end AppDeploy.ImageBuilder
