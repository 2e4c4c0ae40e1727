import AppDeploy.Proofs.Except
import AppDeploy.Proofs.Image.BuildFile

/-!
# What a build publishes

The commands that a build runs are read off its exchanges (`ranIn`), and the tags that they give
off their command lines (`Command.builtTags`). An image that a build comes to was built by one
command, under the tag that it has, and sent to the registry under just that tag if it is to be
published; a command that fails is the last thing that happens (`Publishes`).
-/

namespace AppDeploy

namespace Command

/-- The tags that a command gives to the image it builds. -/
def builtTags (c : Command) : List String :=
  match c.args with
  | "build" :: args =>
    if c.program = "docker" then optionValues "--tag" args
    else if c.program = "pack" then args.take 1
    else if c.program = "nixpacks" then
      match args with
      | _ :: "--name" :: tag :: _ => [tag]
      | _ => []
    else []
  | _ => []

theorem builtTags_dockerBuild (r : BuildRequest) (tag dockerfile : String) :
    (dockerBuild r tag dockerfile).builtTags = [tag] := by
  rw [builtTags, dockerBuild, dockerBuildArgs_eq]
  simp [optionValues_dockerBuildTail]

theorem builtTags_packBuild (r : BuildRequest) (tag builder : String) :
    (packBuild r tag builder).builtTags = [tag] :=
  rfl

theorem builtTags_nixpacksBuild (r : BuildRequest) (tag : String) :
    (nixpacksBuild r tag).builtTags = [tag] :=
  rfl

end Command

/-- A command that was run, with its end. -/
structure Ran where
  command : Command
  exit : Except String ExitStatus

namespace Ran

/-- A command that was run to a good end. -/
def well (command : Command) : Ran :=
  ⟨command, .ok (.code 0)⟩

def ofExchange? : Exchange Outside → Option Ran
  | ⟨.run command _, exit⟩ => some ⟨command, exit⟩
  | _ => none

end Ran

/-- The commands that were run in some exchanges, in order. -/
def ranIn (trace : List (Exchange Outside)) : List Ran :=
  trace.filterMap Ran.ofExchange?

theorem ranIn_append (before after : List (Exchange Outside)) :
    ranIn (before ++ after) = ranIn before ++ ranIn after :=
  List.filterMap_append

/-- Among commands that all but the last end well, only the last can fail. -/
theorem eq_last_of_failing {first before after : List Ran} {last ran : Ran}
    (hfirst : ∀ ran ∈ first, ran.exit = .ok (.code 0))
    (h : first ++ [last] = before ++ ran :: after) (hran : ran.exit ≠ .ok (.code 0)) :
    after = [] ∧ ran = last := by
  rcases List.eq_nil_or_concat after with rfl | ⟨init, final, rfl⟩
  · obtain ⟨-, hlast⟩ := List.append_inj' h rfl
    cases hlast
    exact ⟨rfl, rfl⟩
  · rw [List.concat_eq_append, ← List.cons_append, ← List.append_assoc] at h
    obtain ⟨rfl, -⟩ := List.append_inj' h rfl
    exact absurd (hfirst ran (by simp)) hran

namespace ImageBuilder

variable {b : ImageBuilder} {files : Files} {r : BuildRequest} {tag : String}
  {trace : List (Exchange Outside)} {result : Except BuildError (Option DeploymentImage)}

/-! ## What is said of a build -/

/-- The tag of a new image of an app. It ends with the label that is wanted for the image, or else
with a time that was asked for. -/
inductive IsTag (b : ImageBuilder) (app : AppName) (trace : List (Exchange Outside)) :
    Option String → String → Prop where
  | wanted (label : String) : IsTag b app trace (some label) (ImageTag.text b.registry app label)
  | dated {time : Timestamp} (h : ⟨.now, time⟩ ∈ trace) :
      IsTag b app trace none (ImageTag.text b.registry app (ImageTag.labelAt time))

theorem IsTag.eq_of_wanted {app : AppName} {label : String}
    (h : b.IsTag app trace (some label) tag) : tag = ImageTag.text b.registry app label := by
  cases h
  rfl

/-- There is something to build an image from: a Dockerfile, a builder, or nixpacks. -/
def HasSource (b : ImageBuilder) (files : Files) (r : BuildRequest) : Prop :=
  chosenFile? files r ≠ none ∨ r.builder ≠ none ∨ b.nixpacks = true

/-- What a build does and comes to. -/
structure Publishes (b : ImageBuilder) (files : Files) (r : BuildRequest)
    (trace : List (Exchange Outside)) (result : Except BuildError (Option DeploymentImage)) :
    Prop where
  /-- An image was built by one command, under its own tag, and then sent to the registry under
  that tag if it is to be published. -/
  image : ∀ image, result = .ok (some image) → b.IsTag r.app trace r.label image.tag ∧
    ∃ build, build.builtTags = [image.tag] ∧
      ranIn trace = .well build :: if r.publish then [.well (.push image.tag)] else []
  /-- A command that fails is the last one, and nothing is looked up. -/
  failure : ∀ before ran after, ranIn trace = before ++ ran :: after → ran.exit ≠ .ok (.code 0) →
    after = [] ∧ (∀ daemon reference answer, ⟨.inspect daemon reference, answer⟩ ∉ trace) ∧
      ∃ reason, result = .error (.command ran.command.program reason)
  /-- If there is something to build from and no command fails, then the last thing that happens is
  that the image is looked up by its tag. -/
  answered : r.builtin = none → b.HasSource files r →
    (∀ ran ∈ ranIn trace, ran.exit = .ok (.code 0)) →
      ∃ before tag answer, b.IsTag r.app trace r.label tag ∧
        trace = before ++ [⟨.inspect b.daemon tag, answer⟩] ∧
        result = (readInspection tag answer).mapError .daemon
  unsupported : ∀ builtin, r.builtin = some builtin →
    ranIn trace = [] ∧ ∃ reason, result = .error (.unsupported reason)
  nothing : r.builtin = none → ¬b.HasSource files r → ranIn trace = [] ∧ result = .ok none

/-! ## Single steps -/

theorem readExit_eq_ok {program : String} {exit : Except String ExitStatus} :
    readExit program exit = .ok () ↔ exit = .ok (.code 0) := by
  rw [readExit.eq_def]
  split <;> simp_all

theorem readExit_eq_error {program : String} {exit : Except String ExitStatus} {e : BuildError}
    (h : readExit program exit = .error e) :
    exit ≠ .ok (.code 0) ∧ ∃ reason, e = .command program reason := by
  refine ⟨fun hexit => ?_, ?_⟩
  · rw [readExit_eq_ok.2 hexit] at h
    cases h
  · rw [readExit.eq_def] at h
    split at h <;> cases h <;> exact ⟨_, rfl⟩

/-- An image that is looked up has the tag that it is looked up by. -/
theorem tag_of_readInspection {reference : String} {answer : Except Http.Failure Http.Reply}
    {image : DeploymentImage} (h : readInspection reference answer = .ok (some image)) :
    image.tag = reference := by
  rw [readInspection.eq_def] at h
  split at h
  · cases h
  · split at h
    · cases h
    · split at h
      · obtain ⟨description, -, hsome⟩ := map_eq_ok.1 h
        cases hsome
        rfl
      · cases h

theorem isTag_of_labelled {app : AppName} {wanted : Option String} {label : String}
    {start : List (Exchange Outside)} (h : Labelled wanted start label) (hsub : start ⊆ trace) :
    b.IsTag app trace wanted (ImageTag.text b.registry app label) := by
  cases h with
  | wanted => exact .wanted label
  | dated time => exact .dated (hsub (List.mem_singleton_self _))

theorem ranIn_of_labelled {wanted : Option String} {label : String}
    (h : Labelled wanted trace label) : ranIn trace = [] := by
  refine List.filterMap_eq_nil_iff.2 fun ⟨q, answer⟩ hx => ?_
  obtain rfl : q = .now := h.request_eq_now hx
  rfl

theorem isTag_of_tagged {start : List (Exchange Outside)} (h : b.Tagged r start tag)
    (hsub : start ⊆ trace) : b.IsTag r.app trace r.label tag := by
  obtain ⟨_, hlabel, rfl⟩ := h
  exact isTag_of_labelled hlabel hsub

theorem ranIn_of_tagged (h : b.Tagged r trace tag) : ranIn trace = [] := by
  obtain ⟨_, hlabel, -⟩ := h
  exact ranIn_of_labelled hlabel

theorem inspect_notMem_of_tagged (h : b.Tagged r trace tag) {daemon : Daemon} {reference : String}
    {answer : Except Http.Failure Http.Reply} : ⟨.inspect daemon reference, answer⟩ ∉ trace := by
  obtain ⟨label, hlabel, -⟩ := h
  intro hmem
  cases hlabel.request_eq_now hmem

theorem builtTags_of_command? {remarks : List Note} {command : Command}
    (h : b.command? files r tag = some (remarks, command)) : command.builtTags = [tag] := by
  rw [command?] at h
  split at h
  case h_1 file _ =>
    cases h
    exact Command.builtTags_dockerBuild r tag file
  case h_2 builder _ _ =>
    cases h
    exact Command.builtTags_packBuild r tag builder
  case h_3 =>
    split at h
    case isTrue =>
      cases h
      exact Command.builtTags_nixpacksBuild r tag
    case isFalse => cases h

theorem command?_eq_none : b.command? files r tag = none ↔ ¬b.HasSource files r := by
  rw [command?, HasSource, ← chosenFile?]
  split
  case h_1 file hfile => simp [hfile]
  case h_2 builder hfile hbuilder => simp [hbuilder]
  case h_3 hfile hbuilder => simp [hfile, hbuilder]

theorem hasSource_of_command? {remarks : List Note} {command : Command}
    (h : b.command? files r tag = some (remarks, command)) : b.HasSource files r := by
  refine Classical.byContradiction fun hnone => ?_
  cases h.symm.trans (command?_eq_none.2 hnone)

/-! ## Whole builds -/

/-- A build whose last command fails. -/
theorem publishes_of_cut (first : List Ran) (last : Ran) {reason : String}
    (hbuiltin : r.builtin = none) (hsource : b.HasSource files r)
    (hran : ranIn trace = first ++ [last]) (hfirst : ∀ ran ∈ first, ran.exit = .ok (.code 0))
    (hlast : last.exit ≠ .ok (.code 0))
    (hunseen : ∀ daemon reference answer, ⟨.inspect daemon reference, answer⟩ ∉ trace) :
    Publishes b files r trace (.error (.command last.command.program reason)) where
  image _ h := by cases h
  failure before ran after h hbad := by
    obtain ⟨rfl, rfl⟩ := eq_last_of_failing hfirst (hran.symm.trans h) hbad
    exact ⟨rfl, hunseen, reason, rfl⟩
  answered _ _ hwell := absurd (hwell last (by simp [hran])) hlast
  unsupported _ h := by cases hbuiltin.symm.trans h
  nothing _ hnone := absurd hsource hnone

/-- A build whose commands end well. -/
theorem publishes_of_answered (before : List (Exchange Outside)) {build : Command}
    {answer : Except Http.Failure Http.Reply} (hbuiltin : r.builtin = none)
    (hsource : b.HasSource files r) (htag : b.IsTag r.app trace r.label tag)
    (hbuild : build.builtTags = [tag])
    (hran : ranIn trace = .well build :: if r.publish then [.well (.push tag)] else [])
    (htrace : trace = before ++ [⟨.inspect b.daemon tag, answer⟩]) :
    Publishes b files r trace ((readInspection tag answer).mapError .daemon) where
  image image h := by
    obtain rfl := tag_of_readInspection (mapError_eq_ok.1 h)
    exact ⟨htag, build, hbuild, hran⟩
  failure before ran after h hbad := by
    have hwell : ∀ ran ∈ ranIn trace, ran.exit = .ok (.code 0) := by
      rw [hran]
      cases r.publish <;> simp [Ran.well]
    exact absurd (hwell ran (by simp [h])) hbad
  answered _ _ _ := ⟨before, tag, answer, htag, htrace, rfl⟩
  unsupported _ h := by cases hbuiltin.symm.trans h
  nothing _ hnone := absurd hsource hnone

theorem publishes_of_built (h : Built b files r trace result) :
    Publishes b files r trace result := by
  cases h with
  | unsupported h =>
    constructor
    case image => intro _ himage; cases himage
    case failure => intro before _ _ hran _; cases before <;> cases hran
    case answered => intro hnone _ _; cases h.symm.trans hnone
    case unsupported => intro _ _; exact ⟨rfl, _, rfl⟩
    case nothing => intro hnone _; cases h.symm.trans hnone
  | nothing h htag hcommand =>
    have hsource := command?_eq_none.1 hcommand
    have hsilent := ranIn_of_tagged htag
    constructor
    case image => intro _ himage; cases himage
    case failure => intro before _ _ hran _; cases before <;> cases hsilent.symm.trans hran
    case answered => intro _ hsome _; exact absurd hsome hsource
    case unsupported => intro _ hsome; cases h.symm.trans hsome
    case nothing => intro _ _; exact ⟨hsilent, rfl⟩
  | @failed start tag _ command exit e h htag hcommand he =>
    have hsource := hasSource_of_command? hcommand
    obtain ⟨hbad, reason, rfl⟩ := readExit_eq_error he
    refine publishes_of_cut [] ⟨command, exit⟩ h hsource ?_ (by simp) hbad ?_
    · rw [ranIn_append, ranIn_of_tagged htag]
      rfl
    · intro daemon reference answer hmem
      rcases List.mem_append.1 hmem with hmem | hmem
      · exact inspect_notMem_of_tagged htag hmem
      · cases List.mem_singleton.1 hmem
  | @concluded start rest tag _ command exit result h htag hcommand hexit hrest =>
    have hsource := hasSource_of_command? hcommand
    obtain rfl := readExit_eq_ok.1 hexit
    have hstart : ∀ rest, ranIn (start ++ rest) = ranIn rest := fun rest => by
      rw [ranIn_append, ranIn_of_tagged htag, List.nil_append]
    have htags := builtTags_of_command? hcommand
    cases hrest with
    | kept hkept answer =>
      refine publishes_of_answered (start ++ [_]) h hsource (isTag_of_tagged htag (by simp)) htags
        ?_ (List.append_cons ..)
      rw [hstart, hkept]
      rfl
    | @unpushed exit _ hpublish he =>
      obtain ⟨hbad, reason, rfl⟩ := readExit_eq_error he
      refine publishes_of_cut [.well command] ⟨.push tag, exit⟩ h hsource (hstart _)
        (by simp [Ran.well]) hbad ?_
      intro daemon reference answer hmem
      rcases List.mem_append.1 hmem with hmem | hmem
      · exact inspect_notMem_of_tagged htag hmem
      · simp at hmem
    | published hpublish hexit answer =>
      obtain rfl := readExit_eq_ok.1 hexit
      refine publishes_of_answered (start ++ [_, _]) h hsource (isTag_of_tagged htag (by simp))
        htags ?_ (List.append_assoc start [_, _] [_]).symm
      rw [hstart, hpublish]
      rfl

/-- Whatever is answered, a build publishes what it built. -/
theorem build_publishes_what_it_built {ω : Type} (w : World Outside ω) (state : ω)
    (b : ImageBuilder) (files : Files) (r : BuildRequest) :
    Publishes b files r (exchanges (Plan.run w (b.build files r).run state).1)
      (Plan.run w (b.build files r).run state).2.1 :=
  publishes_of_built (runs_build.1 (Plan.runs_run w _ state))

end ImageBuilder

end AppDeploy
