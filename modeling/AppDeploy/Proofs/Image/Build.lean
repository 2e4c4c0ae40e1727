import AppDeploy.Image.Builder
import AppDeploy.Proofs.Plan.Runs

/-!
# Building an image, run by run

`Built` says which exchanges with the world outside the build of an image can make, and what
comes of them: nothing is built for a builtin or without anything to build from; one command
builds the image, and then it is looked up, after it was pushed if it is to be published.
`runs_build` says that these are its runs.
-/

namespace AppDeploy.ImageBuilder

variable {b : ImageBuilder} {files : Files} {r : BuildRequest} {tag : String}
  {trace : List (Exchange Outside)}

/-! ## Single steps -/

/-- A request whose answer is only read. -/
theorem runs_answer {ε α : Type} {q : Outside.Request} {wrap : ε → BuildError}
    {read : Outside.Answer q → Except ε α} {result : Except BuildError α} :
    Task.Runs (ExceptT.lift (Plan.request (S := Outside) q) >>= fun answer =>
        Task.fromExcept wrap (read answer)) trace result ↔
      ∃ answer, trace = [⟨q, answer⟩] ∧ result = (read answer).mapError wrap := by
  rw [Task.runs_lift_bind]
  simp only [Plan.runs_request]
  constructor
  · intro hrun
    obtain ⟨_, answer, rest, rfl, hdone, rfl⟩ := hrun
    obtain ⟨rfl, rfl⟩ := Plan.runs_done.1 hdone
    exact ⟨answer, rfl, rfl⟩
  · intro hrun
    obtain ⟨answer, rfl, rfl⟩ := hrun
    exact ⟨_, answer, [], rfl, .done _, rfl⟩

theorem runs_inspect {reference : String} {result : Except BuildError (Option DeploymentImage)} :
    Task.Runs (b.inspect reference) trace result ↔
      ∃ answer, trace = [⟨.inspect b.daemon reference, answer⟩] ∧
        result = (readInspection reference answer).mapError .daemon :=
  runs_answer

/-- A request whose answer is only read, and then what follows an answer that can be read. -/
theorem runs_answer_bind {ε α β : Type} {q : Outside.Request} {wrap : ε → BuildError}
    {read : Outside.Answer q → Except ε α} {f : α → Task Outside BuildError β}
    {result : Except BuildError β} :
    Task.Runs ((ExceptT.lift (Plan.request (S := Outside) q) >>= fun answer =>
        Task.fromExcept wrap (read answer)) >>= f) trace result ↔
      ∃ answer rest, trace = ⟨q, answer⟩ :: rest ∧
        ((∃ e, read answer = .error e ∧ rest = [] ∧ result = .error (wrap e)) ∨
          ∃ a, read answer = .ok a ∧ Task.Runs (f a) rest result) := by
  rw [bind_assoc, Task.runs_lift_bind]
  simp only [Plan.runs_request]
  constructor
  · intro hrun
    obtain ⟨_, answer, rest, rfl, hrest, rfl⟩ := hrun
    refine ⟨answer, rest, rfl, ?_⟩
    cases hread : read answer with
    | error e =>
      rw [hread] at hrest
      obtain ⟨rfl, rfl⟩ := Task.runs_error_bind.1 hrest
      exact .inl ⟨e, rfl, rfl, rfl⟩
    | ok a =>
      rw [hread] at hrest
      exact .inr ⟨a, rfl, Task.runs_ok_bind.1 hrest⟩
  · intro hrun
    obtain ⟨answer, rest, rfl, hread⟩ := hrun
    refine ⟨_, answer, rest, rfl, ?_, rfl⟩
    rcases hread with ⟨e, he, rfl, rfl⟩ | ⟨a, hok, hrest⟩
    · rw [he]
      exact Task.runs_error_bind.2 ⟨rfl, rfl⟩
    · rw [hok]
      exact Task.runs_ok_bind.2 hrest

/-- A command, and then what follows its good end. -/
theorem runs_run_bind {α : Type} {command : Command} {f : Unit → Task Outside BuildError α}
    {result : Except BuildError α} :
    Task.Runs (b.run command >>= f) trace result ↔
      ∃ exit rest, trace = ⟨.run command b.daemon, exit⟩ :: rest ∧
        ((∃ e, readExit command.program exit = .error e ∧ rest = [] ∧ result = .error e) ∨
          readExit command.program exit = .ok () ∧ Task.Runs (f ()) rest result) := by
  refine runs_answer_bind.trans ?_
  constructor
  · intro hrun
    obtain ⟨exit, rest, htrace, hfailed | ⟨_, hok, hrest⟩⟩ := hrun
    · exact ⟨exit, rest, htrace, .inl hfailed⟩
    · exact ⟨exit, rest, htrace, .inr ⟨hok, hrest⟩⟩
  · intro hrun
    obtain ⟨exit, rest, htrace, hfailed | ⟨hok, hrest⟩⟩ := hrun
    · exact ⟨exit, rest, htrace, .inl hfailed⟩
    · exact ⟨exit, rest, htrace, .inr ⟨(), hok, hrest⟩⟩

/-! ## The tag -/

/-- Where the label of a new image comes from: it is wanted, or else the time is asked for. -/
inductive Labelled : Option String → List (Exchange Outside) → String → Prop where
  | wanted (label : String) : Labelled (some label) [] label
  | dated (time : Timestamp) : Labelled none [⟨.now, time⟩] (ImageTag.labelAt time)

/-- All that can be asked for a label is the time. -/
theorem Labelled.request_eq_now {wanted : Option String} {label : String} {x : Exchange Outside}
    (h : Labelled wanted trace label) (hx : x ∈ trace) : x.request = .now := by
  cases h with
  | wanted => cases hx
  | dated time =>
    cases List.mem_singleton.1 hx
    rfl

theorem runs_labelFor {wanted : Option String} {result : Except BuildError String} :
    Task.Runs (labelFor wanted) trace result ↔
      ∃ label, Labelled wanted trace label ∧ result = .ok label := by
  cases wanted with
  | some label =>
    rw [labelFor, Task.runs_pure]
    constructor
    · intro hrun
      obtain ⟨rfl, rfl⟩ := hrun
      exact ⟨label, .wanted label, rfl⟩
    · intro hrun
      obtain ⟨_, hlabel, rfl⟩ := hrun
      cases hlabel
      exact ⟨rfl, rfl⟩
  | none =>
    rw [labelFor, Task.runs_lift_bind]
    simp only [Plan.runs_request, Task.runs_pure]
    constructor
    · intro hrun
      obtain ⟨_, time, _, rfl, ⟨rfl, rfl⟩, rfl⟩ := hrun
      exact ⟨_, .dated time, rfl⟩
    · intro hrun
      obtain ⟨_, hlabel, rfl⟩ := hrun
      cases hlabel with
      | dated time => exact ⟨_, time, [], rfl, ⟨rfl, rfl⟩, rfl⟩

theorem runs_tagOf {app : AppName} {wanted : Option String} {result : Except BuildError String} :
    Task.Runs (b.tagFor app wanted) trace result ↔
      ∃ label, Labelled wanted trace label ∧ result = .ok (ImageTag.text b.registry app label) := by
  refine (Task.runs_bind_silent fun _ _ _ => Task.runs_pure).trans ?_
  simp only [runs_labelFor]
  constructor
  · intro hrun
    obtain ⟨_, ⟨label, hlabel, rfl⟩, rfl⟩ := hrun
    exact ⟨label, hlabel, rfl⟩
  · intro hrun
    obtain ⟨label, hlabel, rfl⟩ := hrun
    exact ⟨_, ⟨label, hlabel, rfl⟩, rfl⟩

/-- The tag of a new image, and what is asked for it. -/
def Tagged (b : ImageBuilder) (r : BuildRequest) (trace : List (Exchange Outside))
    (tag : String) : Prop :=
  ∃ label, Labelled r.label trace label ∧ tag = ImageTag.text b.registry r.app label

theorem runs_tagFor {result : Except BuildError String} :
    Task.Runs (b.tagFor r.app r.label) trace result ↔
      ∃ tag, b.Tagged r trace tag ∧ result = .ok tag := by
  rw [runs_tagOf]
  constructor
  · intro hrun
    obtain ⟨label, hlabel, rfl⟩ := hrun
    exact ⟨_, ⟨label, hlabel, rfl⟩, rfl⟩
  · intro hrun
    obtain ⟨_, ⟨label, hlabel, rfl⟩, rfl⟩ := hrun
    exact ⟨label, hlabel, rfl⟩

/-! ## The build -/

/-- What follows a build that went well. -/
inductive Concluded (b : ImageBuilder) (r : BuildRequest) (tag : String) :
    List (Exchange Outside) → Except BuildError (Option DeploymentImage) → Prop where
  | kept (h : r.publish = false) (answer : Except Http.Failure Http.Reply) :
      Concluded b r tag [⟨.inspect b.daemon tag, answer⟩]
        ((readInspection tag answer).mapError .daemon)
  | unpushed {exit : Except String ExitStatus} {e : BuildError} (h : r.publish = true)
      (he : readExit "docker" exit = .error e) :
      Concluded b r tag [⟨.run (.push tag) b.daemon, exit⟩] (.error e)
  | published {exit : Except String ExitStatus} (h : r.publish = true)
      (hexit : readExit "docker" exit = .ok ()) (answer : Except Http.Failure Http.Reply) :
      Concluded b r tag [⟨.run (.push tag) b.daemon, exit⟩, ⟨.inspect b.daemon tag, answer⟩]
        ((readInspection tag answer).mapError .daemon)

/-- How an image is built, by the way that ends. -/
inductive Built (b : ImageBuilder) (files : Files) (r : BuildRequest) :
    List (Exchange Outside) → Except BuildError (Option DeploymentImage) → Prop where
  | unsupported {builtin : String} (h : r.builtin = some builtin) :
      Built b files r [] (.error
        (.unsupported s!"the \"{builtin}\" builtin cannot be built by the docker builder"))
  | nothing {start : List (Exchange Outside)} {tag : String} (h : r.builtin = none)
      (htag : b.Tagged r start tag) (hcommand : b.command? files r tag = none) :
      Built b files r start (.ok none)
  | failed {start : List (Exchange Outside)} {tag : String} {remarks : List Note}
      {command : Command} {exit : Except String ExitStatus} {e : BuildError}
      (h : r.builtin = none) (htag : b.Tagged r start tag)
      (hcommand : b.command? files r tag = some (remarks, command))
      (he : readExit command.program exit = .error e) :
      Built b files r (start ++ [⟨.run command b.daemon, exit⟩]) (.error e)
  | concluded {start rest : List (Exchange Outside)} {tag : String} {remarks : List Note}
      {command : Command} {exit : Except String ExitStatus}
      {result : Except BuildError (Option DeploymentImage)} (h : r.builtin = none)
      (htag : b.Tagged r start tag) (hcommand : b.command? files r tag = some (remarks, command))
      (hexit : readExit command.program exit = .ok ()) (hrest : Concluded b r tag rest result) :
      Built b files r (start ++ ⟨.run command b.daemon, exit⟩ :: rest) result

theorem runs_conclude {result : Except BuildError (Option DeploymentImage)} :
    Task.Runs (if r.publish = true then b.run (.push tag) >>= fun _ => b.inspect tag
        else b.inspect tag) trace result ↔ Concluded b r tag trace result := by
  cases h : r.publish with
  | true =>
    rw [if_pos rfl, runs_run_bind]
    simp only [runs_inspect]
    constructor
    · intro hrun
      obtain ⟨exit, rest, rfl, ⟨e, he, rfl, rfl⟩ | ⟨hexit, answer, rfl, rfl⟩⟩ := hrun
      · exact .unpushed h he
      · exact .published h hexit answer
    · intro hconcluded
      cases hconcluded with
      | kept h' => cases h.symm.trans h'
      | unpushed _ he => exact ⟨_, [], rfl, .inl ⟨_, he, rfl, rfl⟩⟩
      | published _ hexit answer => exact ⟨_, _, rfl, .inr ⟨hexit, answer, rfl, rfl⟩⟩
  | false =>
    rw [if_neg Bool.false_ne_true, runs_inspect]
    constructor
    · intro hrun
      obtain ⟨answer, rfl, rfl⟩ := hrun
      exact .kept h answer
    · intro hconcluded
      cases hconcluded with
      | kept _ answer => exact ⟨answer, rfl, rfl⟩
      | unpushed h' => cases h.symm.trans h'
      | published h' => cases h.symm.trans h'

theorem runs_build {result : Except BuildError (Option DeploymentImage)} :
    Task.Runs (b.build files r) trace result ↔ Built b files r trace result := by
  rw [build]
  cases h : r.builtin with
  | some builtin =>
    refine Plan.runs_done.trans ?_
    constructor
    · intro hrun
      obtain ⟨rfl, rfl⟩ := hrun
      exact .unsupported h
    · intro hbuilt
      cases hbuilt with
      | unsupported h' =>
        cases h.symm.trans h'
        exact ⟨rfl, rfl⟩
      | nothing h' => cases h.symm.trans h'
      | failed h' => cases h.symm.trans h'
      | concluded h' => cases h.symm.trans h'
  | none =>
    rw [Task.runs_bind]
    simp only [runs_tagFor]
    constructor
    · intro hrun
      obtain ⟨e, ⟨_, -, he⟩, -⟩ | ⟨start, tag, rest, ⟨_, htag, ha⟩, hrest, rfl⟩ := hrun
      · cases he
      cases ha
      cases hcommand : b.command? files r tag with
      | none =>
        rw [hcommand] at hrest
        obtain ⟨rfl, rfl⟩ := Task.runs_pure.1 hrest
        rw [List.append_nil]
        exact .nothing h htag hcommand
      | some found =>
        obtain ⟨remarks, command⟩ := found
        rw [hcommand] at hrest
        obtain ⟨exit, later, rfl, ⟨e, he, rfl, rfl⟩ | ⟨hexit, hlater⟩⟩ :=
          runs_run_bind.1 (Task.runs_notes_bind.1 hrest)
        · exact .failed h htag hcommand he
        · exact .concluded h htag hcommand hexit (runs_conclude.1 hlater)
    · intro hbuilt
      cases hbuilt with
      | unsupported h' => cases h.symm.trans h'
      | @nothing _ tag _ htag hcommand =>
        refine .inr ⟨_, tag, [], ⟨tag, htag, rfl⟩, ?_, (List.append_nil _).symm⟩
        rw [hcommand]
        exact Task.runs_pure.2 ⟨rfl, rfl⟩
      | @failed _ tag _ _ _ _ _ htag hcommand he =>
        refine .inr ⟨_, tag, _, ⟨tag, htag, rfl⟩, ?_, rfl⟩
        rw [hcommand]
        exact Task.runs_notes_bind.2 (runs_run_bind.2 ⟨_, [], rfl, .inl ⟨_, he, rfl, rfl⟩⟩)
      | @concluded _ _ tag _ _ _ _ _ htag hcommand hexit hrest =>
        refine .inr ⟨_, tag, _, ⟨tag, htag, rfl⟩, ?_, rfl⟩
        rw [hcommand]
        refine Task.runs_notes_bind.2 (runs_run_bind.2 ⟨_, _, rfl, .inr ⟨hexit, ?_⟩⟩)
        exact runs_conclude.2 hrest

end AppDeploy.ImageBuilder
