import AppDeploy.Proofs.Deploy.Course
import AppDeploy.Proofs.Json.Text
import AppDeploy.Proofs.Plan.Voiced

/-!
# What the console changes

Every part of a deploy says the same under every console (`voiced_run`), so a deploy asks, finds,
logs and keeps the same in all modes. The modes differ in the lines
(`same_but_for_lines`): without headings and details there are only those of the remarks, and as
JSON each of them is one line from which the remark is read back.
-/

namespace AppDeploy.Deploy

variable {files : Files} {o : DeployOptions} {c : AppConfig} {app : AppSummary}
  {image : DeploymentImage} {localConfig : Option AppConfig}

/-! ## The parts of a deploy -/

theorem voiced_baseConfig (app : AppName) :
    Task.Voiced fun _ => baseConfig app localConfig := by
  cases localConfig with
  | some base => exact Task.voiced_pure base
  | none =>
    refine Task.voiced_bind (Task.voiced_attempt _ (Plan.voiced_request _)) fun _ => ?_
    exact Task.voiced_attempt _ (Plan.voiced_request _)

theorem voiced_resolveConfig :
    Task.Voiced fun console => resolveConfig console o localConfig := by
  simp only [resolveConfig]
  refine Task.voiced_bind (Task.voiced_progress _) fun _ => ?_
  refine Task.voiced_bind (voiced_baseConfig _) fun base => ?_
  refine Task.voiced_bind (Task.voiced_fromExcept _ _) fun config => ?_
  refine Task.voiced_bind ?_ fun _ => ?_
  · have reports := Task.voiced_reports (S := Deploy) (ε := ConfigError)
      (config.validate.advisories.map Advisory.ofConfig)
    simp only [List.flatMap_map] at reports
    exact reports
  refine Task.voiced_bind (Task.voiced_fromExcept _ _) fun _ => ?_
  exact Task.voiced_bind (Task.voiced_detail _) fun _ => Task.voiced_pure config

theorem voiced_buildAlive (r : BuildRequest) : Plan.Voiced fun _ => buildAlive r := by
  refine Plan.voiced_bind (Plan.voiced_request _) fun _ => ?_
  refine Plan.voiced_bind (Plan.voiced_request _) fun built => ?_
  exact Plan.voiced_bind (Plan.voiced_request _) fun _ => .done built

theorem voiced_announceImage (found : Option DeploymentImage) :
    Task.Voiced fun console => announceImage console found := by
  cases found with
  | none => exact Task.voiced_throw _
  | some image =>
    refine Task.voiced_bind (Task.voiced_detail _) fun _ => ?_
    exact Task.voiced_bind (Task.voiced_detail _) fun _ => Task.voiced_pure image

theorem voiced_obtainImage :
    Task.Voiced fun console => obtainImage console files o c := by
  simp only [obtainImage]
  refine Task.voiced_bind (Task.voiced_progress _) fun _ => ?_
  refine Task.voiced_bind (Task.voiced_reports _) fun _ => ?_
  cases namedImage o c with
  | some reference =>
    exact Task.voiced_bind (Task.voiced_attempt _ (Plan.voiced_request _)) voiced_announceImage
  | none =>
    refine Task.voiced_bind (Task.voiced_fromExcept _ _) fun request => ?_
    exact Task.voiced_bind (Task.voiced_attempt _ (voiced_buildAlive request)) voiced_announceImage

theorem voiced_choosePlatform (app : AppSummary) : Plan.Voiced fun _ => choosePlatform o app :=
  Plan.voiced_bind (Plan.voiced_request _) fun _ => .done _

/-- The failure of a rollout is logged under every console. -/
theorem voiced_runRollout (r : NewRollout) : Plan.Voiced fun _ => runRollout r := by
  refine Plan.voiced_bind (Plan.voiced_request _) fun result => ?_
  cases result with
  | ok u => exact .done _
  | error e => exact .say (.entry (failureEntry r e)) (.done _)

theorem voiced_deployMachines :
    Task.Voiced fun console => deployMachines console o c app image := by
  simp only [deployMachines]
  refine Task.voiced_bind (Task.voiced_fromExcept _ _) fun _ => ?_
  refine Task.voiced_bind (Task.voiced_fromExcept _ _) fun rollout => ?_
  refine Task.voiced_bind (Task.voiced_progress _) fun _ => ?_
  exact Task.voiced_attempt _ (voiced_runRollout rollout)

theorem voiced_effectiveRelease (name : AppName) (created : CreatedRelease) :
    Task.Voiced fun console => effectiveRelease console name created := by
  simp only [effectiveRelease]
  cases created.releaseCommand with
  | none => exact Task.voiced_pure _
  | some command =>
    refine Task.voiced_bind (Task.voiced_progress _) fun _ => ?_
    refine Task.voiced_bind (Task.voiced_detail _) fun _ => ?_
    refine Task.voiced_bind (Task.voiced_attempt _ (Plan.voiced_request _)) fun _ => ?_
    exact Task.voiced_attempt _ (Plan.voiced_request _)

theorem voiced_awaitRelease (name : AppName) (r : Release) :
    Task.Voiced fun _ => awaitRelease name r := by
  simp only [awaitRelease]
  split
  · exact Task.voiced_pure ()
  · exact Task.voiced_attempt _ (Plan.voiced_request _)

theorem voiced_deployRelease :
    Task.Voiced fun console => deployRelease console o c image := by
  simp only [deployRelease]
  refine Task.voiced_bind (Task.voiced_progress _) fun _ => ?_
  refine Task.voiced_bind (Task.voiced_attempt _ (Plan.voiced_request _)) fun created => ?_
  refine Task.voiced_bind (Task.voiced_detail _) fun _ => ?_
  split
  · exact Task.voiced_pure ()
  · refine Task.voiced_bind (Task.voiced_detail _) fun _ => ?_
    refine Task.voiced_bind (voiced_effectiveRelease _ created) fun release => ?_
    exact voiced_awaitRelease _ release

theorem voiced_deliver (platform : Platform) :
    Task.Voiced fun console => deliver console files o c app platform := by
  simp only [deliver]
  refine Task.voiced_bind (Task.voiced_fromExcept _ _) fun _ => ?_
  refine Task.voiced_bind (Task.voiced_adapt _ voiced_obtainImage) fun image => ?_
  split
  · exact Task.voiced_pure _
  · refine Task.voiced_bind ?_ fun _ => Task.voiced_pure _
    cases platform with
    | machines => exact voiced_deployMachines
    | releases => exact voiced_deployRelease

theorem voiced_run : Task.Voiced fun console => run console files o localConfig := by
  simp only [run]
  refine Task.voiced_bind (Task.voiced_adapt _ voiced_resolveConfig) fun config => ?_
  refine Task.voiced_bind (Task.voiced_attempt _ (Plan.voiced_request _)) fun app => ?_
  refine Task.voiced_bind (Task.voiced_lift (voiced_choosePlatform app)) fun platform => ?_
  exact voiced_deliver platform

/-! ## In a world -/

/-- A remark as a line for people. -/
def warningLine (a : Advisory) : Line :=
  ⟨.err, s!"WARN {a.message}"⟩

/-- A line for programs: one line on the output from which a remark is read back. -/
structure Tells (line : Line) (a : Advisory) : Prop where
  stream : line.stream = .out
  printable : Json.Printable line.text
  read : Json.Document.ofText line.text =
    (.record [(.text "event", .text "warning"), (.text "message", .text a.message)] true, true)

theorem tells_eventText (a : Advisory) :
    Tells ⟨.out, Console.eventText "warning" a.message none⟩ a :=
  ⟨rfl, Json.printable_texts [("event", "warning"), ("message", a.message)],
    Json.Document.ofText_texts [("event", "warning"), ("message", a.message)]⟩

section World

variable {ω : Type} (w : World Deploy ω) (state : ω) (console : Console) (files : Files)
  (o : DeployOptions) (localConfig : Option AppConfig)

/-- What a deploy notes in a world. -/
def notesIn : List Note :=
  noted (Plan.run w (run console files o localConfig).run state).1

def linesIn : List Line :=
  (notesIn w state console files o localConfig).filterMap Note.line?

def logIn : List LogEntry :=
  (notesIn w state console files o localConfig).filterMap Note.entry?

def remarksIn : List Advisory :=
  (notesIn w state console files o localConfig).filterMap Note.advisory?

/-- Under every console a deploy says the same things, makes the same calls, and comes to the
same. -/
theorem said_in : ∃ (said : List Saying) (calls : List (Exchange Deploy))
    (result : Except DeployError Report), ∀ console,
      linesIn w state console files o localConfig = said.flatMap (Saying.lines console) ∧
      remarksIn w state console files o localConfig = said.filterMap Saying.remark? ∧
      logIn w state console files o localConfig =
        (said.flatMap Saying.kept).filterMap Note.entry? ∧
      callsIn w state console files o localConfig = calls ∧
      outcomeIn w state console files o localConfig = result := by
  have hvoiced : Task.Voiced fun console => run console files o localConfig := voiced_run
  obtain ⟨said, calls, ⟨result, after⟩, hrun⟩ := Plan.run_of_voiced hvoiced w state
  refine ⟨said, calls, result, fun console => ?_⟩
  obtain ⟨hsaid, hcalls, hresult⟩ := hrun console
  have hnotes : notesIn w state console files o localConfig =
      said.flatMap (Saying.notes console) := hsaid
  refine ⟨?_, ?_, ?_, hcalls, congrArg Prod.fst hresult⟩
  · rw [linesIn, hnotes, Saying.line?_notes]
  · rw [remarksIn, hnotes, Saying.filterMap_notes fun _ => rfl, Saying.advisory?_kept]
  · rw [logIn, hnotes, Saying.filterMap_notes fun _ => rfl]

/-- The mode of the output changes the lines only: a deploy makes the same calls and comes to the
same with the same remarks and the same log in all modes. Where headings and details are left out
there is one line for every remark, in the order of the remarks, and no other. For programs the
line is a JSON object on the output from which the remark is read back; otherwise it is on the
stream of errors, where nothing else is. -/
theorem same_but_for_lines :
    (∀ console console',
      outcomeIn w state console files o localConfig =
        outcomeIn w state console' files o localConfig ∧
      callsIn w state console files o localConfig = callsIn w state console' files o localConfig ∧
      remarksIn w state console files o localConfig =
        remarksIn w state console' files o localConfig ∧
      logIn w state console files o localConfig = logIn w state console' files o localConfig) ∧
    (linesIn w state ⟨.normal⟩ files o localConfig).filter (·.stream = .err) =
      (remarksIn w state ⟨.normal⟩ files o localConfig).map warningLine ∧
    linesIn w state ⟨.quiet⟩ files o localConfig =
      (remarksIn w state ⟨.quiet⟩ files o localConfig).map warningLine ∧
    List.Forall₂ Tells (linesIn w state ⟨.json⟩ files o localConfig)
      (remarksIn w state ⟨.json⟩ files o localConfig) := by
  obtain ⟨said, calls, result, hsaid⟩ := said_in w state files o localConfig
  refine ⟨fun console console' => ?_, ?_, ?_, ?_⟩
  · obtain ⟨-, hremarks, hlog, hcalls, hresult⟩ := hsaid console
    obtain ⟨-, hremarks', hlog', hcalls', hresult'⟩ := hsaid console'
    exact ⟨hresult.trans hresult'.symm, hcalls.trans hcalls'.symm, hremarks.trans hremarks'.symm,
      hlog.trans hlog'.symm⟩
  · obtain ⟨hlines, hremarks, -⟩ := hsaid ⟨.normal⟩
    rw [hlines, hremarks, Saying.err_lines]
    exact List.map_eq_flatMap.symm
  · obtain ⟨hlines, hremarks, -⟩ := hsaid ⟨.quiet⟩
    rw [hlines, hremarks, Saying.lines_of_not_normal (by decide)]
    exact List.map_eq_flatMap.symm
  · obtain ⟨hlines, hremarks, -⟩ := hsaid ⟨.json⟩
    have hevents : linesIn w state ⟨.json⟩ files o localConfig =
        (said.filterMap Saying.remark?).map fun a =>
          ⟨.out, Console.eventText "warning" a.message none⟩ := by
      rw [hlines, Saying.lines_of_not_normal (by decide)]
      exact List.map_eq_flatMap.symm
    rw [hevents, hremarks, List.forall₂_map_left_iff]
    exact List.forall₂_same.2 fun a _ => tells_eventText a

end World

end AppDeploy.Deploy
