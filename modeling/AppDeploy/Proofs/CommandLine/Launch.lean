import AppDeploy.Proofs.CommandLine.Checks
import AppDeploy.Proofs.Deploy.AppScope
import AppDeploy.Proofs.Deploy.Detach

/-!
# A call of the program, run by run

Until its checks have passed, the program asks for nothing but the time; then it makes the deploy
that the checks have found (`Conduct`). So a call whose checks fail touches nothing outside, and one
whose checks pass touches only what belongs to the app that they have found
(`deploy_touches_only_its_app`).
-/

namespace AppDeploy.CommandLine

variable {env : Environment} {files : Files} {call : Call} {mode : ConsoleMode} {s : Start}
  {calls : List (Exchange Deploy)} {trace : List (Exchange Outside)}

/-! ## From the checks on -/

/-- The builder that a deploy starts with. -/
def Start.builder (s : Start) : ImageBuilder where
  daemon := s.daemon
  registry := s.settings.registry
  nixpacks := s.options.build.nixpacks

/-- A daemon is there. Only the socket of the local one is looked for. -/
inductive Connected : Daemon → List (Exchange Outside) → Prop where
  | here : Connected .here [⟨.findDaemon, .ok ()⟩]
  | remote (address : String) : Connected (.remote address) []

/-- What is asked of the world outside once the checks have passed, with the calls of the deploy
that it carries out, and what comes of it. -/
inductive Launched (files : Files) (mode : ConsoleMode) (s : Start) :
    List (Exchange Deploy) → List (Exchange Outside) → Except Failure Unit → Prop where
  | unconnected (path : String) (h : s.daemon = .here) :
      Launched files mode s [] [⟨.findDaemon, .error path⟩]
        (.error (.builder (.daemon (.noSocket path))))
  | failed {calls : List (Exchange Deploy)} {socket trace : List (Exchange Outside)}
      {e : DeployError} (hsocket : Connected s.daemon socket)
      (hrun : Task.Runs (Deploy.run ⟨mode⟩ files s.options s.config) calls (.error e))
      (hcarried : Plan.Carried (Deploy.carry s.controlPlane s.builder files) calls trace) :
      Launched files mode s calls (socket ++ trace) (.error (.deploy e))
  | finished {calls : List (Exchange Deploy)} {socket trace : List (Exchange Outside)}
      {report : Deploy.Report} (hsocket : Connected s.daemon socket)
      (hrun : Task.Runs (Deploy.run ⟨mode⟩ files s.options s.config) calls (.ok report))
      (hcarried : Plan.Carried (Deploy.carry s.controlPlane s.builder files) calls trace)
      (finish : Timestamp) :
      Launched files mode s calls (socket ++ (trace ++ [⟨.now, finish⟩])) (.ok ())

/-- What a call asks for and comes to, for each outcome of its checks: if they fail, it asks for the
time and nothing else; if they pass, then everything is for the app that they have found. -/
inductive Conduct (files : Files) (mode : ConsoleMode) :
    Except Failure Start → List (Exchange Outside) → Except Failure Unit → Prop where
  | refused (e : Failure) (start : Timestamp) :
      Conduct files mode (.error e) [⟨.now, start⟩] (.error e)
  | launched {s : Start} {calls : List (Exchange Deploy)} {rest : List (Exchange Outside)}
      {result : Except Failure Unit} (start : Timestamp)
      (h : Launched files mode s calls rest result)
      (hcalls : ∀ x ∈ calls, x.request.IsFor s.options.app)
      (hrest : ∀ x ∈ rest,
        x.request.IsFor s.controlPlane s.builder s.options.app (Deploy.Sought calls)) :
      Conduct files mode (.ok s) (⟨.now, start⟩ :: rest) result

/-! ## The runs of a call -/

/-- A builder is connected once its daemon is selected and found. -/
theorem connected_of_runs {settings : Settings} {choice : DaemonChoice} {daemon : Daemon}
    {found : Except BuildError ImageBuilder}
    (hdaemon : choice.select settings.remoteBuilder = .ok daemon)
    (h : Task.Runs (ImageBuilder.connect settings choice) trace found) :
    (∃ path, daemon = .here ∧ trace = [⟨.findDaemon, .error path⟩] ∧
      found = .error (.daemon (.noSocket path))) ∨
    Connected daemon trace ∧ found = .ok ⟨daemon, settings.registry, choice.nixpacks⟩ := by
  rw [ImageBuilder.connect, hdaemon, Task.runs_ok_bind] at h
  cases daemon with
  | remote address =>
    rw [if_neg (by simp)] at h
    obtain ⟨rfl, rfl⟩ := Task.runs_pure.1 h
    exact .inr ⟨.remote address, rfl⟩
  | here =>
    rw [if_pos rfl, Task.runs_attempt_bind] at h
    simp only [Plan.runs_request, Task.runs_pure] at h
    obtain ⟨path, rfl, rfl⟩ | ⟨_, _, _, rfl, ⟨rfl, rfl⟩, rfl⟩ := h
    · exact .inl ⟨path, rfl, rfl, rfl⟩
    · exact .inr ⟨.here, rfl⟩

theorem isFor_of_connected {daemon : Daemon} {sought : String → Prop} {c : ControlPlane}
    {b : ImageBuilder} {app : AppName} (h : Connected daemon trace) :
    ∀ x ∈ trace, x.request.IsFor c b app sought := by
  cases h with
  | here => exact List.forall_mem_singleton.2 .findDaemon
  | remote => exact List.forall_mem_nil _

theorem Launched.isFor {result : Except Failure Unit}
    (h : Launched files mode s calls trace result) :
    (∀ x ∈ calls, x.request.IsFor s.options.app) ∧ ∀ x ∈ trace,
      x.request.IsFor s.controlPlane s.builder s.options.app (Deploy.Sought calls) := by
  cases h with
  | unconnected path => exact ⟨List.forall_mem_nil _, List.forall_mem_singleton.2 .findDaemon⟩
  | failed hsocket hrun hcarried =>
    obtain ⟨hcalls, htrace⟩ := Deploy.isFor_of_runs hrun hcarried
    exact ⟨hcalls, List.forall_mem_append.2 ⟨isFor_of_connected hsocket, htrace⟩⟩
  | finished hsocket hrun hcarried finish =>
    obtain ⟨hcalls, htrace⟩ := Deploy.isFor_of_runs hrun hcarried
    refine ⟨hcalls, List.forall_mem_append.2 ⟨isFor_of_connected hsocket, ?_⟩⟩
    exact List.forall_mem_append.2 ⟨htrace, List.forall_mem_singleton.2 .now⟩

/-- Once there is a builder, the deploy is made, and the time is asked for again if it went well. -/
theorem launched_of_runs {socket : List (Exchange Outside)}
    {lines : Deploy.Report → Timestamp → List Line} {result : Except Failure Unit}
    (hsocket : Connected s.daemon socket)
    (h : Task.Runs ((Deploy.runOutside s.controlPlane s.builder ⟨mode⟩ files s.options
        s.config).adapt .deploy >>= fun report =>
          ExceptT.lift (Plan.request (S := Outside) .now) >>= fun finish =>
            Task.print (lines report finish)) trace result) :
    ∃ calls, Launched files mode s calls (socket ++ trace) result := by
  obtain ⟨e, hdeploy, rfl⟩ | ⟨first, report, ending, hdeploy, hending, rfl⟩ :=
    Task.runs_adapt_bind.1 h
  · obtain ⟨calls, hcalls, hcarried⟩ := Plan.runs_through.1 hdeploy
    exact ⟨calls, .failed hsocket hcalls hcarried⟩
  · obtain ⟨calls, hcalls, hcarried⟩ := Plan.runs_through.1 hdeploy
    obtain ⟨_, finish, _, hfinish, hprint, rfl⟩ := Task.runs_lift_bind.1 hending
    obtain rfl := Plan.runs_request.1 hfinish
    obtain ⟨rfl, rfl⟩ := Task.runs_notes.1 hprint
    exact ⟨calls, .finished hsocket hcalls hcarried finish⟩

/-- The program asks for the time, makes its checks, and starts the deploy that they have found. -/
theorem conduct_of_runs {result : Except Failure Unit}
    (h : Task.Runs (deploy env files call) trace result) :
    Conduct files call.mode (checks env files call) trace result := by
  rw [deploy, Task.runs_lift_bind] at h
  obtain ⟨_, start, rest, hnow, h, rfl⟩ := h
  obtain rfl := Plan.runs_request.1 hnow
  rw [checks]
  cases hprepare : prepare env files call with
  | error e =>
    rw [hprepare] at h
    obtain ⟨rfl, rfl⟩ := Task.runs_error_bind.1 h
    exact .refused e start
  | ok p =>
    rw [hprepare, Task.runs_ok_bind, Task.runs_adapt_bind] at h
    simp only [bind, Except.bind]
    cases hdaemon : (DaemonChoice.ofFlags p.options.build env.isBuildServer).select
        p.settings.remoteBuilder with
    | error e =>
      simp only [ImageBuilder.connect, hdaemon, Task.runs_error_bind] at h
      obtain ⟨_, ⟨rfl, he⟩, rfl⟩ | ⟨_, _, _, ⟨-, he⟩, -, -⟩ := h
      · cases he
        exact .refused (.builder e) start
      · cases he
    | ok daemon =>
      have hlaunched : ∃ calls, Launched files call.mode { p with daemon } calls rest result := by
        obtain ⟨_, hconnect, rfl⟩ | ⟨socket, builder, later, hconnect, hdeploy, rfl⟩ := h
        · obtain ⟨path, rfl, rfl, he⟩ | ⟨-, he⟩ := connected_of_runs hdaemon hconnect
          · cases he
            exact ⟨[], .unconnected path rfl⟩
          · cases he
        · obtain ⟨_, -, -, he⟩ | ⟨hsocket, hbuilder⟩ := connected_of_runs hdaemon hconnect
          · cases he
          · cases hbuilder
            exact launched_of_runs (s := { p with daemon }) hsocket hdeploy
      obtain ⟨calls, hlaunched⟩ := hlaunched
      obtain ⟨hcalls, hrest⟩ := hlaunched.isFor
      exact .launched start hlaunched hcalls hrest

section World

variable {ω : Type} (w : World Outside ω) (state : ω) (env : Environment) (files : Files)

/-- What the program asks for in a world, with the answers that it gets. -/
def askedIn (call : Call) : List (Exchange Outside) :=
  exchanges (Plan.run w (deploy env files call).run state).1

/-- What comes of a call in a world. -/
def outcomeIn (call : Call) : Except Failure Unit :=
  (Plan.run w (deploy env files call).run state).2.1

/-- In every world, for every call that can be read: its checks have one outcome. If they fail, then
so does the call, for that reason, and it has asked for nothing but the time. If they pass, then the
deploy that they have found is made, and all of its calls, and all that is asked of the world
outside, is for the app that they have found. -/
theorem deploy_touches_only_its_app {texts : List String} {call : Call}
    (hread : read texts = .ok call) :
    ∃ r outcome, Gives texts r call ∧ Checked env files r outcome ∧
      (∀ other, Checked env files r other → other = outcome) ∧
      Conduct files call.mode outcome (askedIn w state env files call)
        (outcomeIn w state env files call) := by
  obtain ⟨r, hgives⟩ := gives_of_readFrom hread
  refine ⟨r, checks env files call, hgives, checked_checks hgives, ?_, ?_⟩
  · exact fun other hother => hother.eq hgives
  · exact conduct_of_runs (Plan.runs_run w (deploy env files call).run state)

end World

namespace Example

/-- A call that names an app. -/
def texts : List String :=
  ["deploy", "--app", "web"]

def environment : Environment :=
  .ofList [("HANGAR_ACCESS_TOKEN", "token")]

/-- A working directory with the config of another app. -/
def otherApp : Files :=
  .ofList [(["hangar.yml"], .file "app: api\n".toUTF8)] []

theorem exists_read : ∃ call, read texts = .ok call := by
  have hread : (read texts).toOption.isSome = true := by decide +kernel
  cases h : read texts with
  | error e =>
    rw [h] at hread
    cases hread
  | ok call => exact ⟨call, rfl⟩

example :
    (read texts).toOption.bind (fun call =>
        (checks environment otherApp call).toOption.map fun s =>
          (s.options.app.text, s.config.bind fun c => c.app.map AppName.text)) =
      some ("web", some "api") := by
  decide +kernel

end Example

theorem example_touches_only_its_app :
    ∃ call, read Example.texts = .ok call ∧
      ∃ r outcome, Gives Example.texts r call ∧
        Checked Example.environment Example.otherApp r outcome ∧
        (∀ other, Checked Example.environment Example.otherApp r other → other = outcome) ∧
        Conduct Example.otherApp call.mode outcome
          (askedIn Deploy.Example.failingWorld () Example.environment Example.otherApp call)
          (outcomeIn Deploy.Example.failingWorld () Example.environment Example.otherApp call) := by
  obtain ⟨call, hread⟩ := Example.exists_read
  exact ⟨call, hread, deploy_touches_only_its_app Deploy.Example.failingWorld ()
    Example.environment Example.otherApp hread⟩

end AppDeploy.CommandLine
