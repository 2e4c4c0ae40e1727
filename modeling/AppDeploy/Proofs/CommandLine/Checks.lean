import AppDeploy.CommandLine.Program
import AppDeploy.Proofs.AppName
import AppDeploy.Proofs.Deploy.ImageRequest

/-!
# The checks before a deploy

Before anything is asked for, a deploy needs a working directory, a config that can be read if there
is one, the name of an app, settings, a token that can be sent, and a daemon to build with.
`Checked` says what each of these is and in which order they count: the first one that is missing is
the failure. There is one outcome for every call (`exists_checked`, `Checked.eq`).
-/

namespace AppDeploy.CommandLine

open AppConfig (present_eq_none)
open Deploy (present_eq_some)

variable {texts given : List String} {r before : Reading} {call : Call} {env : Environment}
  {files : Files} {workingDir : String} {config : Option AppConfig} {settings : Settings}

/-! ## What a call comes from -/

/-- A call is what its texts say: they are read as switches, the word for the command, and the
arguments that it is given. -/
structure Gives (texts : List String) (r : Reading) (call : Call) : Prop where
  arguments : ∃ switches given, texts = switches ++ "deploy" :: given ∧
    ({} : Reading).takeAll deployArguments given = .ok r
  workingDirectory : call.workingDirectory = r.operand? ""
  config : call.config = r.operand? "config"
  app : call.app = present (r.operand? "app")
  options : call.options = deployOptions r

/-- The directory that a call is given, or else the current one. -/
def directory (r : Reading) : String :=
  (r.operand? "").getD "."

theorem Gives.directory_eq (h : Gives texts r call) :
    call.workingDirectory.getD "." = directory r := by
  rw [h.workingDirectory, directory]

theorem gives_of_readDeploy (h : readDeploy before given = .ok call) :
    ∃ r, Gives ("deploy" :: given) r call := by
  obtain ⟨r, hr, h⟩ := bind_eq_ok.1 h
  obtain ⟨_, -, h⟩ := bind_eq_ok.1 h
  obtain ⟨_, -, h⟩ := bind_eq_ok.1 h
  cases h
  exact ⟨r, ⟨[], given, rfl, hr⟩, rfl, rfl, rfl, rfl⟩

/-- A text before those that give a call is a switch. -/
theorem Gives.cons (h : Gives texts r call) (text : String) : Gives (text :: texts) r call := by
  obtain ⟨switches, given, rfl, hr⟩ := h.arguments
  exact { h with arguments := ⟨text :: switches, given, rfl, hr⟩ }

theorem gives_of_readFrom (h : readFrom before texts = .ok call) : ∃ r, Gives texts r call := by
  induction texts generalizing before with
  | nil =>
    obtain ⟨settled, -, h⟩ := bind_eq_ok.1 h
    split at h
    · cases h
    · cases h
  | cons text rest ih =>
    rw [readFrom] at h
    split at h
    · cases h
    · split at h
      · obtain ⟨next, -, h⟩ := bind_eq_ok.1 h
        obtain ⟨r, hgives⟩ := ih h
        exact ⟨r, hgives.cons text⟩
      · split at h
        · next htext =>
          obtain rfl : text = "deploy" := by simpa using htext
          exact gives_of_readDeploy h
        · split at h
          · cases h
          · cases h

/-! ## What is found out -/

/-- The file that has the config: the one that is given, seen from the working directory, or else
the first one in the working directory that can have it. There need not be one. -/
inductive ConfigFile (files : Files) (r : Reading) (workingDir : String) :
    Option String → Prop where
  | given {path : String} (h : r.operand? "config" = some path) :
      ConfigFile files r workingDir (some (FilePath.join workingDir path))
  | found {before after : List String} {path : String} (h : r.operand? "config" = none)
      (hplaces : AppConfig.candidates.map (FilePath.join workingDir) = before ++ path :: after)
      (hpath : files.isFile path = true) (hbefore : ∀ other ∈ before, files.isFile other = false) :
      ConfigFile files r workingDir (some path)
  | none (h : r.operand? "config" = none)
      (hnone : ∀ name ∈ AppConfig.candidates,
        files.isFile (FilePath.join workingDir name) = false) :
      ConfigFile files r workingDir none

/-- What comes of loading a config. -/
inductive ConfigFound (files : Files) (r : Reading) (workingDir : String) :
    Except ConfigError (Option AppConfig) → Prop where
  | none (h : ConfigFile files r workingDir none) : ConfigFound files r workingDir (.ok none)
  | loaded {path : String} {c : AppConfig} (h : ConfigFile files r workingDir (some path))
      (hload : AppConfig.load files path = .ok c) : ConfigFound files r workingDir (.ok (some c))
  | failed {path : String} {e : ConfigError} (h : ConfigFile files r workingDir (some path))
      (hload : AppConfig.load files path = .error e) : ConfigFound files r workingDir (.error e)

/-- No app is given: an empty name is none. -/
def GivesNoApp (r : Reading) : Prop :=
  r.operand? "app" = none ∨ r.operand? "app" = some ""

/-- The app to deploy: the one that is given, which has to be the name of an app, or else the one of
the config at hand. -/
inductive AppFound (r : Reading) (config : Option AppConfig) : Except Failure AppName → Prop where
  | given (app : AppName) (h : r.operand? "app" = some app.text) : AppFound r config (.ok app)
  | invalid {name : String} {e : AppName.Error} (h : r.operand? "app" = some name) (hne : name ≠ "")
      (he : AppName.charsError? name.toList = some e) : AppFound r config (.error (.appName e))
  | declared {c : AppConfig} {app : AppName} (h : GivesNoApp r) (hc : config = some c)
      (happ : c.app = some app) : AppFound r config (.ok app)
  | missing (h : GivesNoApp r) (hnone : ∀ c, config = some c → c.app = none) :
      AppFound r config (.error .missingAppName)

/-- A text can be sent in a header. -/
def FitsHeader (text : String) : Prop :=
  ∀ c ∈ text.toList, c = '\t' ∨ 32 ≤ c.toNat ∧ c.toNat ≠ 127

/-- The control plane that settings name. -/
def controlPlaneOf (s : Settings) : ControlPlane where
  address := s.apiUrl
  authorization := "Bearer " ++ s.accessToken
  pace := ⟨s.pollInterval, s.watchTimeout⟩

/-- The daemon to build with. There is none if both kinds are excluded, or if only a remote one may
be used and none is set; a build server keeps to its own if it may. -/
inductive DaemonFound (env : Environment) (r : Reading) : Except BuildError Daemon → Prop where
  | excluded (hlocal : r.has "local-only" = true) (hremote : r.has "remote-only" = true) :
      DaemonFound env r (.error (.noBuilder "both local and remote builders were disabled"))
  | unset (hlocal : r.has "local-only" = false) (hremote : r.has "remote-only" = true)
      (h : env.filled? "HANGAR_REMOTE_BUILDER" = none) :
      DaemonFound env r
        (.error (.noBuilder "remote builds requested but HANGAR_REMOTE_BUILDER is not set"))
  | remote {address : String} (hlocal : r.has "local-only" = false)
      (h : env.filled? "HANGAR_REMOTE_BUILDER" = some address)
      (hwanted : r.has "remote-only" = true ∨ env.isBuildServer = false) :
      DaemonFound env r (.ok (.remote address))
  | here (hremote : r.has "remote-only" = false)
      (h : r.has "local-only" = true ∨ env.filled? "HANGAR_REMOTE_BUILDER" = none ∨
        env.isBuildServer = true) : DaemonFound env r (.ok .here)

/-! ## The checks in order -/

/-- All that a deploy starts from, with the daemon that it builds with. -/
structure Start extends Preparation where
  daemon : Daemon

/-- The working directory, the config at hand and the app of a call. -/
structure Target (files : Files) (r : Reading) (workingDir : String) (config : Option AppConfig)
    (app : AppName) : Prop where
  place : ∃ place, files.locate (directory r) = .ok place ∧ workingDir = FilePath.textOf place
  file : ConfigFound files r workingDir (.ok config)
  name : AppFound r config (.ok app)

/-- The outcome of the checks of a call: the first one that fails is the failure, and a deploy
starts if none does. -/
inductive Checked (env : Environment) (files : Files) (r : Reading) :
    Except Failure Start → Prop where
  | lost {e : Files.Error} (h : files.locate (directory r) = .error e) :
      Checked env files r (.error (.workingDir (directory r)))
  | misconfigured {place : List String} {e : ConfigError}
      (hplace : files.locate (directory r) = .ok place)
      (h : ConfigFound files r (FilePath.textOf place) (.error e)) :
      Checked env files r (.error (.config e))
  | nameless {place : List String} {config : Option AppConfig} {e : Failure}
      (hplace : files.locate (directory r) = .ok place)
      (hconfig : ConfigFound files r (FilePath.textOf place) (.ok config))
      (h : AppFound r config (.error e)) : Checked env files r (.error e)
  | unset {workingDir : String} {config : Option AppConfig} {app : AppName} {e : Settings.Error}
      (htarget : Target files r workingDir config app) (h : Settings.ofEnvironment env = .error e) :
      Checked env files r (.error (.settings e))
  | unsendable {workingDir : String} {config : Option AppConfig} {app : AppName}
      {settings : Settings} (htarget : Target files r workingDir config app)
      (hsettings : Settings.ofEnvironment env = .ok settings)
      (h : ¬FitsHeader settings.accessToken) :
      Checked env files r (.error (.client (.other "access token contains invalid characters")))
  | unbuildable {workingDir : String} {config : Option AppConfig} {app : AppName}
      {settings : Settings} {e : BuildError} (htarget : Target files r workingDir config app)
      (hsettings : Settings.ofEnvironment env = .ok settings)
      (htoken : FitsHeader settings.accessToken) (h : DaemonFound env r (.error e)) :
      Checked env files r (.error (.builder e))
  | passed {workingDir : String} {config : Option AppConfig} {app : AppName}
      {settings : Settings} {daemon : Daemon} (htarget : Target files r workingDir config app)
      (hsettings : Settings.ofEnvironment env = .ok settings)
      (htoken : FitsHeader settings.accessToken) (h : DaemonFound env r (.ok daemon)) :
      Checked env files r (.ok {
        options := deployOptions r app workingDir
        config
        settings
        controlPlane := controlPlaneOf settings
        daemon })

/-- The checks that are made of a call. -/
def checks (env : Environment) (files : Files) (call : Call) : Except Failure Start := do
  let p ← prepare env files call
  let choice := DaemonChoice.ofFlags p.options.build env.isBuildServer
  let daemon ← (choice.select p.settings.remoteBuilder).mapError .builder
  return { p with daemon }

/-! ## What each check comes to -/

/-- The file that has the config, if there is one. -/
def configFile? (files : Files) (r : Reading) (workingDir : String) : Option String :=
  match r.operand? "config" with
  | some path => some (FilePath.join workingDir path)
  | none => (AppConfig.candidates.map (FilePath.join workingDir)).find? files.isFile

theorem configFile_configFile? :
    ConfigFile files r workingDir (configFile? files r workingDir) := by
  rw [configFile?]
  cases h : r.operand? "config" with
  | some path => exact .given h
  | none =>
    cases hfind : (AppConfig.candidates.map (FilePath.join workingDir)).find? files.isFile with
    | none =>
      refine .none h fun name hname => ?_
      exact Bool.eq_false_iff.2 (List.find?_eq_none.1 hfind _ (List.mem_map_of_mem hname))
    | some path =>
      obtain ⟨hpath, before, after, hplaces, hbefore⟩ := List.find?_eq_some_iff_append.1 hfind
      exact .found h hplaces hpath fun other hother => by simpa using hbefore other hother

theorem ConfigFile.eq {file : Option String} (h : ConfigFile files r workingDir file) :
    file = configFile? files r workingDir := by
  rw [configFile?]
  cases h with
  | given h => rw [h]
  | found h hplaces hpath hbefore =>
    rw [h, hplaces]
    exact (List.find?_eq_some_iff_append.2
      ⟨hpath, _, _, rfl, fun other hother => by simp [hbefore other hother]⟩).symm
  | none h hnone =>
    rw [h]
    refine (List.find?_eq_none.2 fun path hpath => ?_).symm
    obtain ⟨name, hname, rfl⟩ := List.mem_map.1 hpath
    simp [hnone name hname]

theorem exists_configFound (files : Files) (r : Reading) (workingDir : String) :
    ∃ found, ConfigFound files r workingDir found := by
  have hfile : ConfigFile files r workingDir (configFile? files r workingDir) :=
    configFile_configFile?
  cases hplace : configFile? files r workingDir with
  | none => exact ⟨_, .none (hplace ▸ hfile)⟩
  | some path =>
    cases hload : AppConfig.load files path with
    | error e => exact ⟨_, .failed (hplace ▸ hfile) hload⟩
    | ok c => exact ⟨_, .loaded (hplace ▸ hfile) hload⟩

theorem localConfig_eq (h : Gives texts r call) :
    localConfig files call workingDir =
      match configFile? files r workingDir with
      | some path => (AppConfig.load files path).map some
      | none => .ok none := by
  rw [localConfig, configFile?, h.config]
  cases r.operand? "config" <;> rfl

theorem ConfigFound.eq {found : Except ConfigError (Option AppConfig)}
    (h : ConfigFound files r workingDir found) (hgives : Gives texts r call) :
    found = localConfig files call workingDir := by
  rw [localConfig_eq hgives]
  cases h with
  | none h => rw [← h.eq]
  | loaded h hload =>
    rw [← h.eq]
    simp only [hload]
    rfl
  | failed h hload =>
    rw [← h.eq]
    simp only [hload]
    rfl

theorem exists_appFound (r : Reading) (config : Option AppConfig) :
    ∃ found, AppFound r config found := by
  by_cases hnone : GivesNoApp r
  · cases happ : config.bind (·.app) with
    | none =>
      refine ⟨_, .missing hnone fun c hc => ?_⟩
      simpa [hc] using happ
    | some app =>
      obtain ⟨c, hc, happ⟩ := Option.bind_eq_some_iff.1 happ
      exact ⟨_, .declared hnone hc happ⟩
  · obtain ⟨hne, hnonempty⟩ := not_or.1 hnone
    obtain ⟨name, hname⟩ := Option.ne_none_iff_exists'.1 hne
    rw [hname, Option.some.injEq] at hnonempty
    cases hsound : AppName.charsError? name.toList with
    | none => exact ⟨_, .given ⟨name, hsound⟩ hname⟩
    | some e => exact ⟨_, .invalid hname hnonempty hsound⟩

theorem AppFound.eq {found : Except Failure AppName} (h : AppFound r config found)
    (hgives : Gives texts r call) : found = chooseApp call config := by
  rw [chooseApp, hgives.app]
  cases h with
  | given app h =>
    simp only [present_eq_some.2 ⟨h, app.text_ne_empty⟩, AppName.ofText_eq_ok.2 rfl]
    rfl
  | invalid h hne he =>
    simp only [present_eq_some.2 ⟨h, hne⟩, AppName.ofText_eq_error.2 he]
    rfl
  | declared h hc happ =>
    rw [present_eq_none.2 h]
    simp [hc, happ]
  | missing h hnone =>
    rw [present_eq_none.2 h]
    cases config with
    | none => rfl
    | some c => simp [hnone c rfl]

theorem ofSettings_of_fitsHeader (h : FitsHeader settings.accessToken) :
    ControlPlane.ofSettings settings = .ok (controlPlaneOf settings) := by
  rw [ControlPlane.ofSettings, if_pos]
  · rfl
  · simpa [ControlPlane.isHeaderChar, FitsHeader] using h

theorem ofSettings_of_not_fitsHeader (h : ¬FitsHeader settings.accessToken) :
    ControlPlane.ofSettings settings =
      .error (.other "access token contains invalid characters") := by
  rw [ControlPlane.ofSettings, if_neg]
  simpa [ControlPlane.isHeaderChar, FitsHeader] using h

theorem remoteBuilder_of_ofEnvironment (h : Settings.ofEnvironment env = .ok settings) :
    settings.remoteBuilder = env.filled? "HANGAR_REMOTE_BUILDER" := by
  rw [Settings.ofEnvironment] at h
  cases htoken : env.filled? "HANGAR_ACCESS_TOKEN" with
  | none =>
    simp only [htoken] at h
    cases h
  | some accessToken =>
    simp only [htoken] at h
    obtain ⟨pollInterval, -, h⟩ := bind_eq_ok.1 h
    obtain ⟨watchTimeout, -, h⟩ := bind_eq_ok.1 h
    cases h
    rfl

theorem DaemonFound.eq {found : Except BuildError Daemon} (h : DaemonFound env r found) :
    found = (DaemonChoice.ofFlags (buildFlags r) env.isBuildServer).select
      (env.filled? "HANGAR_REMOTE_BUILDER") := by
  rw [DaemonChoice.select]
  cases h with
  | excluded hlocal hremote =>
    simp [DaemonChoice.isNone, DaemonChoice.ofFlags, buildFlags, hlocal, hremote]
  | unset hlocal hremote h =>
    simp [DaemonChoice.isNone, DaemonChoice.ofFlags, buildFlags, hlocal, hremote, h]
  | remote hlocal h hwanted =>
    rcases hwanted with hwanted | hwanted <;>
      simp [DaemonChoice.isNone, DaemonChoice.ofFlags, buildFlags, hlocal, h, hwanted,
        Option.filter]
  | here hremote h =>
    rcases h with h | h | h <;>
      simp [DaemonChoice.isNone, DaemonChoice.ofFlags, buildFlags, hremote, h]

theorem exists_daemonFound (env : Environment) (r : Reading) :
    ∃ found, DaemonFound env r found := by
  cases hlocal : r.has "local-only" with
  | true =>
    cases hremote : r.has "remote-only" with
    | true => exact ⟨_, .excluded hlocal hremote⟩
    | false => exact ⟨_, .here hremote (.inl hlocal)⟩
  | false =>
    cases hremote : r.has "remote-only" with
    | true =>
      cases haddress : env.filled? "HANGAR_REMOTE_BUILDER" with
      | none => exact ⟨_, .unset hlocal hremote haddress⟩
      | some address => exact ⟨_, .remote hlocal haddress (.inl hremote)⟩
    | false =>
      cases haddress : env.filled? "HANGAR_REMOTE_BUILDER" with
      | none => exact ⟨_, .here hremote (.inr (.inl haddress))⟩
      | some address =>
        cases hserver : env.isBuildServer with
        | true => exact ⟨_, .here hremote (.inr (.inr hserver))⟩
        | false => exact ⟨_, .remote hlocal haddress (.inr hserver)⟩

/-! ## All of them -/

theorem exists_checked (env : Environment) (files : Files) (r : Reading) :
    ∃ outcome, Checked env files r outcome := by
  cases hplace : files.locate (directory r) with
  | error e => exact ⟨_, .lost hplace⟩
  | ok place =>
    obtain ⟨found, hfound⟩ := exists_configFound files r (FilePath.textOf place)
    cases found with
    | error e => exact ⟨_, .misconfigured hplace hfound⟩
    | ok config =>
      obtain ⟨name, hname⟩ := exists_appFound r config
      cases name with
      | error e => exact ⟨_, .nameless hplace hfound hname⟩
      | ok app =>
        have htarget : Target files r (FilePath.textOf place) config app :=
          ⟨⟨place, hplace, rfl⟩, hfound, hname⟩
        cases hsettings : Settings.ofEnvironment env with
        | error e => exact ⟨_, .unset htarget hsettings⟩
        | ok settings =>
          by_cases htoken : FitsHeader settings.accessToken
          · obtain ⟨daemon, hdaemon⟩ := exists_daemonFound env r
            cases daemon with
            | error e => exact ⟨_, .unbuildable htarget hsettings htoken hdaemon⟩
            | ok daemon => exact ⟨_, .passed htarget hsettings htoken hdaemon⟩
          · exact ⟨_, .unsendable htarget hsettings htoken⟩

/-- Once the target of a call is known, only the settings count. -/
theorem prepare_of_target {app : AppName} (hgives : Gives texts r call)
    (h : Target files r workingDir config app) : prepare env files call = do
      let settings ← (Settings.ofEnvironment env).mapError .settings
      let controlPlane ← (ControlPlane.ofSettings settings).mapError .client
      return { options := deployOptions r app workingDir, config, settings, controlPlane } := by
  obtain ⟨⟨place, hplace, rfl⟩, hfile, hname⟩ := h
  simp only [prepare, hgives.directory_eq, Files.canonical?, hplace, ← hfile.eq hgives,
    Except.mapError, bind, Except.bind, ← hname.eq hgives, hgives.options]

/-- The checks that are made come to the one outcome that there is. -/
theorem Checked.eq {outcome : Except Failure Start} (h : Checked env files r outcome)
    (hgives : Gives texts r call) : outcome = checks env files call := by
  rw [checks]
  cases h with
  | lost h =>
    simp only [prepare, hgives.directory_eq, Files.canonical?, h]
    rfl
  | misconfigured hplace h =>
    simp only [prepare, hgives.directory_eq, Files.canonical?, hplace, ← h.eq hgives]
    rfl
  | nameless hplace hconfig h =>
    simp only [prepare, hgives.directory_eq, Files.canonical?, hplace, ← hconfig.eq hgives,
      Except.mapError, bind, Except.bind, ← h.eq hgives]
  | unset htarget h =>
    rw [prepare_of_target hgives htarget, h]
    rfl
  | unsendable htarget hsettings h =>
    simp only [prepare_of_target hgives htarget, hsettings, Except.mapError, bind, Except.bind,
      ofSettings_of_not_fitsHeader h]
  | unbuildable htarget hsettings htoken h =>
    simp only [prepare_of_target hgives htarget, hsettings, Except.mapError, bind, Except.bind,
      ofSettings_of_fitsHeader htoken, pure, Except.pure, deployOptions,
      remoteBuilder_of_ofEnvironment hsettings, ← h.eq]
  | passed htarget hsettings htoken h =>
    simp only [prepare_of_target hgives htarget, hsettings, Except.mapError, bind, Except.bind,
      ofSettings_of_fitsHeader htoken, pure, Except.pure, deployOptions,
      remoteBuilder_of_ofEnvironment hsettings, ← h.eq]

theorem checked_checks (h : Gives texts r call) : Checked env files r (checks env files call) := by
  obtain ⟨outcome, hchecked⟩ := exists_checked env files r
  rwa [hchecked.eq h] at hchecked

end AppDeploy.CommandLine
