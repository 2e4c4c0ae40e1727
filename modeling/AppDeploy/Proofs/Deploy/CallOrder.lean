import AppDeploy.Proofs.Deploy.Findings
import Mathlib.Data.List.Nodup

/-!
# The order of the calls of a deploy

Whatever a deploy is told and however its calls are answered, its calls are a prefix of one
word: the config unless it is given, the app, the default platform of its organization, one
image, and one backend. A backend is called once at most, for an image that is not only to be
built, and when everything has been found out and found fit before (`InOrder`).
-/

namespace AppDeploy.Deploy

variable {files : Files} {o : DeployOptions} {c config : AppConfig} {app : AppSummary}
  {platform : Platform} {image : DeploymentImage} {localConfig : Option AppConfig}
  {calls before after : List (Exchange Deploy)}

/-! ## Words -/

/-- The calls that get the config: none when it is given. -/
inductive ConfigWord (app : AppName) : Option AppConfig → List Request → Prop where
  | kept (base : AppConfig) : ConfigWord app (some base) []
  | fetched : ConfigWord app none [.openConfig app, .fetchConfig app]

/-- The calls that get an image. -/
inductive ImageWord : List Request → Prop where
  | named (r : ReferenceRequest) : ImageWord [.findImage r]
  | built (r : BuildRequest) : ImageWord [.startHeartbeat, .buildImage r, .releaseHeartbeat]

/-- The calls that wait for the command of a release. -/
inductive CommandWord (app : AppName) : List Request → Prop where
  | none : CommandWord app []
  | awaited (command : ReleaseCommandId) (id : ReleaseId) :
      CommandWord app [.watchReleaseCommand app command, .release app id]

/-- The calls that wait for a release. -/
inductive WatchWord (app : AppName) : List Request → Prop where
  | none : WatchWord app []
  | watched (id : EvaluationId) : WatchWord app [.watchDeployment app id]

/-- The calls to a backend. -/
inductive BackendWord (app : AppName) : List Request → Prop where
  | machines (r : NewRollout) : BackendWord app [.runRollout r]
  | releases (r : NewRelease) {command watch : List Request} (hcommand : CommandWord app command)
      (hwatch : WatchWord app watch) : BackendWord app (.createRelease r :: (command ++ watch))

/-- The calls of a deploy that is carried through. -/
inductive Word (app : AppName) (localConfig : Option AppConfig) : List Request → Prop where
  | intro {config image backend : List Request} (organization : String)
      (hconfig : ConfigWord app localConfig config) (himage : ImageWord image)
      (hbackend : BackendWord app backend) :
      Word app localConfig
        (config ++ ([.summary app, .machinesDefault organization] ++ (image ++ backend)))

/-- Some calls are the beginning of a word, and all of it when they come to something. -/
def Spells {ε α : Type} (IsWord : List Request → Prop) (calls : List (Exchange Deploy))
    (result : Except ε α) : Prop :=
  ∃ word, IsWord word ∧ calls.map Exchange.request <+: word ∧
    ∀ a, result = .ok a → calls.map Exchange.request = word

section Spelling

variable {ε α : Type} {IsWord : List Request → Prop} {result : Except ε α}

theorem spells_of_word (h : IsWord (calls.map Exchange.request)) : Spells IsWord calls result :=
  ⟨_, h, List.prefix_rfl, fun _ _ => rfl⟩

theorem spells_of_error {word : List Request} {e : ε} (h : IsWord word)
    (hbegin : calls.map Exchange.request <+: word) :
    Spells IsWord calls (.error e : Except ε α) := by
  refine ⟨word, h, hbegin, ?_⟩
  intro a ha
  cases ha

theorem word_of_spells {a : α} (h : Spells IsWord calls (.ok a : Except ε α)) :
    IsWord (calls.map Exchange.request) := by
  obtain ⟨word, hword, -, hall⟩ := h
  rw [hall a rfl]
  exact hword

end Spelling

/-! ## The words of the stages -/

theorem spells_of_started {base : Except ConfigError AppConfig}
    (h : Started o.app localConfig calls base) :
    Spells (ConfigWord o.app localConfig) calls base := by
  cases h with
  | kept base => exact spells_of_word (.kept base)
  | unopened e => exact spells_of_error .fetched ⟨[.fetchConfig o.app], rfl⟩
  | fetched answer => exact spells_of_word .fetched

theorem spells_of_obtained {found : Except BuildError DeploymentImage}
    (h : Obtained files o c calls found) : Spells ImageWord calls found := by
  cases h with
  | named _ answer => exact spells_of_word (.named _)
  | unassembled => exact spells_of_error (.named (referenceRequest o "")) List.nil_prefix
  | built _ _ answer => exact spells_of_word (.built _)

theorem spells_of_commandAwaited {created : CreatedRelease} {result : Except DeployError Release}
    (h : CommandAwaited o.app created calls result) : Spells (CommandWord o.app) calls result := by
  cases h with
  | none => exact spells_of_word .none
  | failed _ e =>
    exact spells_of_error (.awaited _ created.release.id)
      ⟨[.release o.app created.release.id], rfl⟩
  | refreshed _ answer => exact spells_of_word (.awaited _ _)

theorem word_of_releaseAwaited {release : Release} {result : Except DeployError Unit}
    (h : ReleaseAwaited o.app release calls result) :
    WatchWord o.app (calls.map Exchange.request) := by
  cases h with
  | immediate => exact .none
  | watched _ answer => exact .watched _

theorem spells_of_released {result : Except DeployError Unit}
    (h : Released o c image calls result) : Spells (BackendWord o.app) calls result := by
  cases h with
  | refused e => exact spells_of_word (.releases _ .none .none)
  | detached _ created => exact spells_of_word (.releases _ .none .none)
  | stranded _ hcommand =>
    obtain ⟨command, hword, hbegin, -⟩ := spells_of_commandAwaited hcommand
    refine spells_of_error (.releases (newRelease o c image) hword .none) ?_
    rw [List.append_nil]
    exact (List.prefix_cons_inj _).2 hbegin
  | followed _ hcommand hwatch =>
    have hword := BackendWord.releases (newRelease o c image)
      (word_of_spells (spells_of_commandAwaited hcommand)) (word_of_releaseAwaited hwatch)
    rw [← List.map_append] at hword
    exact spells_of_word hword

theorem spells_of_dispatched {result : Except DeployError Unit}
    (h : Dispatched o c app image platform calls result) :
    Spells (BackendWord o.app) calls result := by
  have hword : BackendWord o.app [.createRelease (newRelease o c image)] :=
    .releases _ .none .none
  cases h with
  | machines h =>
    cases h with
    | unfit => exact spells_of_error hword List.nil_prefix
    | unread => exact spells_of_error hword List.nil_prefix
    | run _ _ answer => exact spells_of_word (.machines _)
  | releases h => exact spells_of_released h

theorem requests_of_resolved (h : Resolved o localConfig calls config app platform) :
    ∃ start, ConfigWord o.app localConfig start ∧ calls.map Exchange.request =
      start ++ [.summary o.app, .machinesDefault app.organization.slug] := by
  obtain ⟨start, base, answer, hstart, -, rfl, -⟩ := h
  refine ⟨_, word_of_spells (spells_of_started hstart), ?_⟩
  rw [List.map_append]
  rfl

/-- What follows the choice of a platform spells an image and a backend, or begins to. -/
theorem begins_of_delivered {result : Except DeployError Report}
    (h : Delivered files o c app platform calls result) :
    ∃ image backend, ImageWord image ∧ BackendWord o.app backend ∧
      calls.map Exchange.request <+: image ++ backend := by
  -- Calls that stop early begin a word all the same; any backend completes it.
  have hlast : BackendWord o.app [.createRelease ⟨o.app, "", none, none⟩] :=
    .releases _ .none .none
  cases h with
  | unfit => exact ⟨_, _, .named (referenceRequest o ""), hlast, List.nil_prefix⟩
  | imageless _ himage =>
    obtain ⟨word, hword, hbegin, -⟩ := spells_of_obtained himage
    exact ⟨word, _, hword, hlast, hbegin.trans (List.prefix_append ..)⟩
  | built _ himage =>
    have hword := word_of_spells (spells_of_obtained himage)
    exact ⟨_, _, hword, hlast, List.prefix_append ..⟩
  | dispatched _ himage _ hdispatch =>
    obtain ⟨backend, hbackend, hbegin, -⟩ := spells_of_dispatched hdispatch
    refine ⟨_, backend, word_of_spells (spells_of_obtained himage), hbackend, ?_⟩
    rw [List.map_append]
    exact (List.prefix_append_right_inj _).2 hbegin

/-- The calls of a deploy are the beginning of a word. -/
theorem word_of_course {result : Except DeployError Report}
    (h : Course files o localConfig calls result) :
    ∃ word, Word o.app localConfig word ∧ calls.map Exchange.request <+: word := by
  have himage : ImageWord [.findImage (referenceRequest o "")] := .named _
  have hlast : BackendWord o.app [.createRelease ⟨o.app, "", none, none⟩] :=
    .releases _ .none .none
  cases h with
  | unresolved hstart =>
    obtain ⟨start, hword, hbegin, -⟩ := spells_of_started hstart
    exact ⟨_, .intro "" hword himage hlast, hbegin.trans (List.prefix_append ..)⟩
  | unknown hstart _ e =>
    refine ⟨_, .intro "" (word_of_spells (spells_of_started hstart)) himage hlast, ?_⟩
    rw [List.map_append]
    exact (List.prefix_append_right_inj _).2 ((List.prefix_cons_inj _).2 List.nil_prefix)
  | @delivered _ _ _ app _ _ hresolved hdelivered =>
    obtain ⟨start, hstart, hbefore⟩ := requests_of_resolved hresolved
    obtain ⟨image, backend, himage, hbackend, hbegin⟩ := begins_of_delivered hdelivered
    refine ⟨_, .intro app.organization.slug hstart himage hbackend, ?_⟩
    rw [List.map_append, hbefore, List.append_assoc]
    exact (List.prefix_append_right_inj _).2 ((List.prefix_append_right_inj _).2 hbegin)

/-! ## Nothing is asked twice -/

theorem nodup_of_word {word : List Request} (h : Word o.app localConfig word) : word.Nodup := by
  cases h with
  | intro organization hconfig himage hbackend =>
    -- The requests of a word are made by different constructors.
    cases hbackend with
    | machines r => cases hconfig <;> cases himage <;> simp
    | releases r hcommand hwatch =>
      cases hcommand <;> cases hwatch <;> cases hconfig <;> cases himage <;> simp

/-- A request has one answer in a deploy. -/
theorem answer_unique {result : Except DeployError Report}
    (h : Course files o localConfig calls result) {q : Request} {a b : Answer q}
    (ha : ⟨q, a⟩ ∈ calls) (hb : ⟨q, b⟩ ∈ calls) : a = b := by
  obtain ⟨word, hword, hbegin⟩ := word_of_course h
  have hnodup := (nodup_of_word hword).sublist hbegin.sublist
  have heq := List.inj_on_of_nodup_map hnodup ha hb rfl
  cases heq
  rfl

/-! ## Backends -/

/-- Whether a call hands an image to a platform. -/
def Request.handsOver (q : Request) : Bool :=
  q.backend?.isSome

theorem handsOver_of_backendWord {word : List Request} (h : BackendWord o.app word) :
    word.countP Request.handsOver = 1 := by
  cases h with
  | machines r => rfl
  | releases r hcommand hwatch => cases hcommand <;> cases hwatch <;> rfl

theorem handsOver_of_word {word : List Request} (h : Word o.app localConfig word) :
    word.countP Request.handsOver = 1 := by
  cases h with
  | intro organization hconfig himage hbackend =>
    rw [List.countP_append, List.countP_append, List.countP_append,
      handsOver_of_backendWord hbackend]
    cases hconfig <;> cases himage <;> rfl

/-! ## The order -/

/-- What is safe about the calls of a deploy. -/
structure InOrder (files : Files) (o : DeployOptions) (localConfig : Option AppConfig)
    (calls : List (Exchange Deploy)) : Prop where
  /-- They are the beginning of a word. -/
  word : ∃ word, Word o.app localConfig word ∧ calls.map Exchange.request <+: word
  /-- One of them at most hands an image to a platform. -/
  once : (calls.map Exchange.request).countP Request.handsOver ≤ 1
  /-- That one comes only if the image is to be deployed, after everything else has been found
  out and found fit, and goes to the platform that was chosen. -/
  prepared : ∀ before x after backend, calls = before ++ x :: after →
    x.request.backend? = some backend →
    o.buildOnly = false ∧
      ∃ config app image, Prepared files o localConfig before config app backend image

/-- In every world the calls of a deploy are in order. -/
theorem calls_inOrder {ω : Type} (w : World Deploy ω) (state : ω) (console : Console)
    (files : Files) (o : DeployOptions) (localConfig : Option AppConfig) :
    InOrder files o localConfig (callsIn w state console files o localConfig) := by
  have hcourse := course_of_run w state console files o localConfig
  generalize callsIn w state console files o localConfig = calls at hcourse
  obtain ⟨word, hword, hbegin⟩ := word_of_course hcourse
  refine ⟨⟨word, hword, hbegin⟩, ?_, ?_⟩
  · rw [← handsOver_of_word hword]
    exact hbegin.sublist.countP_le
  · intro before x after backend hcalls hbackend
    subst hcalls
    obtain ⟨hbuild, config, app, image, -, -, hprepared, -⟩ := handover_of_course hcourse hbackend
    exact ⟨hbuild, config, app, image, hprepared⟩

end AppDeploy.Deploy
