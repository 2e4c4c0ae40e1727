import AppDeploy.Proofs.Deploy.Bounds
import AppDeploy.Proofs.Deploy.ImageRequest
import AppDeploy.Proofs.Deploy.Parts

/-!
# The app of a deploy

A deploy is for the one app of its options, whatever app a config names that it finds: each of its
calls names that app wherever it names one (`Deploy.run_isFor`), and what carries the calls out asks
the world outside for nothing of another app (`Deploy.carry_isFor`). That goes for the paths of
requests, for what is ordered with them, and for the tags of images.
-/

namespace AppDeploy

/-! ## What is for an app -/

/-- A release names its app, and the definition that goes with it names none. -/
structure NewRelease.IsFor (r : NewRelease) (app : AppName) : Prop where
  name : r.app = app
  definition : ∀ d, r.definition = some d → d.field? "app" = none

/-- A rollout names its app, and so does the config that goes with it. -/
structure NewRollout.IsFor (r : NewRollout) (app : AppName) : Prop where
  name : r.app = app
  config : r.config.app = some app

/-- A call of a deploy is for an app, or for none. -/
def Deploy.Request.IsFor (app : AppName) : Deploy.Request → Prop
  | .openConfig a | .fetchConfig a | .summary a => a = app
  | .machinesDefault _ | .startHeartbeat | .releaseHeartbeat => True
  | .findImage r => r.app = app
  | .buildImage r => r.app = app
  | .createRelease r => r.IsFor app
  | .release a _ | .watchReleaseCommand a _ | .watchDeployment a _ => a = app
  | .runRollout r => r.IsFor app

/-- A resource belongs to an app, or to an organization. -/
def Resource.IsFor (app : AppName) : Resource → Prop
  | .organization _ => True
  | .app a | .config a | .releases a | .rollouts a => a = app
  | .release a _ | .releaseCommand a _ | .evaluation a _ | .rollout a _ => a = app

/-- What is ordered with a request to a resource names an app, and no other. -/
inductive Orders (app : AppName) : Resource → Json → Prop where
  | release {body : Json} (happ : body.field? "app_id" = some (.str app.text))
      (hdefinition : ∀ d, body.field? "definition" = some d → d.field? "app" = none) :
      Orders app (.releases app) body
  | rollout {body config : Json} (happ : body.field? "app" = some (.str app.text))
      (hconfig : body.field? "config" = some config)
      (hname : config.field? "app" = some (.str app.text)) : Orders app (.rollouts app) body

/-- A command builds, tags or pushes an image under a tag of an app in the registry, and an image
that it builds is one of that app. -/
inductive Command.IsFor (registry : String) (app : AppName) : Command → Prop where
  | docker {r : BuildRequest} (h : r.app = app) (label dockerfile : String) :
      IsFor registry app (.dockerBuild r (ImageTag.text registry app label) dockerfile)
  | pack {r : BuildRequest} (h : r.app = app) (label builder : String) :
      IsFor registry app (.packBuild r (ImageTag.text registry app label) builder)
  | nixpacks {r : BuildRequest} (h : r.app = app) (label : String) :
      IsFor registry app (.nixpacksBuild r (ImageTag.text registry app label))
  | tag (reference label : String) :
      IsFor registry app (.tagImage reference (ImageTag.text registry app label))
  | push (label : String) : IsFor registry app (.push (ImageTag.text registry app label))

/-- What is asked of the world outside is for an app, or for none. Images are looked up by a tag of
the app, or by a reference that was sought. -/
inductive Outside.Request.IsFor (c : ControlPlane) (b : ImageBuilder) (app : AppName)
    (sought : String → Prop) : Outside.Request → Prop where
  | now : IsFor c b app sought .now
  | wait (span : Span) : IsFor c b app sought (.wait span)
  | findDaemon : IsFor c b app sought .findDaemon
  | get {resource : Resource} {url : Url} (h : resource.IsFor app)
      (hurl : c.url resource.path = .ok url) :
      IsFor c b app sought (.send {
        method := .get
        url
        authorization := c.authorization
        userAgent := ControlPlane.userAgent })
  | post {resource : Resource} {url : Url} {body : Json} (h : Orders app resource body)
      (hurl : c.url resource.path = .ok url) :
      IsFor c b app sought (.send {
        method := .post
        url
        body := some body
        authorization := c.authorization
        userAgent := ControlPlane.userAgent })
  | inspectTag (label : String) :
      IsFor c b app sought (.inspect b.daemon (ImageTag.text b.registry app label))
  | inspect {reference : String} (h : sought reference) :
      IsFor c b app sought (.inspect b.daemon reference)
  | pull {reference : String} (h : sought reference) :
      IsFor c b app sought (.pull b.daemon reference)
  | run {command : Command} (h : command.IsFor b.registry app) :
      IsFor c b app sought (.run command b.daemon)

/-! ## Orders -/

theorem Json.field?_object (fields : List (String × Json)) (name : String) :
    (object fields).field? name = fields.reverse.lookup name :=
  Table.get?_ofList fields name

theorem Json.lookup_optional (key name : String) (value : Option Json) :
    (optional key value).reverse.lookup name = if name = key then value else none := by
  cases value with
  | none => simp [optional]
  | some value => simp [optional, Table.lookup_cons, eq_comm]

theorem orders_of_release {r : NewRelease} {app : AppName} (h : r.IsFor app) :
    Orders app (.releases app) r.toJson := by
  refine .release ?_ fun d hd => h.definition d ?_
  · rw [NewRelease.toJson, Json.field?_object, ← h.name]
    simp [textField, Json.lookup_optional, Table.lookup_append, Table.lookup_cons]
  · rw [NewRelease.toJson, Json.field?_object] at hd
    simpa [textField, Json.lookup_optional, Table.lookup_append, Table.lookup_cons] using hd

theorem AppConfig.field?_app {c : AppConfig} {app : AppName} (h : c.app = some app) :
    c.toJson.field? "app" = some (.str app.text) := by
  have hsent : c.definitionFields.reverse.lookup "app" = none := by
    refine Table.lookup_reverse_eq_none fun field hfield hname => ?_
    have hmem := name_of_mem_definitionFields hfield
    simp [hname, definitionNames] at hmem
  rw [toJson, Json.field?_object, h, List.reverse_append, List.reverse_append,
    Table.lookup_append, Table.lookup_append, hsent, textField, Json.lookup_optional,
    Json.lookup_optional]
  rfl

theorem orders_of_rollout {r : NewRollout} {app : AppName} (h : r.IsFor app) :
    Orders app (.rollouts app) r.toJson := by
  refine .rollout ?_ ?_ (AppConfig.field?_app h.config)
  · rw [NewRollout.toJson, Json.field?_object, ← h.name]
    simp [textField, Json.lookup_optional, Table.lookup_append, Table.lookup_cons]
  · rw [NewRollout.toJson, Json.field?_object]
    simp

/-! ## The calls of a deploy -/

namespace Deploy

variable {console : Console} {files : Files} {o : DeployOptions} {c : AppConfig}
  {app : AppSummary} {image : DeploymentImage} {platform : Platform}
  {localConfig : Option AppConfig}

theorem app_of_resolveConfig {trace : List (Exchange Deploy)}
    (h : Task.Runs (resolveConfig console o localConfig) trace (.ok c)) : c.app = some o.app := by
  obtain ⟨base, -, hsettle⟩ := runs_resolveConfig.1 h
  cases base with
  | error e => cases hsettle
  | ok base =>
    obtain ⟨vars, -, rfl⟩ := AppConfig.withOptions_eq_ok.1 (settle_eq_ok.1 hsettle.symm).1
    rfl

theorem newRelease_isFor : (newRelease o c image).IsFor o.app where
  name := rfl
  definition d hd := by
    obtain ⟨fields, -, hdefinition⟩ := c.definition_eq
    obtain rfl := Option.some.inj hd
    rw [hdefinition]
    show ((fields.erase "app").erase "build").get? "app" = none
    simp

theorem newRollout_isFor {r : NewRollout} (hc : c.app = some o.app)
    (h : newRollout o c app image = .ok r) : r.IsFor o.app := by
  obtain ⟨env, -, rfl⟩ := newRollout_eq_ok.1 h
  exact ⟨rfl, hc⟩

theorem resolveConfig_isFor :
    (resolveConfig console o localConfig).Within (Request.IsFor o.app) := by
  refine Task.within_bind (Task.within_notes _) fun _ => ?_
  refine Task.within_bind ?_ fun base => ?_
  · cases localConfig with
    | some base => exact Task.within_pure base
    | none =>
      refine Task.within_bind (Task.within_attempt _ (Plan.within_request rfl)) fun _ => ?_
      exact Task.within_attempt _ (Plan.within_request rfl)
  · refine Task.within_bind (Task.within_fromExcept _ _) fun config => ?_
    refine Task.within_bind (Task.within_notes _) fun _ => ?_
    refine Task.within_bind (Task.within_fromExcept _ _) fun _ => ?_
    exact Task.within_bind (Task.within_notes _) fun _ => Task.within_pure config

theorem obtainImage_isFor :
    (obtainImage console files o c).Within (Request.IsFor o.app) := by
  refine Task.within_bind (Task.within_notes _) fun _ => ?_
  refine Task.within_bind (Task.within_notes _) fun _ => ?_
  cases namedImage o c with
  | some reference =>
    exact Task.within_bind (Task.within_attempt _ (Plan.within_request rfl)) within_announceImage
  | none =>
    refine Task.within_fromExcept_bind fun r hr => ?_
    have happ : Request.IsFor o.app (.buildImage r) := (assembled_of_buildRequest hr).app
    refine Task.within_bind (Task.within_attempt _ ?_) within_announceImage
    refine Plan.within_bind (Plan.within_request trivial) fun _ => ?_
    refine Plan.within_bind (Plan.within_request happ) fun _ => ?_
    exact Plan.within_bind (Plan.within_request trivial) fun _ => .done _

theorem deployMachines_isFor (hc : c.app = some o.app) :
    (deployMachines console o c app image).Within (Request.IsFor o.app) := by
  refine Task.within_bind (Task.within_fromExcept _ _) fun _ => ?_
  refine Task.within_fromExcept_bind fun r hr => ?_
  have hfor : Request.IsFor o.app (.runRollout r) := newRollout_isFor hc hr
  refine Task.within_bind (Task.within_notes _) fun _ => Task.within_attempt _ ?_
  refine Plan.within_bind (Plan.within_request hfor) fun result => ?_
  cases result with
  | ok u => exact .done _
  | error e => exact .note (.done _)

theorem awaitRelease_isFor (name : AppName) (release : Release) :
    (awaitRelease name release).Within (Request.IsFor name) := by
  rw [awaitRelease]
  split
  · exact Task.within_pure ()
  · exact Task.within_attempt _ (Plan.within_request rfl)

theorem effectiveRelease_isFor (name : AppName) (created : CreatedRelease) :
    (effectiveRelease console name created).Within (Request.IsFor name) := by
  rw [effectiveRelease]
  cases created.releaseCommand with
  | none => exact Task.within_pure _
  | some command =>
    refine Task.within_bind (Task.within_notes _) fun _ => ?_
    refine Task.within_bind (Task.within_notes _) fun _ => ?_
    refine Task.within_bind (Task.within_attempt _ (Plan.within_request rfl)) fun _ => ?_
    exact Task.within_attempt _ (Plan.within_request rfl)

theorem deployRelease_isFor :
    (deployRelease console o c image).Within (Request.IsFor o.app) := by
  have hfor : Request.IsFor o.app (.createRelease (newRelease o c image)) := newRelease_isFor
  refine Task.within_bind (Task.within_notes _) fun _ => ?_
  refine Task.within_bind (Task.within_attempt _ (Plan.within_request hfor)) fun created => ?_
  refine Task.within_bind (Task.within_notes _) fun _ => ?_
  split
  · exact Task.within_pure ()
  · refine Task.within_bind (Task.within_notes _) fun _ => ?_
    exact Task.within_bind (effectiveRelease_isFor _ _) (awaitRelease_isFor _)

theorem dispatch_isFor (hc : c.app = some o.app) :
    (dispatch console o c app image platform).Within (Request.IsFor o.app) := by
  cases platform with
  | machines => exact deployMachines_isFor hc
  | releases => exact deployRelease_isFor

theorem deliver_isFor (hc : c.app = some o.app) :
    (deliver console files o c app platform).Within (Request.IsFor o.app) := by
  refine Task.within_bind (Task.within_fromExcept _ _) fun _ => ?_
  refine Task.within_bind (Task.within_adapt _ obtainImage_isFor) fun image => ?_
  split
  · exact Task.within_pure _
  · have htold : c.tellPrimaryRegion.app = some o.app := by
      rw [AppConfig.tellPrimaryRegion_eq, hc]
    exact Task.within_bind (dispatch_isFor htold) fun _ => Task.within_pure _

/-- The calls of a deploy are for its own app. The config that it comes to has been given the name
of the app, whatever name it had before. -/
theorem run_isFor : (run console files o localConfig).Within (Request.IsFor o.app) := by
  refine Task.within_bind_of_runs (Task.within_adapt _ resolveConfig_isFor) fun trace config h => ?_
  have hc : config.app = some o.app := by
    obtain ⟨found, hrun, hfound⟩ := Task.runs_attempt.1 h
    cases found with
    | error e => cases hfound
    | ok found =>
      cases hfound
      exact app_of_resolveConfig hrun
  refine Task.within_bind (Task.within_attempt _ (Plan.within_request rfl)) fun app => ?_
  refine Task.within_bind (Task.within_lift ?_) fun platform => deliver_isFor hc
  exact Plan.within_bind (Plan.within_request trivial) fun _ => .done _

end Deploy

/-! ## What carries the calls out -/

theorem Command.isFor_of_command? {b : ImageBuilder} {files : Files} {r : BuildRequest}
    {label : String} {remarks : List Note} {command : Command}
    (h : b.command? files r (ImageTag.text b.registry r.app label) = some (remarks, command)) :
    command.IsFor b.registry r.app := by
  rw [ImageBuilder.command?] at h
  split at h
  · cases h
    exact .docker rfl label _
  · cases h
    exact .pack rfl label _
  · split at h
    · cases h
      exact .nixpacks rfl label
    · cases h

namespace Deploy

variable {c : ControlPlane} {b : ImageBuilder} {files : Files} {app : AppName}
  {sought : String → Prop}

theorem allowed_get {resource : Resource} (h : resource.IsFor app) :
    c.Allowed (Outside.Request.IsFor c b app sought) .get resource none :=
  fun _ hurl => .get h hurl

theorem allowed_post {resource : Resource} {body : Json} (h : Orders app resource body) :
    c.Allowed (Outside.Request.IsFor c b app sought) .post resource (some body) :=
  fun _ hurl => .post h hurl

/-- A call for an app is carried out for that app. Only an image that is to be found is looked for
by another reference than a tag of the app. -/
theorem carry_isFor {q : Request} (h : q.IsFor app)
    (hsought : ∀ r, q = .findImage r → sought r.reference) :
    (carry c b files q).Within (Outside.Request.IsFor c b app sought) := by
  cases q with
  | openConfig => exact ControlPlane.within_openConfig (allowed_get h)
  | fetchConfig => exact ControlPlane.within_get (allowed_get h)
  | summary => exact ControlPlane.within_get (allowed_get h)
  | machinesDefault => exact ControlPlane.within_machinesDefault (allowed_get trivial)
  | findImage r =>
    obtain rfl : r.app = app := h
    have hreference := hsought r rfl
    exact ImageBuilder.within_find .now (.inspect hreference) (.pull hreference)
      (fun label => .run (.tag _ label)) (fun label => .run (.push label)) .inspectTag
  | startHeartbeat => exact .done ()
  | buildImage r =>
    obtain rfl : r.app = app := h
    exact ImageBuilder.within_build .now
      (fun _ _ _ hcommand => .run (Command.isFor_of_command? hcommand))
      (fun label => .run (.push label)) .inspectTag
  | releaseHeartbeat => exact .done ()
  | createRelease r =>
    have hfor : r.IsFor app := h
    obtain rfl := hfor.name
    exact ControlPlane.within_post (allowed_post (orders_of_release hfor))
  | release => exact ControlPlane.within_get (allowed_get h)
  | watchReleaseCommand => exact ControlPlane.within_watch (allowed_get h) .wait
  | watchDeployment => exact ControlPlane.within_watch (allowed_get h) .wait
  | runRollout r =>
    have hfor : r.IsFor app := h
    obtain rfl := hfor.name
    exact ControlPlane.within_runRollout (allowed_post (orders_of_rollout hfor))
      (fun _ => allowed_get rfl) .wait

/-- An image is sought by a reference if one of the calls of a deploy is to find it. -/
def Sought (calls : List (Exchange Deploy)) (reference : String) : Prop :=
  ∃ r answer, ⟨.findImage r, answer⟩ ∈ calls ∧ r.reference = reference

/-- In every run of a deploy, its calls and all that they are carried out by are for its app. -/
theorem isFor_of_runs {console : Console} {o : DeployOptions} {localConfig : Option AppConfig}
    {calls : List (Exchange Deploy)} {outcome : Except DeployError Report}
    {trace : List (Exchange Outside)}
    (h : Task.Runs (run console files o localConfig) calls outcome)
    (hcarried : Plan.Carried (carry c b files) calls trace) :
    (∀ x ∈ calls, x.request.IsFor o.app) ∧
      ∀ x ∈ trace, x.request.IsFor c b o.app (Sought calls) := by
  have hcalls := Plan.within_of_runs run_isFor h
  refine ⟨hcalls, Plan.within_of_carried hcarried fun x hx => ?_⟩
  refine carry_isFor (hcalls x hx) fun r hr => ?_
  obtain ⟨q, answer⟩ := x
  obtain rfl : q = .findImage r := hr
  exact ⟨r, answer, hx, rfl⟩

end Deploy

end AppDeploy
