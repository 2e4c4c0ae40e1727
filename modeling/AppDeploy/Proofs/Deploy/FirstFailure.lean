import AppDeploy.Proofs.Config.Settled
import AppDeploy.Proofs.Deploy.CallOrder

/-!
# The first failure of a deploy

A call that fails is the last one of a deploy, apart from the release of a heartbeat, and its
error is that of the deploy, under the name of its stage (`failure?`). Without such a call a
deploy fails for a reason of its own only (`LocalFailure`), and if there is none it succeeds
with the image that was found, on the platform that was chosen.
-/

namespace AppDeploy.Deploy

variable {files : Files} {o : DeployOptions} {c base config : AppConfig} {app : AppSummary}
  {platform : Platform} {image : DeploymentImage} {localConfig : Option AppConfig}
  {calls before after : List (Exchange Deploy)}

/-! ## Failures -/

/-- The failure of a deploy that a call makes: none unless the call fails. The default
platform of an organization need not be known. -/
def failure? (o : DeployOptions) : Exchange Deploy → Option DeployError
  | ⟨.openConfig _, .error e⟩ => some (.config (.remoteClient e))
  | ⟨.fetchConfig _, .error e⟩ => some (.config (.remoteFetch e))
  | ⟨.summary _, .error e⟩ => some (.appLookup o.app e)
  | ⟨.findImage _, .error e⟩ => some (.image e)
  | ⟨.findImage _, .ok none⟩ => some (.image .noImage)
  | ⟨.buildImage _, .error e⟩ => some (.image e)
  | ⟨.buildImage _, .ok none⟩ => some (.image .noImage)
  | ⟨.createRelease _, .error e⟩ => some (.createRelease e)
  | ⟨.release _ id, .error e⟩ => some (.refreshRelease id e)
  | ⟨.watchReleaseCommand _ _, .error e⟩ => some (.releaseCommand e)
  | ⟨.watchDeployment _ _, .error e⟩ => some (.monitor e)
  | ⟨.runRollout _, .error e⟩ => some (.rollout e)
  | _ => none

/-- What is still done after a call, even if it fails: a heartbeat is released. -/
def owed : Request → List (Exchange Deploy)
  | .buildImage _ => [⟨.releaseHeartbeat, ()⟩]
  | _ => []

/-- No call fails. -/
def Unfailing (o : DeployOptions) (calls : List (Exchange Deploy)) : Prop :=
  ∀ x ∈ calls, failure? o x = none

theorem unfailing_nil : Unfailing o [] := by
  intro x hx
  cases hx

theorem unfailing_cons {x : Exchange Deploy} :
    Unfailing o (x :: calls) ↔ failure? o x = none ∧ Unfailing o calls :=
  List.forall_mem_cons

theorem unfailing_append :
    Unfailing o (before ++ after) ↔ Unfailing o before ∧ Unfailing o after :=
  List.forall_mem_append

theorem unfailing_owed (q : Request) : Unfailing o (owed q) := by
  cases q with
  | buildImage r => exact unfailing_cons.2 ⟨rfl, unfailing_nil⟩
  | _ => exact unfailing_nil

/-- The reasons for which a deploy fails by itself: there is no valid config, or not one that
is fit for the platform, or it cannot be said what to build. -/
inductive LocalFailure (files : Files) (o : DeployOptions) (localConfig : Option AppConfig)
    (calls : List (Exchange Deploy)) : DeployError → Prop where
  | unsettled {base : AppConfig} {e : ConfigError} (hbase : Base o.app calls localConfig base)
      (he : settle o base = .error e) : LocalFailure files o localConfig calls (.config e)
  | unfit {base config : AppConfig} {app : AppSummary} {platform : Platform} {e : ConfigError}
      (hbase : Base o.app calls localConfig base) (hc : settle o base = .ok config)
      (hchosen : Chosen o calls app platform) (he : ensurePlatform config platform = .error e) :
      LocalFailure files o localConfig calls (.invalidMachinesConfig e)
  | unassembled {base config : AppConfig} {app : AppSummary} {platform : Platform}
      {e : BuildError} (hbase : Base o.app calls localConfig base)
      (hc : settle o base = .ok config) (hchosen : Chosen o calls app platform)
      (hfit : ensurePlatform config platform = .ok ()) (hnamed : namedImage o config = none)
      (he : buildRequest files o config = .error e) :
      LocalFailure files o localConfig calls (.image e)

/-! ## How a stage ends -/

/-- Some calls come to a result: well, or for a reason of the deploy itself, or with the one
call that fails. -/
inductive Ends {α : Type} (o : DeployOptions) (Reason : DeployError → Prop)
    (calls : List (Exchange Deploy)) : Except DeployError α → Prop where
  | well (h : Unfailing o calls) (a : α) : Ends o Reason calls (.ok a)
  | stuck (h : Unfailing o calls) {e : DeployError} (hreason : Reason e) :
      Ends o Reason calls (.error e)
  | failed {before : List (Exchange Deploy)} {x : Exchange Deploy} {e : DeployError}
      (hcalls : calls = before ++ x :: owed x.request) (hbefore : Unfailing o before)
      (he : failure? o x = some e) : Ends o Reason calls (.error e)

section Ends

variable {α β : Type} {Reason Other : DeployError → Prop} {result : Except DeployError α}

theorem ends_call {x : Exchange Deploy} {e : DeployError} (he : failure? o x = some e)
    (howed : owed x.request = []) : Ends o Reason [x] (.error e : Except DeployError α) :=
  .failed (by rw [howed]; rfl) unfailing_nil he

theorem ends_second {first x : Exchange Deploy} {e : DeployError} (hfirst : Unfailing o [first])
    (he : failure? o x = some e) :
    Ends o Reason (first :: x :: owed x.request) (.error e : Except DeployError α) :=
  .failed (List.singleton_append).symm hfirst he

/-- Calls that do not fail may come first. -/
theorem ends_append (h : Ends o Reason calls result) (hbefore : Unfailing o before)
    (hmono : ∀ e, Reason e → Other e) : Ends o Other (before ++ calls) result := by
  cases h with
  | well h a => exact .well (unfailing_append.2 ⟨hbefore, h⟩) a
  | stuck h hreason => exact .stuck (unfailing_append.2 ⟨hbefore, h⟩) (hmono _ hreason)
  | @failed between x e hcalls hbetween he =>
    refine .failed ?_ (unfailing_append.2 ⟨hbefore, hbetween⟩) he
    rw [hcalls, List.append_assoc]

/-- What a failure keeps from being found does not matter. -/
theorem Ends.error {e : DeployError} (h : Ends o Reason calls (.error e : Except DeployError α)) :
    Ends o Reason calls (.error e : Except DeployError β) := by
  cases h with
  | stuck h hreason => exact .stuck h hreason
  | failed hcalls hbefore he => exact .failed hcalls hbefore he

/-- The one call that fails ends the calls, but for what is owed after it. -/
theorem Ends.of_failure {x : Exchange Deploy} {e : DeployError}
    (h : Ends o Reason (before ++ x :: after) result) (he : failure? o x = some e) :
    after = owed x.request ∧ result = .error e := by
  -- The call must be the one that `Ends` knows to fail, since no other one does.
  have hfails : ∀ {calls}, Unfailing o calls → x ∉ calls := by
    intro calls h hx
    rw [h x hx] at he
    cases he
  cases h with
  | well h a => exact absurd (by simp) (hfails h)
  | stuck h hreason => exact absurd (by simp) (hfails h)
  | @failed first y e' hcalls hfirst he' =>
    obtain ⟨middle, rfl, hlast⟩ := split_of_not_mem hcalls.symm (hfails hfirst)
    cases middle with
    | nil =>
      obtain ⟨rfl, rfl⟩ := List.cons.inj hlast
      rw [he] at he'
      cases he'
      exact ⟨rfl, rfl⟩
    | cons z middle =>
      obtain ⟨rfl, hrest⟩ := List.cons.inj hlast
      exact absurd (by simp [hrest]) (hfails (unfailing_owed y.request))

theorem Ends.unfailing {a : α} (h : Ends o Reason calls (.ok a : Except DeployError α)) :
    Unfailing o calls := by
  cases h with
  | well h a => exact h

end Ends

/-! ## The stages -/

theorem ends_of_started {found : Except ConfigError AppConfig}
    (h : Started o.app localConfig calls found) :
    Ends o (fun _ => False) calls (found.mapError .config) := by
  cases h with
  | kept base => exact .well unfailing_nil base
  | unopened e => exact ends_call rfl rfl
  | fetched answer =>
    have hopened : Unfailing o [⟨.openConfig o.app, .ok ()⟩] :=
      unfailing_cons.2 ⟨rfl, unfailing_nil⟩
    cases answer with
    | error e => exact ends_second hopened rfl
    | ok base =>
      exact .well (unfailing_append.2 ⟨hopened, unfailing_cons.2 ⟨rfl, unfailing_nil⟩⟩) base

/-- Nothing can be said about what to build. -/
def Unassembled (files : Files) (o : DeployOptions) (c : AppConfig) (e : DeployError) : Prop :=
  namedImage o c = none ∧ ∃ cause, buildRequest files o c = .error cause ∧ e = .image cause

theorem ends_of_obtained {found : Except BuildError DeploymentImage}
    (h : Obtained files o c calls found) :
    Ends o (Unassembled files o c) calls (found.mapError .image) := by
  cases h with
  | named h answer =>
    rcases answer with e | _ | image
    · exact ends_call rfl rfl
    · exact ends_call rfl rfl
    · exact .well (unfailing_cons.2 ⟨rfl, unfailing_nil⟩) image
  | unassembled h he => exact .stuck unfailing_nil ⟨h, _, he, rfl⟩
  | built h hr answer =>
    have hstarted : Unfailing o [⟨.startHeartbeat, ()⟩] := unfailing_cons.2 ⟨rfl, unfailing_nil⟩
    rcases answer with e | _ | image
    · exact ends_second hstarted rfl
    · exact ends_second hstarted rfl
    · refine .well (unfailing_append.2 ⟨hstarted, ?_⟩) image
      exact unfailing_cons.2 ⟨rfl, unfailing_cons.2 ⟨rfl, unfailing_nil⟩⟩

theorem ends_of_commandAwaited {created : CreatedRelease} {result : Except DeployError Release}
    (h : CommandAwaited o.app created calls result) : Ends o (fun _ => False) calls result := by
  cases h with
  | none => exact .well unfailing_nil _
  | failed _ e => exact ends_call rfl rfl
  | refreshed _ answer =>
    have hwatched : ∀ id, Unfailing o [⟨.watchReleaseCommand o.app id, .ok ()⟩] :=
      fun _ => unfailing_cons.2 ⟨rfl, unfailing_nil⟩
    cases answer with
    | error e => exact ends_second (hwatched _) rfl
    | ok release =>
      exact .well (unfailing_append.2 ⟨hwatched _, unfailing_cons.2 ⟨rfl, unfailing_nil⟩⟩) release

theorem ends_of_releaseAwaited {release : Release} {result : Except DeployError Unit}
    (h : ReleaseAwaited o.app release calls result) : Ends o (fun _ => False) calls result := by
  cases h with
  | immediate => exact .well unfailing_nil ()
  | watched _ answer =>
    cases answer with
    | error e => exact ends_call rfl rfl
    | ok u => exact .well (unfailing_cons.2 ⟨rfl, unfailing_nil⟩) u

theorem ends_of_released {result : Except DeployError Unit} (h : Released o c image calls result) :
    Ends o (fun _ => False) calls result := by
  have hcreated : ∀ created,
      Unfailing o [⟨.createRelease (newRelease o c image), .ok created⟩] :=
    fun _ => unfailing_cons.2 ⟨rfl, unfailing_nil⟩
  cases h with
  | refused e => exact ends_call rfl rfl
  | detached _ created => exact .well (hcreated created) ()
  | stranded _ hcommand =>
    exact ends_append (ends_of_commandAwaited hcommand).error (hcreated _) fun _ => id
  | followed _ hcommand hwatch =>
    have hwaited := ends_append (ends_of_releaseAwaited hwatch)
      (ends_of_commandAwaited hcommand).unfailing fun _ => id
    exact ends_append hwaited (hcreated _) fun _ => id

/-- A config that was settled on can be rolled out. -/
theorem newRollout_of_settle (h : settle o base = .ok config) :
    ∃ rollout, newRollout o config.tellPrimaryRegion app image = .ok rollout := by
  obtain ⟨vars, hvars, -⟩ := AppConfig.withOptions_eq_ok.1 (settle_eq_ok.1 h).1
  exact ⟨_, newRollout_eq_ok.2 ⟨vars, hvars, rfl⟩⟩

/-- Both checks of a rollout pass: the config was fit before its region was told, and its
assignments were read when it was settled on. -/
theorem run_of_rolledOut {result : Except DeployError Unit} (hc : settle o base = .ok config)
    (hfit : config.ensureMachines = .ok ())
    (h : RolledOut o config.tellPrimaryRegion app image calls result) :
    ∃ rollout answer, config.tellPrimaryRegion.ensureMachines = .ok () ∧
      newRollout o config.tellPrimaryRegion app image = .ok rollout ∧
      calls = [⟨.runRollout rollout, answer⟩] ∧ result = answer.mapError .rollout := by
  have hmachines : config.tellPrimaryRegion.ensureMachines = .ok () := by
    rw [AppConfig.ensureMachines_tellPrimaryRegion]
    exact hfit
  cases h with
  | unfit he => cases hmachines.symm.trans he
  | unread _ he =>
    obtain ⟨rollout, hr⟩ := newRollout_of_settle hc
    cases hr.symm.trans he
  | run _ hr answer => exact ⟨_, answer, hmachines, hr, rfl, rfl⟩

theorem ends_of_dispatched {result : Except DeployError Unit} (hc : settle o base = .ok config)
    (hfit : ensurePlatform config platform = .ok ())
    (h : Dispatched o config.tellPrimaryRegion app image platform calls result) :
    Ends o (fun _ => False) calls result := by
  cases h with
  | machines h =>
    obtain ⟨rollout, answer, -, -, rfl, rfl⟩ := run_of_rolledOut hc hfit h
    cases answer with
    | error e => exact ends_call rfl rfl
    | ok u => exact .well (unfailing_cons.2 ⟨rfl, unfailing_nil⟩) u
  | releases h => exact ends_of_released h

/-! ## The course -/

theorem unfailing_of_resolved (h : Resolved o localConfig calls config app platform) :
    Unfailing o calls := by
  obtain ⟨start, base, answer, hstart, -, rfl, -⟩ := h
  refine unfailing_append.2 ⟨(ends_of_started hstart).unfailing, ?_⟩
  exact unfailing_cons.2 ⟨rfl, unfailing_cons.2 ⟨rfl, unfailing_nil⟩⟩

theorem ends_of_course {result : Except DeployError Report}
    (h : Course files o localConfig calls result) :
    Ends o (LocalFailure files o localConfig calls) calls result := by
  cases h with
  | @unresolved _ base e hstart he =>
    cases base with
    | error e' =>
      cases he
      exact ends_append (ends_of_started hstart).error unfailing_nil fun _ => False.elim
    | ok base =>
      exact .stuck (ends_of_started hstart).unfailing (.unsettled (base_of_started hstart) he)
  | unknown hstart hc e =>
    exact .failed rfl (ends_of_started hstart).unfailing rfl
  | @delivered _ _ config app platform _ hresolved hdelivered =>
    have hbefore := unfailing_of_resolved hresolved
    obtain ⟨base, hbase, hc⟩ := hresolved.base
    have hbase' : ∀ after, Base o.app (_ ++ after) localConfig base :=
      fun _ => hbase.mono (List.subset_append_left ..)
    have hchosen : ∀ after, Chosen o (_ ++ after) app platform :=
      fun _ => hresolved.chosen.mono (List.subset_append_left ..)
    cases hdelivered with
    | unfit he =>
      refine .stuck ?_ (.unfit (hbase' _) hc (hchosen _) he)
      rwa [List.append_nil]
    | imageless hfit himage =>
      refine ends_append (ends_of_obtained himage).error hbefore ?_
      intro e hreason
      obtain ⟨hnamed, cause, he, rfl⟩ := hreason
      exact .unassembled (hbase' _) hc (hchosen _) hfit hnamed he
    | built hfit himage =>
      exact .well (unfailing_append.2 ⟨hbefore, (ends_of_obtained himage).unfailing⟩) _
    | @dispatched _ _ _ dispatched hfit himage _ hdispatch =>
      have hobtained := (ends_of_obtained himage).unfailing
      have hends := ends_of_dispatched hc hfit hdispatch
      refine ends_append ?_ hbefore fun _ => False.elim
      refine ends_append ?_ hobtained fun _ => id
      cases dispatched with
      | error e => exact hends.error
      | ok u => exact .well hends.unfailing _

/-! ## Reasons of a deploy itself -/

theorem base_unique {result : Except DeployError Report} {other : AppConfig}
    (h : Course files o localConfig calls result) (hbase : Base o.app calls localConfig base)
    (hother : Base o.app calls localConfig other) : base = other := by
  cases hbase with
  | kept base =>
    cases hother with
    | kept => rfl
  | fetched _ hfetch =>
    cases hother with
    | fetched _ hfetch' => exact Except.ok.inj (answer_unique h hfetch hfetch')

theorem chosen_unique {result : Except DeployError Report} {app' : AppSummary}
    {platform' : Platform} (h : Course files o localConfig calls result)
    (hchosen : Chosen o calls app platform) (hchosen' : Chosen o calls app' platform') :
    app = app' ∧ platform = platform' := by
  obtain ⟨hlooked, answer, hanswer, rfl⟩ := hchosen
  obtain ⟨hlooked', answer', hanswer', rfl⟩ := hchosen'
  obtain rfl := Except.ok.inj (answer_unique h hlooked hlooked')
  obtain rfl := answer_unique h hanswer hanswer'
  exact ⟨rfl, rfl⟩

theorem settle_unique {result : Except DeployError Report} {other : AppConfig}
    {found found' : Except ConfigError AppConfig} (h : Course files o localConfig calls result)
    (hbase : Base o.app calls localConfig base) (hfound : settle o base = found)
    (hother : Base o.app calls localConfig other) (hfound' : settle o other = found') :
    found = found' := by
  obtain rfl := base_unique h hbase hother
  exact hfound.symm.trans hfound'

/-- A deploy that is prepared has no reason of its own to fail. -/
theorem not_localFailure_of_prepared {result : Except DeployError Report} {e : DeployError}
    (h : Course files o localConfig calls result)
    (hprepared : Prepared files o localConfig calls config app platform image) :
    ¬LocalFailure files o localConfig calls e := by
  obtain ⟨base, hbase, hc⟩ := hprepared.settled
  intro hlocal
  cases hlocal with
  | unsettled hbase' he => cases settle_unique h hbase hc hbase' he
  | unfit hbase' hc' hchosen he =>
    cases settle_unique h hbase hc hbase' hc'
    obtain ⟨-, rfl⟩ := chosen_unique h hprepared.chosen hchosen
    cases hprepared.fit.symm.trans he
  | unassembled hbase' hc' _ _ hnamed he =>
    cases settle_unique h hbase hc hbase' hc'
    cases hprepared.found with
    | named hnamed' => cases hnamed.symm.trans hnamed'
    | built _ hr => cases hr.symm.trans he

/-- There is one reason at most. -/
theorem localFailure_unique {result : Except DeployError Report} {e e' : DeployError}
    (h : Course files o localConfig calls result) (he : LocalFailure files o localConfig calls e)
    (he' : LocalFailure files o localConfig calls e') : e = e' := by
  cases he with
  | unsettled hbase he =>
    cases he' with
    | unsettled hbase' he' =>
      cases settle_unique h hbase he hbase' he'
      rfl
    | unfit hbase' hc => cases settle_unique h hbase he hbase' hc
    | unassembled hbase' hc => cases settle_unique h hbase he hbase' hc
  | unfit hbase hc hchosen he =>
    cases he' with
    | unsettled hbase' he' => cases settle_unique h hbase hc hbase' he'
    | unfit hbase' hc' hchosen' he' =>
      cases settle_unique h hbase hc hbase' hc'
      obtain ⟨-, rfl⟩ := chosen_unique h hchosen hchosen'
      cases he.symm.trans he'
      rfl
    | unassembled hbase' hc' hchosen' hfit =>
      cases settle_unique h hbase hc hbase' hc'
      obtain ⟨-, rfl⟩ := chosen_unique h hchosen hchosen'
      cases he.symm.trans hfit
  | unassembled hbase hc hchosen hfit hnamed he =>
    cases he' with
    | unsettled hbase' he' => cases settle_unique h hbase hc hbase' he'
    | unfit hbase' hc' hchosen' he' =>
      cases settle_unique h hbase hc hbase' hc'
      obtain ⟨-, rfl⟩ := chosen_unique h hchosen hchosen'
      cases hfit.symm.trans he'
    | unassembled hbase' hc' _ _ _ he' =>
      cases settle_unique h hbase hc hbase' hc'
      cases he.symm.trans he'
      rfl

/-! ## Successes -/

/-- Nothing is dispatched unless it is to be, and then all is well. -/
theorem prepared_of_ok {report : Report} (h : Course files o localConfig calls (.ok report)) :
    ∃ config app, Prepared files o localConfig calls config app report.platform report.image ∧
      report.dispatched = !o.buildOnly := by
  generalize hresult : Except.ok report = result at h
  cases h with
  | unresolved => cases hresult
  | unknown => cases hresult
  | @delivered _ _ config app _ _ hresolved hdelivered =>
    cases hdelivered with
    | unfit => cases hresult
    | imageless => cases hresult
    | built hfit himage hbuild =>
      cases hresult
      exact ⟨config, app, prepared_of_obtained hresolved hfit himage, by rw [hbuild]; rfl⟩
    | @dispatched _ _ _ dispatched hfit himage hbuild =>
      cases dispatched with
      | error e => cases hresult
      | ok u =>
        cases hresult
        refine ⟨config, app, ?_, by rw [hbuild]; rfl⟩
        rw [← List.append_assoc]
        exact (prepared_of_obtained hresolved hfit himage).mono (List.subset_append_left ..)

/-! ## The release that is looked at again -/

theorem release_of_commandAwaited {created : CreatedRelease} {result : Except DeployError Release}
    {name : AppName} {id : ReleaseId} {answer : Except ApiError Release}
    (h : CommandAwaited o.app created calls result) (hx : ⟨.release name id, answer⟩ ∈ calls) :
    name = o.app ∧ id = created.release.id := by
  cases h with
  | none => simp at hx
  | failed => simp at hx
  | refreshed _ answer' =>
    simp only [List.mem_cons, Exchange.mk.injEq, reduceCtorEq, false_and, Request.release.injEq,
      List.not_mem_nil, or_false, false_or] at hx
    exact hx.1

/-- The release that is looked at again is the one that was created. -/
theorem release_of_course {result : Except DeployError Report} {name : AppName} {id : ReleaseId}
    {answer : Except ApiError Release} (h : Course files o localConfig calls result)
    (hx : ⟨.release name id, answer⟩ ∈ calls) :
    name = o.app ∧ ∃ r created, ⟨.createRelease r, .ok created⟩ ∈ calls ∧
      id = created.release.id := by
  obtain ⟨first, second, config, app, platform, image, dispatched, rfl, hfirst, -, -, hdispatch,
    -⟩ := reached_of_call h hx rfl
  have hsecond : ⟨.release name id, answer⟩ ∈ second := by
    rcases List.mem_append.1 hx with hx | hx
    · cases hfirst _ hx
    · exact hx
  cases hdispatch with
  | machines h =>
    obtain ⟨rollout, -, hrequest⟩ := request_of_rolledOut h hsecond
    cases hrequest
  | releases h =>
    cases h with
    | refused e => simp at hsecond
    | detached _ created => simp at hsecond
    | @stranded _ created _ _ hcommand =>
      have hlater := List.mem_of_ne_of_mem (by simp) hsecond
      obtain ⟨hname, hid⟩ := release_of_commandAwaited hcommand hlater
      exact ⟨hname, newRelease o config.tellPrimaryRegion image, created, by simp, hid⟩
    | @followed _ created _ _ _ _ hcommand hwatch =>
      have hlater := List.mem_of_ne_of_mem (by simp) hsecond
      rcases List.mem_append.1 hlater with hlater | hlater
      · obtain ⟨hname, hid⟩ := release_of_commandAwaited hcommand hlater
        exact ⟨hname, newRelease o config.tellPrimaryRegion image, created, by simp, hid⟩
      · cases hwatch with
        | immediate => simp at hlater
        | watched => simp at hlater

/-! ## The first failure -/

/-- What the first failure of a deploy decides. -/
structure Decided (files : Files) (o : DeployOptions) (localConfig : Option AppConfig)
    (calls : List (Exchange Deploy)) (result : Except DeployError Report) : Prop where
  /-- A call that fails is the last, apart from the release of a heartbeat, and its error is the
  result under the name of its stage. -/
  failed : ∀ before x after e, calls = before ++ x :: after → failure? o x = some e →
    after = owed x.request ∧ result = .error e
  /-- A release that is looked at again is the one that was created. -/
  refreshed : ∀ name id answer, ⟨.release name id, answer⟩ ∈ calls →
    name = o.app ∧ ∃ r created, ⟨.createRelease r, .ok created⟩ ∈ calls ∧ id = created.release.id
  /-- Without a call that fails, a deploy fails exactly for reasons of its own. -/
  stuck : Unfailing o calls →
    ∀ e, result = .error e ↔ LocalFailure files o localConfig calls e
  /-- When nothing fails, the result is the image that was found, on the platform that was
  chosen, and it is dispatched unless it is only to be built. -/
  succeeded : Unfailing o calls → (∀ e, ¬LocalFailure files o localConfig calls e) →
    ∃ config app platform image, Prepared files o localConfig calls config app platform image ∧
      result = .ok ⟨platform, image, !o.buildOnly⟩

/-- In every world, the first failure decides a deploy. -/
theorem first_failure_decides {ω : Type} (w : World Deploy ω) (state : ω) (console : Console)
    (files : Files) (o : DeployOptions) (localConfig : Option AppConfig) :
    Decided files o localConfig (callsIn w state console files o localConfig)
      (outcomeIn w state console files o localConfig) := by
  have hcourse := course_of_run w state console files o localConfig
  generalize callsIn w state console files o localConfig = calls at hcourse
  generalize outcomeIn w state console files o localConfig = result at hcourse
  have hends := ends_of_course hcourse
  refine ⟨?_, ?_, ?_, ?_⟩
  · intro before x after e hcalls he
    subst hcalls
    exact hends.of_failure he
  · intro name id answer hx
    exact release_of_course hcourse hx
  · intro hunfailing e
    cases hends with
    | well _ report =>
      obtain ⟨config, app, hprepared, -⟩ := prepared_of_ok hcourse
      constructor
      · intro hresult
        cases hresult
      · intro hlocal
        exact absurd hlocal (not_localFailure_of_prepared hcourse hprepared)
    | stuck _ hreason =>
      constructor
      · intro hresult
        cases hresult
        exact hreason
      · intro hlocal
        rw [localFailure_unique hcourse hreason hlocal]
    | failed hcalls _ he =>
      rw [hunfailing _ (by simp [hcalls])] at he
      cases he
  · intro hunfailing hnone
    cases hends with
    | well _ report =>
      obtain ⟨config, app, hprepared, hdispatched⟩ := prepared_of_ok hcourse
      exact ⟨config, app, report.platform, report.image, hprepared, by rw [← hdispatched]⟩
    | stuck _ hreason => exact absurd hreason (hnone _)
    | failed hcalls _ he =>
      rw [hunfailing _ (by simp [hcalls])] at he
      cases he

end AppDeploy.Deploy
