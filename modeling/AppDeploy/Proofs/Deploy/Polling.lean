import AppDeploy.Deploy.Carried
import AppDeploy.Proofs.Deploy.Findings
import AppDeploy.Proofs.Deploy.Watch

/-!
# Deploys that poll

Here the watches of a deploy are carried out by polls of a source of reports, and its rollouts
by the control plane, while everything else is left open (`runPolling`). So every poll of a deploy
is an exchange of its run, between those it has with the rest of the world. A deploy in the world
outside is such a deploy, everything else being answered there too (`runOutside_eq`).
-/

namespace AppDeploy

namespace Polling

inductive Request where
  /-- What a deploy asks for, other than watches and rollouts. -/
  | call (q : Deploy.Request)
  | status (q : Status.Request)
  | outside (q : Outside.Request)

@[reducible] def Answer : Request → Type
  | .call q => Deploy.Answer q
  | .status q => Status.Answer q
  | .outside q => Outside.Answer q

end Polling

@[reducible] def Polling : Service := ⟨Polling.Request, Polling.Answer⟩

namespace Polling

variable {α : Type}

def onStatus (p : Plan Status α) : Plan Polling α :=
  p.through fun q => Plan.request (S := Polling) (.status q)

def onOutside (p : Plan Outside α) : Plan Polling α :=
  p.through fun q => Plan.request (S := Polling) (.outside q)

/-- An exchange of a deploy, as one of a deploy that polls. -/
def ofCall (x : Exchange Deploy) : Exchange Polling :=
  ⟨.call x.request, x.answer⟩

def ofStatus (x : Exchange Status) : Exchange Polling :=
  ⟨.status x.request, x.answer⟩

def ofOutside (x : Exchange Outside) : Exchange Polling :=
  ⟨.outside x.request, x.answer⟩

variable {trace : List (Exchange Polling)} {a : α}

theorem runs_onStatus {p : Plan Status α} :
    Plan.Runs (onStatus p) trace a ↔ ∃ asked, Plan.Runs p asked a ∧ trace = asked.map ofStatus := by
  have hcarried : ∀ asked,
      Plan.Carried (fun q => Plan.request (S := Polling) (.status q)) asked trace ↔
        trace = asked.map ofStatus :=
    fun _ => Plan.carried_map fun _ _ _ => Plan.runs_request
  simp only [onStatus, Plan.runs_through, hcarried]

theorem runs_onOutside {p : Plan Outside α} :
    Plan.Runs (onOutside p) trace a ↔
      ∃ asked, Plan.Runs p asked a ∧ trace = asked.map ofOutside := by
  have hcarried : ∀ asked,
      Plan.Carried (fun q => Plan.request (S := Polling) (.outside q)) asked trace ↔
        trace = asked.map ofOutside :=
    fun _ => Plan.carried_map fun _ _ _ => Plan.runs_request
  simp only [onOutside, Plan.runs_through, hcarried]

end Polling

namespace Deploy

/-- Carries out what a deploy asks for: the watches at a pace, by polls, and the rollouts by a
control plane. -/
def carryPolling (pace : Pace) (c : ControlPlane) :
    (q : Deploy.Request) → Plan Polling (Deploy.Answer q)
  | .watchReleaseCommand app id => Polling.onStatus ((Watched.releaseCommand app id).watch pace)
  | .watchDeployment app id => Polling.onStatus ((Watched.deployment app id).watch pace)
  | .runRollout r => Polling.onOutside (c.runRollout r)
  | q => Plan.request (S := Polling) (.call q)

/-- A deploy that polls. -/
def runPolling (pace : Pace) (c : ControlPlane) (console : Console) (files : Files)
    (o : DeployOptions) (localConfig : Option AppConfig) : Task Polling DeployError Report :=
  ExceptT.mk ((run console files o localConfig).run.through (carryPolling pace c))

/-! ## In the world outside -/

/-- Carries out what a deploy that polls asks for. -/
def carryOutside (c : ControlPlane) (b : ImageBuilder) (files : Files) :
    (q : Polling.Request) → Plan Outside (Polling.Answer q)
  | .call q => carry c b files q
  | .status q => c.carryStatus q
  | .outside q => Plan.request (S := Outside) q

/-- In the world outside, a deploy polls at the pace of its control plane. -/
theorem runOutside_eq (c : ControlPlane) (b : ImageBuilder) (console : Console) (files : Files)
    (o : DeployOptions) (localConfig : Option AppConfig) :
    (runOutside c b console files o localConfig).run =
      (runPolling c.pace c console files o localConfig).run.through (carryOutside c b files) := by
  have hstatus : (fun q => (Plan.request (S := Polling) (.status q)).through
      (carryOutside c b files)) = c.carryStatus := by
    funext q
    exact Plan.request_through (S := Polling) (.status q)
  have houtside : (fun q => (Plan.request (S := Polling) (.outside q)).through
      (carryOutside c b files)) = Plan.request (S := Outside) := by
    funext q
    exact Plan.request_through (S := Polling) (.outside q)
  have hwatch : ∀ subject : Watched,
      (Polling.onStatus (subject.watch c.pace)).through (carryOutside c b files) =
        c.watch subject := by
    intro subject
    rw [Polling.onStatus, Plan.through_through, hstatus, ControlPlane.watch]
  -- Everything else is carried out as it is without polls, request by request.
  have hcarry : ∀ q, (carryPolling c.pace c q).through (carryOutside c b files) =
      carry c b files q := by
    intro q
    cases q with
    | watchReleaseCommand app id => exact hwatch (.releaseCommand app id)
    | watchDeployment app id => exact hwatch (.deployment app id)
    | runRollout r =>
      show (Polling.onOutside (c.runRollout r)).through (carryOutside c b files) = c.runRollout r
      rw [Polling.onOutside, Plan.through_through, houtside, Plan.through_request]
    | _ => exact Plan.request_through _
  show (run console files o localConfig).run.through (carry c b files) =
    ((run console files o localConfig).run.through (carryPolling c.pace c)).through _
  rw [Plan.through_through]
  simp only [hcarry]

end Deploy

end AppDeploy
