import AppDeploy.Proofs.Plan.Runs

/-!
# Plans that ask within bounds

A plan stays within a set of requests if it asks for nothing else, whatever it is answered
(`Plan.Within`). This is read off the plan as it is built, part by part, and then holds of all of
its runs (`Plan.within_of_runs`).
-/

namespace AppDeploy

namespace Plan

variable {S T : Service} {α β : Type} {P : S.Request → Prop}

/-- A plan asks only for what is allowed, in every branch. -/
inductive Within (P : S.Request → Prop) : Plan S α → Prop where
  | done (a : α) : Within P (.done a)
  | note {n : Note} {next : Plan S α} (h : Within P next) : Within P (.note n next)
  | ask {q : S.Request} {next : S.Answer q → Plan S α} (hq : P q)
      (h : ∀ answer, Within P (next answer)) : Within P (.ask q next)

theorem within_request {q : S.Request} (h : P q) : Within P (request q) :=
  .ask h .done

/-- A plan that goes on with what another has found asks within bounds if it does so for everything
that can be found. -/
theorem within_bind_of_runs {p : Plan S α} {f : α → Plan S β} (h : p.Within P)
    (hf : ∀ trace a, p.Runs trace a → (f a).Within P) : (p.bind f).Within P := by
  -- The second plan begins where the first is done, at the leaves of its tree.
  induction h with
  | done a => exact hf [] a (.done a)
  | note _ ih => exact .note (ih fun trace a hrun => hf trace a (.note hrun))
  | ask hq _ ih =>
    exact .ask hq fun answer => ih answer fun trace a hrun => hf _ a (.ask answer hrun)

theorem within_bind {p : Plan S α} {f : α → Plan S β} (h : p.Within P)
    (hf : ∀ a, (f a).Within P) : (p.bind f).Within P :=
  within_bind_of_runs h fun _ a _ => hf a

theorem within_map {p : Plan S α} (h : p.Within P) (f : α → β) :
    (p.bind fun a => .done (f a)).Within P :=
  within_bind h fun a => .done (f a)

/-- What a plan asks for may go beyond the bounds as long as it is carried out within them. -/
theorem within_through {Q : T.Request → Prop} {carry : (q : T.Request) → Plan S (T.Answer q)}
    {p : Plan T α} (hp : p.Within Q) (h : ∀ q, Q q → (carry q).Within P) :
    (p.through carry).Within P := by
  induction hp with
  | done a => exact .done a
  | note _ ih => exact .note ih
  | ask hq _ ih => exact within_bind (h _ hq) ih

theorem within_notes (ns : List Note) : Within P (notes ns) := by
  induction ns with
  | nil => exact .done ()
  | cons n rest ih => exact .note ih

theorem within_mono {P' : S.Request → Prop} {p : Plan S α} (h : p.Within P)
    (hP : ∀ q, P q → P' q) : p.Within P' := by
  induction h with
  | done a => exact .done a
  | note _ ih => exact .note ih
  | ask hq _ ih => exact .ask (hP _ hq) ih

theorem within_of_runs {p : Plan S α} {trace : List (Exchange S)} {a : α} (h : p.Within P)
    (hrun : p.Runs trace a) : ∀ x ∈ trace, P x.request := by
  induction hrun with
  | done a => exact List.forall_mem_nil _
  | note _ ih =>
    cases h with
    | note h => exact ih h
  | ask answer _ ih =>
    cases h with
    | ask hq h => exact List.forall_mem_cons.2 ⟨hq, ih (h answer)⟩

/-- Exchanges that are carried out within bounds leave only such behind. -/
theorem within_of_carried {carry : (q : T.Request) → Plan S (T.Answer q)}
    {asked : List (Exchange T)} {trace : List (Exchange S)} (h : Carried carry asked trace)
    (hasked : ∀ x ∈ asked, (carry x.request).Within P) : ∀ x ∈ trace, P x.request := by
  induction h with
  | nil => exact List.forall_mem_nil _
  | cons hrun _ ih =>
    obtain ⟨hfirst, hlater⟩ := List.forall_mem_cons.1 hasked
    exact List.forall_mem_append.2 ⟨within_of_runs hfirst hrun, ih hlater⟩

end Plan

namespace Task

variable {S : Service} {α β ε ε' : Type} {P : S.Request → Prop}

/-- A plan that can fail asks only for what is allowed. -/
def Within (P : S.Request → Prop) (t : Task S ε α) : Prop :=
  Plan.Within P t.run

theorem within_bind_of_runs {t : Task S ε α} {f : α → Task S ε β} (h : t.Within P)
    (hf : ∀ trace a, t.Runs trace (.ok a) → (f a).Within P) : (t >>= f).Within P := by
  refine Plan.within_bind_of_runs h fun trace found hrun => ?_
  cases found with
  | error e => exact .done _
  | ok a => exact hf trace a hrun

theorem within_bind {t : Task S ε α} {f : α → Task S ε β} (h : t.Within P)
    (hf : ∀ a, (f a).Within P) : (t >>= f).Within P :=
  within_bind_of_runs h fun _ a _ => hf a

theorem within_pure (a : α) : Within P (pure a : Task S ε α) :=
  Plan.Within.done _

theorem within_throw (e : ε) : Within P (throw e : Task S ε α) :=
  Plan.Within.done _

theorem within_fromExcept (wrap : ε' → ε) (found : Except ε' α) :
    Within P (fromExcept wrap found : Task S ε α) :=
  Plan.Within.done _

theorem within_fromExcept_bind {wrap : ε' → ε} {found : Except ε' α} {f : α → Task S ε β}
    (hf : ∀ a, found = .ok a → (f a).Within P) :
    ((fromExcept wrap found : Task S ε α) >>= f).Within P := by
  cases found with
  | error e => exact .done _
  | ok a => exact hf a rfl

theorem within_attempt {p : Plan S (Except ε' α)} (wrap : ε' → ε) (h : p.Within P) :
    Within P (attempt wrap p : Task S ε α) :=
  Plan.within_map h _

theorem within_adapt {t : Task S ε' α} (wrap : ε' → ε) (h : t.Within P) :
    Within P (t.adapt wrap : Task S ε α) :=
  within_attempt wrap h

theorem within_lift {p : Plan S α} (h : p.Within P) : Within P (ExceptT.lift p : Task S ε α) :=
  Plan.within_map h _

theorem within_notes (ns : List Note) : Within P (notes ns : Task S ε Unit) :=
  within_lift (Plan.within_notes ns)

end Task

end AppDeploy
