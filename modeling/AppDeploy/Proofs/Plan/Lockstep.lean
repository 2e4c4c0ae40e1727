import AppDeploy.Proofs.Plan.Runs

/-!
# Runs in lockstep

A run of a composed plan is put together from the runs of its parts (`Plan.run_bind`). Two
worlds that answer alike whatever a run asks of them let the plan run in the same way
(`Plan.run_congr`); their states need not be the same for this, but have to correspond. Runs
that part over an answer can still look the same from outside, where only the questions show
(`Plan.shown`).
-/

namespace AppDeploy

variable {S : Service} {ω ω' : Type}

/-- What shows of an event: the note, or the request without its answer. -/
def Event.shown : Event S → Note ⊕ S.Request
  | .noted n => .inl n
  | .asked q _ => .inr q

/-- Two worlds answer some requests alike: in states that correspond, and so that they come
to states that correspond again. -/
def World.Alike (Corresponds : ω → ω' → Prop) (Asked : S.Request → Prop) (w : World S ω)
    (w' : World S ω') : Prop :=
  ∀ q state state', Asked q → Corresponds state state' →
    (w'.answer q state').1 = (w.answer q state).1 ∧
    Corresponds (w.answer q state).2 (w'.answer q state').2

theorem exchanges_append (before after : List (Event S)) :
    exchanges (before ++ after) = exchanges before ++ exchanges after :=
  List.filterMap_append

namespace Plan

variable {α β : Type}

theorem run_bind (w : World S ω) (p : Plan S α) (f : α → Plan S β) (state : ω) :
    run w (p.bind f) state =
      ((run w p state).1 ++ (run w (f (run w p state).2.1) (run w p state).2.2).1,
        (run w (f (run w p state).2.1) (run w p state).2.2).2) := by
  induction p generalizing state with
  | done a => rfl
  | note n next ih =>
    simp only [bind_note, run, ih]
    rfl
  | ask q next ih =>
    simp only [bind_ask, run, ih]
    rfl

/-- Every answer in a run was given by the world, in some state. -/
theorem answer_of_run (w : World S ω) (p : Plan S α) (state : ω) :
    ∀ x ∈ exchanges (run w p state).1, ∃ between, x.answer = (w.answer x.request between).1 := by
  induction p generalizing state with
  | done a => exact List.forall_mem_nil _
  | note n next ih => exact ih state
  | ask q next ih => exact List.forall_mem_cons.2 ⟨⟨state, rfl⟩, ih _ _⟩

/-- A plan runs in the same way in two worlds that answer alike all that it asks. -/
theorem run_congr {w : World S ω} {w' : World S ω'} {Corresponds : ω → ω' → Prop}
    {Asked : S.Request → Prop} (h : w.Alike Corresponds Asked w') (p : Plan S α) {state : ω}
    {state' : ω'} (hstate : Corresponds state state')
    (hasked : ∀ x ∈ exchanges (run w p state).1, Asked x.request) :
    (run w' p state').1 = (run w p state).1 ∧ (run w' p state').2.1 = (run w p state).2.1 ∧
      Corresponds (run w p state).2.2 (run w' p state').2.2 := by
  induction p generalizing state state' with
  | done a => exact ⟨rfl, rfl, hstate⟩
  | note n next ih =>
    obtain ⟨hevents, hresult, hafter⟩ := ih hstate hasked
    refine ⟨?_, hresult, hafter⟩
    simp only [run, hevents]
  | ask q next ih =>
    obtain ⟨hq, hrest⟩ := List.forall_mem_cons.1 hasked
    obtain ⟨hanswer, hnext⟩ := h q state state' hq hstate
    obtain ⟨hevents, hresult, hafter⟩ := ih (w.answer q state).1 hnext hrest
    -- The answer is the same, and so the run goes on in the same branch.
    simp only [run, hanswer]
    refine ⟨?_, hresult, hafter⟩
    rw [hevents]

/-- What shows of a run: what shows of its events, and its result. -/
def shown (w : World S ω) (p : Plan S α) (state : ω) : List (Note ⊕ S.Request) × α :=
  ((run w p state).1.map Event.shown, (run w p state).2.1)

theorem shown_bind (w : World S ω) (p : Plan S α) (f : α → Plan S β) (state : ω) :
    shown w (p.bind f) state =
      ((shown w p state).1 ++ (shown w (f (run w p state).2.1) (run w p state).2.2).1,
        (shown w (f (run w p state).2.1) (run w p state).2.2).2) := by
  simp only [shown, run_bind, List.map_append]

theorem shown_request_bind (w : World S ω) (q : S.Request) (f : S.Answer q → Plan S β)
    (state : ω) :
    shown w ((request q).bind f) state =
      (.inr q :: (shown w (f (w.answer q state).1) (w.answer q state).2).1,
        (shown w (f (w.answer q state).1) (w.answer q state).2).2) :=
  rfl

/-- Two plans that begin in lockstep show the same if what they go on with does. -/
theorem shown_bind_congr {w : World S ω} {w' : World S ω'} {Corresponds : ω → ω' → Prop}
    {Asked : S.Request → Prop} (h : w.Alike Corresponds Asked w') (p : Plan S α)
    {f g : α → Plan S β} {state : ω} {state' : ω'} (hstate : Corresponds state state')
    (hasked : ∀ x ∈ exchanges (run w p state).1, Asked x.request)
    (hrest : ∀ after', Corresponds (run w p state).2.2 after' →
      shown w' (g (run w p state).2.1) after' =
        shown w (f (run w p state).2.1) (run w p state).2.2) :
    shown w' (p.bind g) state' = shown w (p.bind f) state := by
  obtain ⟨hevents, hresult, hafter⟩ := run_congr h p hstate hasked
  have hfirst : (shown w' p state').1 = (shown w p state).1 := by
    rw [shown, shown, hevents]
  rw [shown_bind, shown_bind, hresult, hrest _ hafter, hfirst]

end Plan

/-! ## Plans that can fail -/

namespace Task

variable {α β ε ε' : Type}

/-- How a plan goes on after what was found, or ends with a failure. -/
def goOn (wrap : ε' → ε) (f : α → Task S ε β) : Except ε' α → Plan S (Except ε β)
  | .error e => .done (.error (wrap e))
  | .ok a => (f a).run

theorem run_bind {t : Task S ε α} {f : α → Task S ε β} :
    (t >>= f).run = t.run.bind (goOn id f) := by
  refine congrArg (Plan.bind t.run) ?_
  funext found
  cases found <;> rfl

/-- A run that has failed by then does not go on. -/
theorem run_bind_error {t : Task S ε α} {f : α → Task S ε β} {w : World S ω} {state : ω} {e : ε}
    (h : (Plan.run w t.run state).2.1 = .error e) :
    Plan.run w (t >>= f).run state =
      ((Plan.run w t.run state).1, .error e, (Plan.run w t.run state).2.2) := by
  rw [run_bind, Plan.run_bind, h]
  simp [goOn, Plan.run]

theorem run_bind_ok {t : Task S ε α} {f : α → Task S ε β} {w : World S ω} {state : ω} {a : α}
    (h : (Plan.run w t.run state).2.1 = .ok a) :
    Plan.run w (t >>= f).run state =
      ((Plan.run w t.run state).1 ++ (Plan.run w (f a).run (Plan.run w t.run state).2.2).1,
        (Plan.run w (f a).run (Plan.run w t.run state).2.2).2) := by
  rw [run_bind, Plan.run_bind, h]
  rfl

theorem run_attempt_bind {wrap : ε' → ε} {p : Plan S (Except ε' α)} {f : α → Task S ε β} :
    (attempt wrap p >>= f).run = p.bind (goOn wrap f) := by
  refine (Plan.bind_assoc ..).trans ?_
  congr
  funext found
  cases found <;> rfl

theorem run_lift_bind {p : Plan S α} {f : α → Task S ε β} :
    ((ExceptT.lift p : Task S ε α) >>= f).run = p.bind fun a => (f a).run :=
  Plan.bind_assoc ..

end Task

end AppDeploy
