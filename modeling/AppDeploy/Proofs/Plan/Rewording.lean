import AppDeploy.Proofs.Plan.Lockstep
import AppDeploy.Proofs.Plan.Within
import Mathlib.Logic.Basic

/-!
# Plans in other words

Two plans can ask the same things in the same order and word some of them differently
(`Plan.reword`). Where those who answer do not look at what is worded differently
(`World.AlikeSeeing`), such plans run alike: what the one asks is what the other asks, in other
words, and they come to the same result (`Plan.run_reword`). A plan that is done where the other
goes on begins like it (`Task.Begun`).
-/

namespace AppDeploy

variable {S : Service} {ω ω' : Type}

/-- Other words for requests, with answers of the same type. -/
structure Rewording (S : Service) where
  request : S.Request → S.Request
  answer_eq : ∀ q, S.Answer (request q) = S.Answer q

namespace Rewording

variable (f : Rewording S)

/-- An exchange in other words, with the answer it had. -/
def exchange (x : Exchange S) : Exchange S :=
  ⟨f.request x.request, cast (f.answer_eq x.request).symm x.answer⟩

def event : Event S → Event S
  | .noted n => .noted n
  | .asked q a => .asked (f.request q) (cast (f.answer_eq q).symm a)

/-- What shows of an event, in other words. -/
def shown : Note ⊕ S.Request → Note ⊕ S.Request :=
  Sum.map id f.request

theorem exchanges_map_event (events : List (Event S)) :
    exchanges (events.map f.event) = (exchanges events).map f.exchange := by
  induction events with
  | nil => rfl
  | cons e rest ih =>
    cases e with
    | noted n => exact ih
    | asked q a => exact congrArg (f.exchange ⟨q, a⟩ :: ·) ih

theorem shown_event (e : Event S) : (f.event e).shown = f.shown e.shown := by
  cases e <;> rfl

end Rewording

/-- Two worlds answer alike all that is the same to them. -/
def World.AlikeSeeing (view : Rewording S) (Corresponds : ω → ω' → Prop) (w : World S ω)
    (w' : World S ω') : Prop :=
  ∀ q q' state state', view.request q' = view.request q → Corresponds state state' →
    HEq (w'.answer q' state').1 (w.answer q state).1 ∧
    Corresponds (w.answer q state).2 (w'.answer q' state').2

/-- A world that does not see more of a request than the view of it. -/
def World.seeing (view : Rewording S) (w : World S ω) : World S ω where
  answer q state :=
    (cast (view.answer_eq q) (w.answer (view.request q) state).1,
      (w.answer (view.request q) state).2)

theorem World.alikeSeeing_seeing (view : Rewording S) (w : World S ω) :
    (w.seeing view).AlikeSeeing view Eq (w.seeing view) := by
  intro q q' state state' hview hstate
  subst hstate
  simp only [seeing]
  refine ⟨(cast_heq _ _).trans (.trans ?_ (cast_heq _ _).symm), ?_⟩
  · rw [hview]
  · rw [hview]

namespace Plan

variable {α β : Type} {f : Rewording S}

/-- A plan that asks in other words. -/
def reword (f : Rewording S) : Plan S α → Plan S α
  | done a => done a
  | note n next => note n (reword f next)
  | ask q next => ask (f.request q) fun answer => reword f (next (cast (f.answer_eq q) answer))

theorem reword_bind (p : Plan S α) (g : α → Plan S β) :
    (p.bind g).reword f = (p.reword f).bind fun a => (g a).reword f := by
  induction p with
  | done a => rfl
  | note n next ih => rw [bind_note, reword, ih, reword, bind_note]
  | ask q next ih =>
    rw [bind_ask, reword, reword, bind_ask]
    congr
    funext answer
    exact ih _

theorem ask_cast {q q' : S.Request} (hq : q' = q) (h : S.Answer q' = S.Answer q)
    (next : S.Answer q → Plan S α) : (ask q' fun answer => next (cast h answer)) = ask q next := by
  subst hq
  rfl

/-- A plan whose requests are all left as they are is left as it is. -/
theorem reword_of_within {P : S.Request → Prop} {p : Plan S α} (h : p.Within P)
    (hf : ∀ q, P q → f.request q = q) : p.reword f = p := by
  induction h with
  | done a => rfl
  | note _ ih => rw [reword, ih]
  | @ask q next hq _ ih =>
    simp only [reword, ih]
    exact ask_cast (hf q hq) _ next

/-- In a world to which other words are the same, a plan in these words runs in the same way. -/
theorem run_reword {view : Rewording S} {w : World S ω} {w' : World S ω'}
    {Corresponds : ω → ω' → Prop} (h : w.AlikeSeeing view Corresponds w') (p : Plan S α)
    {state : ω} {state' : ω'} (hstate : Corresponds state state')
    (hview : ∀ x ∈ exchanges (run w p state).1,
      view.request (f.request x.request) = view.request x.request) :
    (run w' (p.reword f) state').1 = (run w p state).1.map f.event ∧
      (run w' (p.reword f) state').2.1 = (run w p state).2.1 ∧
      Corresponds (run w p state).2.2 (run w' (p.reword f) state').2.2 := by
  induction p generalizing state state' with
  | done a => exact ⟨rfl, rfl, hstate⟩
  | note n next ih =>
    obtain ⟨hevents, hresult, hafter⟩ := ih hstate hview
    refine ⟨?_, hresult, hafter⟩
    simp only [reword, run, hevents]
    rfl
  | ask q next ih =>
    obtain ⟨hq, hrest⟩ := List.forall_mem_cons.1 hview
    obtain ⟨hanswer, hnext⟩ := h q (f.request q) state state' hq hstate
    obtain ⟨hevents, hresult, hafter⟩ := ih (w.answer q state).1 hnext hrest
    -- The answer is the same, and so the run goes on in the same branch.
    have hcast : cast (f.answer_eq q) (w'.answer (f.request q) state').1 =
        (w.answer q state).1 := cast_eq_iff_heq.2 hanswer
    have hback : (w'.answer (f.request q) state').1 =
        cast (f.answer_eq q).symm (w.answer q state).1 := (cast_eq_iff_heq.2 hanswer.symm).symm
    simp only [reword, run, hcast]
    refine ⟨?_, hresult, hafter⟩
    rw [hevents, hback]
    rfl

end Plan

/-! ## Plans that can fail -/

namespace Task

variable {α β ε ε' : Type} {f : Rewording S}

/-- A plan that can fail and asks in other words. -/
def reword (f : Rewording S) (t : Task S ε α) : Task S ε α :=
  ExceptT.mk (t.run.reword f)

theorem reword_bind (t : Task S ε α) (g : α → Task S ε β) :
    (t >>= g).reword f = t.reword f >>= fun a => (g a).reword f := by
  refine (Plan.reword_bind ..).trans ?_
  refine congrArg (Plan.bind (t.run.reword f)) ?_
  funext found
  cases found <;> rfl

theorem reword_attempt (wrap : ε' → ε) (p : Plan S (Except ε' α)) :
    (attempt wrap p).reword f = attempt wrap (p.reword f) :=
  Plan.reword_bind ..

theorem reword_adapt (wrap : ε' → ε) (t : Task S ε' α) :
    reword f (t.adapt wrap) = ExceptT.adapt wrap (t.reword f) :=
  reword_attempt wrap t.run

theorem fromExcept_map_bind {γ : Type} (wrap : ε' → ε) (g : γ → α) (found : Except ε' γ)
    (h : α → Task S ε β) :
    (fromExcept wrap (found.map g) : Task S ε α) >>= h =
      (fromExcept wrap found : Task S ε γ) >>= fun c => h (g c) := by
  cases found <;> rfl

@[simp] theorem reword_pure (a : α) : (pure a : Task S ε α).reword f = pure a := rfl

@[simp] theorem reword_fromExcept (wrap : ε' → ε) (found : Except ε' α) :
    (fromExcept wrap found : Task S ε α).reword f = fromExcept wrap found := rfl

theorem reword_of_within {P : S.Request → Prop} {t : Task S ε α} (h : t.Within P)
    (hf : ∀ q, P q → f.request q = q) : t.reword f = t :=
  Plan.reword_of_within h hf

@[simp] theorem reword_notes (ns : List Note) :
    (notes ns : Task S ε Unit).reword f = notes ns :=
  reword_of_within (within_notes ns) fun _ => False.elim

@[simp] theorem reword_print (lines : List Line) :
    (print lines : Task S ε Unit).reword f = print lines :=
  reword_notes _

/-- A plan that goes on after its first part, and one that is done then: what the two do in worlds
to which the words of the second are the same. -/
inductive Begun (f : Rewording S) (t : Task S ε α) (k : α → Task S ε β) (g : α → β) :
    List (Exchange S) → Except ε β → List (Exchange S) → Except ε β → Prop where
  | failed {calls : List (Exchange S)} {e : ε} (h : Runs t calls (.error e)) :
      Begun f t k g calls (.error e) (calls.map f.exchange) (.error e)
  | goesOn {first later : List (Exchange S)} {a : α} {outcome : Except ε β}
      (h : Runs t first (.ok a)) (hlater : Runs (k a) later outcome) :
      Begun f t k g (first ++ later) outcome (first.map f.exchange) (.ok (g a))

theorem begun_of_run {view : Rewording S} {w : World S ω} {w' : World S ω'}
    {Corresponds : ω → ω' → Prop} (h : w.AlikeSeeing view Corresponds w')
    (hf : ∀ q, view.request (f.request q) = view.request q) (t : Task S ε α)
    (k : α → Task S ε β) (g : α → β) {state : ω} {state' : ω'} (hstate : Corresponds state state') :
    Begun f t k g (exchanges (Plan.run w (t >>= k).run state).1)
      (Plan.run w (t >>= k).run state).2.1
      (exchanges (Plan.run w' (t.reword f >>= fun a => pure (g a)).run state').1)
      (Plan.run w' (t.reword f >>= fun a => pure (g a)).run state').2.1 := by
  obtain ⟨hevents, hresult, -⟩ := Plan.run_reword h t.run hstate fun x _ => hf x.request
  have hcalls' : exchanges (Plan.run w' (t.reword f).run state').1 =
      (exchanges (Plan.run w t.run state).1).map f.exchange := by
    rw [← f.exchanges_map_event, ← hevents]
    rfl
  have hfound' : (Plan.run w' (t.reword f).run state').2.1 = (Plan.run w t.run state).2.1 := hresult
  have hruns := Plan.runs_run w t.run state
  cases hfound : (Plan.run w t.run state).2.1 with
  | error e =>
    rw [hfound] at hruns
    rw [run_bind_error hfound, run_bind_error (hfound'.trans hfound), hcalls']
    exact .failed hruns
  | ok a =>
    rw [hfound] at hruns
    rw [run_bind_ok hfound, run_bind_ok (hfound'.trans hfound), exchanges_append,
      exchanges_append, hcalls']
    show Begun f t k g _ _ (_ ++ []) (.ok (g a))
    rw [List.append_nil]
    exact .goesOn hruns (Plan.runs_run w _ _)

end Task

end AppDeploy
