import AppDeploy.Proofs.Plan.Notes

/-!
# Plans for any console

A plan is voiced if the console has no part in it beyond showing what is said
(`Plan.Voiced`): for every console it is the same tree of questions, and on its branches the
same things are said (`Saying`). This is read off the plan as it is built, part by part. Its runs
then ask the same and have the same result under every console, and what they note is what was
said, as the console shows it (`Plan.run_of_voiced`).
-/

namespace AppDeploy

/-! ## What is said -/

/-- Something that is said: a heading or a detail, which some consoles leave out, a remark, or an
entry of the log. -/
inductive Saying where
  | heading (message : String)
  | detail (message : String)
  | remark (a : Advisory)
  | entry (e : LogEntry)

namespace Saying

/-- The lines of a console for something that is said. -/
def lines (console : Console) : Saying → List Line
  | heading message => console.progress message
  | detail message => console.detail message
  | remark a => console.warning a.message
  | entry _ => []

/-- What is noted of it whatever the console. -/
def kept : Saying → List Note
  | heading _ | detail _ => []
  | remark a => a.keep
  | entry e => [.logged e]

def notes (console : Console) (s : Saying) : List Note :=
  (s.lines console).map .printed ++ s.kept

/-- A remark is kept, and nothing else is. -/
def remark? : Saying → Option Advisory
  | remark a => some a
  | _ => none

/-- What is picked from all notes but the lines is the same for every console. -/
theorem filterMap_notes {γ : Type} {pick : Note → Option γ}
    (hpick : ∀ line, pick (.printed line) = none) (console : Console) (said : List Saying) :
    (said.flatMap (notes console)).filterMap pick = (said.flatMap kept).filterMap pick := by
  have silent : ∀ lines : List Line, (lines.map .printed).filterMap pick = [] := by
    intro lines
    simp [List.filterMap_map, hpick]
  induction said with
  | nil => rfl
  | cons s said ih =>
    simp only [List.flatMap_cons, List.filterMap_append, notes, silent, List.nil_append, ih]

theorem advisory?_kept (said : List Saying) :
    (said.flatMap kept).filterMap Note.advisory? = said.filterMap remark? := by
  induction said with
  | nil => rfl
  | cons s said ih =>
    rw [List.flatMap_cons, List.filterMap_append, ih]
    cases s <;> rfl

theorem line?_notes (console : Console) (said : List Saying) :
    (said.flatMap (notes console)).filterMap Note.line? = said.flatMap (lines console) := by
  have silent : ∀ s : Saying, s.kept.filterMap Note.line? = [] := by
    intro s
    cases s <;> rfl
  induction said with
  | nil => rfl
  | cons s said ih =>
    have printed : ((s.lines console).map Note.printed).filterMap Note.line? = s.lines console := by
      simp [List.filterMap_map, Function.comp_def, Note.line?]
    rw [List.flatMap_cons, List.filterMap_append, ih, notes, List.filterMap_append, printed,
      silent, List.append_nil, List.flatMap_cons]

/-- A console without headings and details shows the remarks and nothing else. -/
theorem lines_of_not_normal {console : Console} (h : console.mode ≠ .normal)
    (said : List Saying) :
    said.flatMap (lines console) =
      (said.filterMap remark?).flatMap fun a => console.warning a.message := by
  induction said with
  | nil => rfl
  | cons s said ih =>
    rw [List.flatMap_cons, ih]
    cases s with
    | heading message => rw [lines, Console.progress, if_neg h]; rfl
    | detail message => rw [lines, Console.detail, if_neg h]; rfl
    | remark a => rfl
    | entry e => rfl

/-- On the stream of errors there are only remarks. -/
theorem err_lines (console : Console) (said : List Saying) :
    (said.flatMap (lines console)).filter (·.stream = .err) =
      (said.filterMap remark?).flatMap fun a =>
        (console.warning a.message).filter (·.stream = .err) := by
  have out : ∀ message, (console.progress message).filter (·.stream = .err) = [] ∧
      (console.detail message).filter (·.stream = .err) = [] := by
    intro message
    simp only [Console.progress, Console.detail]
    split <;> exact ⟨rfl, rfl⟩
  induction said with
  | nil => rfl
  | cons s said ih =>
    rw [List.flatMap_cons, List.filter_append, ih]
    cases s with
    | heading message => rw [lines, (out message).1]; rfl
    | detail message => rw [lines, (out message).2]; rfl
    | remark a => rfl
    | entry e => rfl

end Saying

namespace Plan

variable {S : Service} {α β ω : Type}

theorem notes_append (first rest : List Note) :
    (notes (first ++ rest) : Plan S Unit) = (notes first).bind fun _ => notes rest := by
  induction first with
  | nil => rfl
  | cons n first ih => rw [List.cons_append, notes, ih, notes, bind_note]

/-! ## Plans -/

/-- A plan that depends on the console only by what that makes of the things that are said. -/
inductive Voiced : (Console → Plan S α) → Prop where
  | done (a : α) : Voiced fun _ => .done a
  | say (s : Saying) {p : Console → Plan S α} (h : Voiced p) :
      Voiced fun console => (notes (s.notes console)).bind fun _ => p console
  | ask {q : S.Request} {next : S.Answer q → Console → Plan S α}
      (h : ∀ answer, Voiced (next answer)) :
      Voiced fun console => .ask q fun answer => next answer console

theorem voiced_request (q : S.Request) :
    Voiced (S := S) (α := S.Answer q) fun _ => request q :=
  .ask .done

theorem voiced_bind {p : Console → Plan S α} {f : α → Console → Plan S β} (h : Voiced p)
    (hf : ∀ a, Voiced (f a)) : Voiced fun console => (p console).bind fun a => f a console := by
  induction h with
  | done a => exact hf a
  | say s _ ih =>
    simp only [bind_assoc]
    exact .say s ih
  | ask _ ih => exact .ask ih

theorem voiced_map {p : Console → Plan S α} (h : Voiced p) (f : α → β) :
    Voiced fun console => (p console).bind fun a => .done (f a) :=
  voiced_bind h fun a => .done (f a)

theorem voiced_notes (said : List Saying) :
    Voiced (S := S) fun console => notes (said.flatMap (Saying.notes console)) := by
  induction said with
  | nil => exact .done ()
  | cons s said ih =>
    simp only [List.flatMap_cons, notes_append]
    exact .say s ih

/-- Under every console a voiced plan asks the same and comes to the same, and notes what it says
in between. -/
theorem run_of_voiced {p : Console → Plan S α} (h : Voiced p) (w : World S ω) (state : ω) :
    ∃ (said : List Saying) (asked : List (Exchange S)) (result : α × ω), ∀ console,
      noted (run w (p console) state).1 = said.flatMap (Saying.notes console) ∧
      exchanges (run w (p console) state).1 = asked ∧ (run w (p console) state).2 = result := by
  induction h generalizing state with
  | done a => exact ⟨[], [], (a, state), fun _ => ⟨rfl, rfl, rfl⟩⟩
  | say s _ ih =>
    obtain ⟨said, asked, result, hrun⟩ := ih state
    refine ⟨s :: said, asked, result, fun console => ?_⟩
    obtain ⟨hsaid, hasked, hresult⟩ := hrun console
    rw [noted_bind, run_bind, run_notes]
    refine ⟨?_, ?_, hresult⟩
    · rw [hsaid, List.flatMap_cons]
      simp [noted, List.filterMap_map, Function.comp_def, Event.note?]
    · rw [exchanges_append, hasked]
      simp [exchanges, List.filterMap_map, Function.comp_def, Event.exchange?]
  | @ask q next _ ih =>
    obtain ⟨said, asked, result, hrun⟩ := ih (w.answer q state).1 (w.answer q state).2
    refine ⟨said, ⟨q, (w.answer q state).1⟩ :: asked, result, fun console => ?_⟩
    obtain ⟨hsaid, hasked, hresult⟩ := hrun console
    exact ⟨hsaid, congrArg (_ :: ·) hasked, hresult⟩

end Plan

/-! ## Plans that can fail -/

namespace Task

variable {S : Service} {α β ε ε' : Type}

def Voiced (t : Console → Task S ε α) : Prop :=
  Plan.Voiced fun console => (t console).run

theorem voiced_bind {t : Console → Task S ε α} {f : α → Console → Task S ε β} (h : Voiced t)
    (hf : ∀ a, Voiced (f a)) : Voiced fun console => t console >>= fun a => f a console := by
  refine Plan.voiced_bind h fun found => ?_
  cases found with
  | error e => exact .done _
  | ok a => exact hf a

theorem voiced_pure (a : α) : Voiced fun _ => (pure a : Task S ε α) :=
  Plan.Voiced.done _

theorem voiced_throw (e : ε) : Voiced fun _ => (throw e : Task S ε α) :=
  Plan.Voiced.done _

theorem voiced_fromExcept (wrap : ε' → ε) (found : Except ε' α) :
    Voiced fun _ => (fromExcept wrap found : Task S ε α) :=
  Plan.Voiced.done _

theorem voiced_attempt {p : Console → Plan S (Except ε' α)} (wrap : ε' → ε) (h : Plan.Voiced p) :
    Voiced fun console => (attempt wrap (p console) : Task S ε α) :=
  Plan.voiced_map h _

theorem voiced_adapt {t : Console → Task S ε' α} (wrap : ε' → ε) (h : Voiced t) :
    Voiced fun console => ((t console).adapt wrap : Task S ε α) :=
  voiced_attempt wrap h

theorem voiced_lift {p : Console → Plan S α} (h : Plan.Voiced p) :
    Voiced fun console => (ExceptT.lift (p console) : Task S ε α) :=
  Plan.voiced_map h _

theorem voiced_print (s : Saying) (h : s.kept = []) :
    Voiced fun console => (print (s.lines console) : Task S ε Unit) := by
  have said := voiced_lift (ε := ε) (Plan.voiced_notes (S := S) [s])
  simp only [List.flatMap_cons, List.flatMap_nil, Saying.notes, h, List.append_nil] at said
  exact said

theorem voiced_progress (message : String) :
    Voiced fun console => (print (console.progress message) : Task S ε Unit) :=
  voiced_print (.heading message) rfl

theorem voiced_detail (message : String) :
    Voiced fun console => (print (console.detail message) : Task S ε Unit) :=
  voiced_print (.detail message) rfl

theorem voiced_reports (found : List Advisory) :
    Voiced fun console => (notes (found.flatMap (Advisory.report console)) : Task S ε Unit) := by
  have said := voiced_lift (ε := ε) (Plan.voiced_notes (S := S) (found.map .remark))
  simp only [List.flatMap_map] at said
  exact said

end Task

end AppDeploy
