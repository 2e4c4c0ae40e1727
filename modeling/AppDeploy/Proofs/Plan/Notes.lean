import AppDeploy.Proofs.Plan.Lockstep

/-!
# The notes of a run

What a run notes, in order (`noted`), and the remarks among it (`remarks`). The notes of a
composed plan are those of its parts; requests leave none behind.
-/

namespace AppDeploy

variable {S : Service} {ω : Type}

/-- What was noted. -/
def noted (events : List (Event S)) : List Note :=
  events.filterMap Event.note?

/-- The remarks that were kept. -/
def remarks (events : List (Event S)) : List Advisory :=
  (noted events).filterMap Note.advisory?

theorem remarks_report (console : Console) (a : Advisory) :
    (a.report console).filterMap Note.advisory? = [a] := by
  have hlines : ((console.warning a.message).map Note.printed).filterMap Note.advisory? = [] := by
    simp [List.filterMap_map, Function.comp_def, Note.advisory?]
  rw [Advisory.report, List.filterMap_append, hlines]
  rfl

namespace Plan

variable {α β : Type} (w : World S ω) (state : ω)

theorem noted_bind (p : Plan S α) (f : α → Plan S β) :
    noted (run w (p.bind f) state).1 =
      noted (run w p state).1 ++
        noted (run w (f (run w p state).2.1) (run w p state).2.2).1 := by
  rw [run_bind]
  exact List.filterMap_append

theorem remarks_bind (p : Plan S α) (f : α → Plan S β) :
    remarks (run w (p.bind f) state).1 =
      remarks (run w p state).1 ++
        remarks (run w (f (run w p state).2.1) (run w p state).2.2).1 := by
  rw [remarks, noted_bind, List.filterMap_append]
  rfl

theorem run_notes (ns : List Note) : run w (notes ns) state = (ns.map .noted, (), state) := by
  induction ns with
  | nil => rfl
  | cons n rest ih => rw [notes, run, ih, List.map_cons]

end Plan

namespace Task

variable {ε ε' α β : Type} (w : World S ω) (state : ω)

theorem noted_notes_bind (ns : List Note) (f : Unit → Task S ε β) :
    noted (Plan.run w (notes ns >>= f).run state).1 =
      ns ++ noted (Plan.run w (f ()).run state).1 := by
  rw [notes, run_lift_bind, Plan.noted_bind, Plan.run_notes]
  simp [noted, List.filterMap_map, Function.comp_def, Event.note?]

theorem remarks_notes_bind (ns : List Note) (f : Unit → Task S ε β) :
    remarks (Plan.run w (notes ns >>= f).run state).1 =
      ns.filterMap Note.advisory? ++ remarks (Plan.run w (f ()).run state).1 := by
  rw [remarks, noted_notes_bind, List.filterMap_append]
  rfl

theorem remarks_print_bind (lines : List Line) (f : Unit → Task S ε β) :
    remarks (Plan.run w (print lines >>= f).run state).1 =
      remarks (Plan.run w (f ()).run state).1 := by
  refine (remarks_notes_bind w state (lines.map .printed) f).trans ?_
  simp [List.filterMap_map, Function.comp_def, Note.advisory?]

/-- A plan that goes on after every result without a remark makes the remarks of its first
part. -/
theorem remarks_attempt_bind {wrap : ε' → ε} (p : Plan S (Except ε' α)) {f : α → Task S ε β}
    (hf : ∀ a state, remarks (Plan.run w (f a).run state).1 = []) :
    remarks (Plan.run w (attempt wrap p >>= f).run state).1 = remarks (Plan.run w p state).1 := by
  have hrest : ∀ found state, remarks (Plan.run w (goOn wrap f found) state).1 = [] := by
    intro found state
    cases found with
    | error e => rfl
    | ok a => exact hf a state
  rw [run_attempt_bind, Plan.remarks_bind]
  exact List.append_right_eq_self.2 (hrest _ _)

end Task

end AppDeploy
