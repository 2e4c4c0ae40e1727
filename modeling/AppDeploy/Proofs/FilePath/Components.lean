import AppDeploy.Proofs.FilePath.NormalForm

/-!
# Components of paths

The components of a path stand between its slashes, empty ones and dots among them. They are
simplified one at a time (`Simplifies`), in any order, until only names are left (`ReducesTo`).
However that is done, it ends at the same names, and going through the components one after the
other ends there too (`reducesTo_iff`).
-/

namespace AppDeploy.FilePath

/-- What stands between the slashes of a path. -/
def components (path : String) : List String :=
  (path.toList.splitOn '/').map String.ofList

/-- The components of a path that is seen from a place with some components. -/
def componentsFrom (before : List String) (path : String) : List String :=
  if isAbsolute path then components path else before ++ components path

/-- A component that leads on to a place of this name. -/
def LeadsOn (s : String) : Prop :=
  s ≠ "" ∧ s ≠ "." ∧ s ≠ ".."

/-- Components are simplified: one that is empty or a single dot is dropped, and two dots take
away the name before them, or only themselves at the root. -/
inductive Simplifies : List String → List String → Prop where
  | idle (before after : List String) {s : String} (h : s = "" ∨ s = ".") :
      Simplifies (before ++ s :: after) (before ++ after)
  | back (before after : List String) {name : String} (h : LeadsOn name) :
      Simplifies (before ++ name :: ".." :: after) (before ++ after)
  | root (after : List String) : Simplifies (".." :: after) after

/-- Components are simplified until only names are left. -/
structure ReducesTo (components names : List String) : Prop where
  simplifies : Relation.ReflTransGen Simplifies components names
  settled : ∀ s ∈ names, LeadsOn s

variable {cs names : List String} {s : String}

/-! ## Steps among the components -/

/-- Whether a component is a step. -/
def isStepText (s : String) : Bool :=
  !isIdle s.toList

theorem isIdle_iff : isIdle s.toList = true ↔ s = "" ∨ s = "." := by
  have hdot : s.toList = ['.'] ↔ s = "." := by
    rw [← String.toList_inj]
    rfl
  rw [isIdle, Bool.or_eq_true, List.isEmpty_iff, decide_eq_true_iff, String.toList_eq_nil_iff, hdot]

theorem not_isStepText_of_idle (h : s = "" ∨ s = ".") : ¬isStepText s = true := by
  rw [isStepText, isIdle_iff.2 h]
  exact Bool.false_ne_true

theorem isStepText_of_leadsOn (h : LeadsOn s) : isStepText s = true := by
  rw [isStepText, Bool.not_eq_true', ← Bool.not_eq_true, isIdle_iff, not_or]
  exact ⟨h.1, h.2.1⟩

theorem leadsOn_of_isName (h : IsName s) : LeadsOn s := by
  have hstep := h.notIdle
  rw [← Bool.not_eq_true, isIdle_iff, not_or] at hstep
  exact ⟨hstep.1, hstep.2, h.notBack⟩

theorem steps_eq_filter (path : String) : steps path = (components path).filter isStepText := by
  rw [steps, pieces_eq_splitOn, components, List.filter_map]
  congr 2
  funext piece
  rw [Function.comp_apply, isStepText, String.toList_ofList]

theorem stepsFrom_of_isAbsolute (before : List String) {path : String}
    (h : isAbsolute path = true) : stepsFrom before path = steps path := by
  rw [stepsFrom, if_pos h]

theorem componentsFrom_of_isAbsolute (before : List String) {path : String}
    (h : isAbsolute path = true) : componentsFrom before path = components path := by
  rw [componentsFrom, if_pos h]

theorem stepsFrom_empty (before : List String) : stepsFrom before "" = before :=
  List.append_nil before

theorem stepsFrom_filter (before : List String) (path : String) :
    stepsFrom (before.filter isStepText) path = (componentsFrom before path).filter isStepText := by
  rw [stepsFrom, componentsFrom, steps_eq_filter]
  split
  · rfl
  · rw [List.filter_append]

/-! ## What components come to -/

theorem reduce_of_simplifies {rest : List String} (h : Simplifies cs rest) :
    reduce (cs.filter isStepText) = reduce (rest.filter isStepText) := by
  cases h with
  | idle before after hidle =>
    rw [List.filter_append, List.filter_cons_of_neg (not_isStepText_of_idle hidle),
      List.filter_append]
  | back before after hname =>
    rw [List.filter_append, List.filter_cons_of_pos (isStepText_of_leadsOn hname),
      List.filter_cons_of_pos rfl, List.filter_append]
    exact reduce_of_cancels (.name _ _ hname.2.2)
  | root after =>
    rw [List.filter_cons_of_pos rfl]
    exact reduce_of_cancels (.root _)

theorem reduce_of_simplifies_all {rest : List String}
    (h : Relation.ReflTransGen Simplifies cs rest) :
    reduce (cs.filter isStepText) = reduce (rest.filter isStepText) := by
  induction h with
  | refl => rfl
  | tail _ hlast ih => exact ih.trans (reduce_of_simplifies hlast)

/-- From names, the components that follow are gone through one after the other. -/
theorem reducesTo_foldl_goto (h : ∀ s ∈ names, LeadsOn s) :
    ReducesTo (names ++ cs) ((cs.filter isStepText).foldl goto names) := by
  induction cs generalizing names with
  | nil =>
    rw [List.append_nil]
    exact ⟨.refl, h⟩
  | cons s rest ih =>
    by_cases hidle : s = "" ∨ s = "."
    · obtain ⟨hrest, hsettled⟩ := ih h
      rw [List.filter_cons_of_neg (not_isStepText_of_idle hidle)]
      exact ⟨hrest.head (.idle names rest hidle), hsettled⟩
    by_cases hback : s = ".."
    · subst hback
      rw [List.filter_cons_of_pos rfl, List.foldl_cons, goto, if_pos rfl]
      rcases List.eq_nil_or_concat names with rfl | ⟨before, name, rfl⟩
      · obtain ⟨hrest, hsettled⟩ := ih h
        exact ⟨hrest.head (.root rest), hsettled⟩
      · rw [List.concat_eq_append] at h ⊢
        obtain ⟨hbefore, hname⟩ := List.forall_mem_append.1 h
        obtain ⟨hrest, hsettled⟩ := ih hbefore
        rw [List.append_assoc, List.dropLast_concat]
        exact ⟨hrest.head (.back before rest (hname name (List.mem_singleton_self name))), hsettled⟩
    · have hname : LeadsOn s := ⟨fun h => hidle (.inl h), fun h => hidle (.inr h), hback⟩
      have hnames : ∀ t ∈ names ++ [s], LeadsOn t :=
        List.forall_mem_append.2 ⟨h, List.forall_mem_singleton.2 hname⟩
      rw [List.filter_cons_of_pos (isStepText_of_leadsOn hname), List.foldl_cons, goto,
        if_neg hback, List.append_cons]
      exact ih hnames

/-- Components come to the same names in whatever order they are simplified. -/
theorem reducesTo_iff : ReducesTo cs names ↔ names = reduce (cs.filter isStepText) := by
  constructor
  · intro h
    have hsteps : names.filter isStepText = names :=
      List.filter_eq_self.2 fun s hs => isStepText_of_leadsOn (h.settled s hs)
    have hback : ".." ∉ names := fun hmem => (h.settled ".." hmem).2.2 rfl
    rw [reduce_of_simplifies_all h.simplifies, hsteps, reduce, foldl_goto_of_notMem hback,
      List.nil_append]
  · rintro rfl
    exact reducesTo_foldl_goto (List.forall_mem_nil _)

end AppDeploy.FilePath
