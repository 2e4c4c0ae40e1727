import AppDeploy.Proofs.FilePath
import Mathlib.Logic.Relation

/-!
# What paths come to

Steps from the root lead to a place once every step back is taken away, together with the name
before it (`Cancels`, `LeadsTo`). Paths are gone through one after the other, and an absolute one
starts anew (`stepsAlong`). The normal form of some paths is the text of the place that they lead
to. There is exactly one (`isNormalForm_iff`), and a path that is joined to a base is cleaned to
the normal form of the two (`isNormalForm_clean_join`).
-/

namespace AppDeploy.FilePath

/-! ## Steps back -/

/-- A step back takes away the name before it, or nothing at the root. -/
inductive Cancels : List String → List String → Prop where
  | name (before : List String) {name : String} (after : List String) (h : name ≠ "..") :
      Cancels (before ++ name :: ".." :: after) (before ++ after)
  | root (after : List String) : Cancels (".." :: after) after

/-- The place that steps from the root lead to: no step back is left. -/
structure LeadsTo (steps place : List String) : Prop where
  cancels : Relation.ReflTransGen Cancels steps place
  settled : ".." ∉ place

theorem reduce_of_cancels {steps rest : List String} (h : Cancels steps rest) :
    reduce steps = reduce rest := by
  cases h with
  | name before after hname =>
    rw [reduce, reduce, List.foldl_append, List.foldl_append, List.foldl_cons, List.foldl_cons]
    simp [goto, hname]
  | root after => rfl

theorem reduce_of_cancels_all {steps rest : List String}
    (h : Relation.ReflTransGen Cancels steps rest) : reduce steps = reduce rest := by
  induction h with
  | refl => rfl
  | tail _ hlast ih => exact ih.trans (reduce_of_cancels hlast)

/-- From a place without steps back, the steps that follow take all of theirs away. -/
theorem leadsTo_foldl_goto {steps place : List String} (h : ".." ∉ place) :
    LeadsTo (place ++ steps) (steps.foldl goto place) := by
  induction steps generalizing place with
  | nil =>
    rw [List.append_nil]
    exact ⟨.refl, h⟩
  | cons step rest ih =>
    by_cases hstep : step = ".."
    · subst hstep
      rcases List.eq_nil_or_concat place with rfl | ⟨before, name, rfl⟩
      · obtain ⟨hcancels, hsettled⟩ := ih h
        exact ⟨hcancels.head (.root rest), hsettled⟩
      · simp only [List.concat_eq_append, List.mem_append, List.mem_singleton, not_or] at h
        obtain ⟨hcancels, hsettled⟩ := ih h.1
        rw [List.concat_eq_append, List.append_assoc, List.foldl_cons, goto, if_pos rfl,
          List.dropLast_concat]
        exact ⟨hcancels.head (.name before rest (Ne.symm h.2)), hsettled⟩
    · have hplace : ".." ∉ place ++ [step] := by simp [h, Ne.symm hstep]
      rw [List.foldl_cons, goto, if_neg hstep, List.append_cons]
      exact ih hplace

/-- Steps lead to exactly one place. -/
theorem leadsTo_iff {steps place : List String} :
    LeadsTo steps place ↔ place = reduce steps := by
  constructor
  · intro h
    rw [reduce_of_cancels_all h.cancels, reduce, foldl_goto_of_notMem h.settled, List.nil_append]
  · rintro rfl
    exact leadsTo_foldl_goto List.not_mem_nil

/-! ## Paths one after the other -/

/-- The steps of a path, seen from where some steps lead to. -/
def stepsFrom (before : List String) (path : String) : List String :=
  if isAbsolute path then steps path else before ++ steps path

/-- The steps of some paths that are gone through one after the other. -/
def stepsAlong (paths : List String) : List String :=
  paths.foldl stepsFrom []

/-- A text is the normal form of some paths, each of them seen from those before it. -/
def IsNormalForm (paths : List String) (text : String) : Prop :=
  ∃ place, LeadsTo (stepsAlong paths) place ∧ text = textOf place

theorem isNormalForm_iff {paths : List String} {text : String} :
    IsNormalForm paths text ↔ text = textOf (reduce (stepsAlong paths)) := by
  simp [IsNormalForm, leadsTo_iff]

theorem isNormalForm_unique {paths : List String} {text text' : String}
    (h : IsNormalForm paths text) (h' : IsNormalForm paths text') : text = text' :=
  (isNormalForm_iff.1 h).trans (isNormalForm_iff.1 h').symm

theorem stepsFrom_nil (path : String) : stepsFrom [] path = steps path := by
  rw [stepsFrom, List.nil_append, ite_self]

/-! ## Joined paths -/

theorem pieces_append_slash (before after : List Char) :
    pieces (before ++ '/' :: after) = pieces before ++ pieces after := by
  induction before with
  | nil => simp [pieces]
  | cons c rest ih =>
    rw [List.cons_append, pieces, pieces, ih]
    by_cases hc : c = '/'
    · simp [hc]
    · cases hpieces : pieces rest with
      | nil =>
        rw [pieces_eq_splitOn] at hpieces
        exact absurd hpieces (List.splitOn_ne_nil '/' rest)
      | cons piece more => simp [hc]

theorem steps_append_slash (before after : List Char) :
    steps (String.ofList (before ++ '/' :: after)) =
      steps (String.ofList before) ++ steps (String.ofList after) := by
  simp only [steps, String.toList_ofList, pieces_append_slash, List.filter_append, List.map_append]

/-- A slash at the end of a path makes no step. -/
theorem steps_concat_slash (before : List Char) :
    steps (String.ofList (before ++ ['/'])) = steps (String.ofList before) := by
  rw [steps_append_slash]
  exact List.append_nil _

theorem steps_join (base path : String) :
    steps (join base path) = stepsFrom (steps base) path := by
  rw [join, stepsFrom]
  by_cases hpath : isAbsolute path = true
  · simp [hpath]
  · rw [if_neg hpath]
    by_cases hempty : base.isEmpty = true
    · obtain rfl := String.isEmpty_iff.1 hempty
      simp only [hempty, Bool.or_true, if_true]
      rfl
    · have hneither : ¬(isAbsolute path || base.isEmpty) = true := by simp [hpath, hempty]
      rw [if_neg hneither]
      by_cases hslash : base.toList.getLast? = some '/'
      · obtain ⟨before, hbase⟩ := List.getLast?_eq_some_iff.1 hslash
        have hjoined : base ++ path = String.ofList (before ++ '/' :: path.toList) := by
          apply String.toList_injective
          simp [hbase]
        have hsteps : steps base = steps (String.ofList before) := by
          rw [← steps_concat_slash, ← hbase, String.ofList_toList]
        rw [if_pos hslash, hjoined, steps_append_slash, hsteps, String.ofList_toList]
      · have hjoined : base ++ "/" ++ path = String.ofList (base.toList ++ '/' :: path.toList) := by
          apply String.toList_injective
          simp
        rw [if_neg hslash, hjoined, steps_append_slash, String.ofList_toList, String.ofList_toList]

theorem isAbsolute_join_eq (base path : String) :
    isAbsolute (join base path) = (isAbsolute path || isAbsolute base) := by
  by_cases hbase : isAbsolute base = true
  · rw [isAbsolute_join path hbase, hbase, Bool.or_true]
  · rw [Bool.not_eq_true] at hbase
    rw [hbase, Bool.or_false, join]
    split
    case isTrue => rfl
    case isFalse hneither =>
      simp only [Bool.or_eq_true, not_or, Bool.not_eq_true] at hneither
      obtain ⟨hpath, hempty⟩ := hneither
      rw [hpath]
      -- What stands at the front of the base stays there.
      have hfront (after : String) : isAbsolute (base ++ after) = false := by
        cases hchars : base.toList with
        | nil => simp [String.toList_eq_nil_iff.1 hchars] at hempty
        | cons c rest =>
          rw [isAbsolute, hchars] at hbase
          rw [isAbsolute, String.toList_append, hchars]
          exact hbase
      split
      case isTrue => exact hfront path
      case isFalse =>
        rw [String.append_assoc]
        exact hfront _

/-- Two paths one after the other lead where the joined path leads. -/
theorem stepsFrom_stepsFrom (before : List String) (base path : String) :
    stepsFrom (stepsFrom before base) path = stepsFrom before (join base path) := by
  have hjoined := steps_join base path
  simp only [stepsFrom, isAbsolute_join_eq, Bool.or_eq_true] at hjoined ⊢
  rw [hjoined]
  by_cases hpath : isAbsolute path = true
  · simp [hpath]
  · by_cases hbase : isAbsolute base = true
    · simp [hpath, hbase]
    · simp [hpath, hbase]

theorem stepsAlong_join (base path : String) :
    stepsAlong [base, path] = steps (join base path) := by
  rw [stepsAlong, List.foldl_cons, List.foldl_cons, List.foldl_nil, stepsFrom_stepsFrom,
    stepsFrom_nil]

theorem stepsAlong_join_join (base dir path : String) :
    stepsAlong [base, dir, path] = steps (join base (join dir path)) := by
  rw [stepsAlong, List.foldl_cons, List.foldl_cons, List.foldl_cons, List.foldl_nil,
    stepsFrom_stepsFrom, stepsFrom_stepsFrom, stepsFrom_nil]

theorem isNormalForm_clean_join (base path : String) :
    IsNormalForm [base, path] (clean (join base path)) := by
  rw [isNormalForm_iff, stepsAlong_join]
  rfl

theorem isNormalForm_clean_join_join (base dir path : String) :
    IsNormalForm [base, dir, path] (clean (join base (join dir path))) := by
  rw [isNormalForm_iff, stepsAlong_join_join]
  rfl

/-! ## Parents -/

theorem steps_intercalate {names : List String} (h : ∀ s ∈ names, IsStep s) :
    steps ("/".intercalate names) = names := by
  have htext : textOf names = String.ofList ([] ++ '/' :: ("/".intercalate names).toList) := by
    apply String.toList_injective
    simp [textOf]
  have hsteps := steps_textOf h
  rw [htext, steps_append_slash, String.ofList_toList] at hsteps
  exact hsteps

theorem isAbsolute_intercalate {names : List String} (h : ∀ s ∈ names, IsStep s) :
    isAbsolute ("/".intercalate names) = false := by
  cases names with
  | nil => rfl
  | cons name rest =>
    obtain ⟨hslash, hidle⟩ := h name List.mem_cons_self
    cases hname : name.toList with
    | nil => simp [isIdle, hname] at hidle
    | cons c more =>
      rw [hname] at hslash
      simp only [List.mem_cons, not_or] at hslash
      have hfront : ("/".intercalate (name :: rest)).toList.head? = some c := by
        cases rest <;> simp [String.toList_intercalate, List.intercalate, hname]
      rw [isAbsolute, hfront]
      simp [Ne.symm hslash.1]

/-- A relative path that goes nowhere begins with a dot, unless it is empty. -/
theorem eq_dot_of_steps_eq_nil {path : String} {c : Char} {rest : List Char}
    (h : steps path = []) (hpath : path.toList = c :: rest) (hc : c ≠ '/') : c = '.' := by
  simp only [steps, List.map_eq_nil_iff, List.filter_eq_nil_iff, hpath] at h
  obtain ⟨piece, more, hpieces⟩ : ∃ piece more, pieces (c :: rest) = (c :: piece) :: more := by
    rw [pieces, if_neg hc]
    split
    case h_1 => exact ⟨[], [], rfl⟩
    case h_2 piece more _ => exact ⟨piece, more, rfl⟩
  rw [hpieces] at h
  have hidle := h (c :: piece) List.mem_cons_self
  simp only [isIdle, List.isEmpty_cons, Bool.false_or, Bool.not_eq_true, Bool.not_eq_false',
    decide_eq_true_eq, List.cons.injEq] at hidle
  exact hidle.1

/-- A path without a parent is empty, or the root. -/
theorem parent?_eq_none_iff {path : String} :
    parent? path = none ↔ path = "" ∨ isAbsolute path = true ∧ steps path = [] := by
  rw [parent?]
  split
  case h_1 hsteps =>
    rw [ite_eq_right_iff]
    simp only [Bool.and_eq_true, Bool.not_eq_true', reduceCtorEq, imp_false, not_and,
      Bool.not_eq_false, hsteps, and_true]
    constructor
    · intro h
      cases hchars : path.toList with
      | nil => exact .inl (String.toList_eq_nil_iff.1 hchars)
      | cons c rest =>
        by_cases hc : c = '/'
        · right
          rw [isAbsolute, hchars, hc]
          rfl
        · obtain rfl := eq_dot_of_steps_eq_nil hsteps hchars hc
          exact .inr (h (by simp [hchars]))
    · rintro (rfl | habsolute) hdot
      · cases hdot
      · exact habsolute
  case h_2 hsteps =>
    simp only [reduceCtorEq, false_iff, not_or, not_and]
    refine ⟨?_, fun _ => hsteps⟩
    rintro rfl
    exact hsteps rfl

/-- The parent of a path lacks its last step, and is absolute if the path is. -/
theorem parent_of_parent? {path dir : String} (h : parent? path = some dir) :
    steps dir = (steps path).dropLast ∧ isAbsolute dir = isAbsolute path := by
  rw [parent?] at h
  split at h
  case h_1 hsteps =>
    obtain ⟨hdot, hdir⟩ := Option.ite_none_right_eq_some.1 h
    obtain rfl := Option.some.inj hdir
    simp only [Bool.and_eq_true, Bool.not_eq_true'] at hdot
    rw [hsteps, hdot.2]
    exact ⟨rfl, rfl⟩
  case h_2 hsteps =>
    have hnames : ∀ s ∈ (steps path).dropLast, IsStep s :=
      fun s hs => isStep_of_steps (List.dropLast_subset _ hs)
    have hbefore := steps_intercalate hnames
    have hrelative := isAbsolute_intercalate hnames
    obtain rfl := Option.some.inj h
    cases isAbsolute path with
    | true =>
      rw [if_pos rfl]
      exact ⟨steps_textOf hnames, isAbsolute_append rfl⟩
    | false =>
      rw [if_neg Bool.false_ne_true]
      split
      case isTrue =>
        rw [steps_join, stepsFrom, hrelative, hbefore, isAbsolute_join_eq, hrelative]
        exact ⟨rfl, rfl⟩
      case isFalse => exact ⟨hbefore, hrelative⟩

end AppDeploy.FilePath
