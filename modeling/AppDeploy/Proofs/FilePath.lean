import AppDeploy.FilePath

/-!
# Normal forms of paths

A place is a list of names: texts without slashes that are neither idle nor steps back
(`IsName`). Steps lead to places (`isName_of_reduce`), and the text of a place has the names of
the place as its steps (`steps_textOf`). So the normal form of an absolute path is one of its
own (`clean_clean`).
-/

namespace AppDeploy.FilePath

/-- A text that can be a step of a path. -/
structure IsStep (s : String) : Prop where
  noSlash : '/' ∉ s.toList
  notIdle : isIdle s.toList = false

/-- A step that leads on. -/
structure IsName (s : String) : Prop extends IsStep s where
  notBack : s ≠ ".."

/-- The normal form of an absolute path. -/
def clean (path : String) : String :=
  textOf (reduce (steps path))

/-! ## Pieces -/

theorem pieces_eq_splitOn (chars : List Char) : pieces chars = chars.splitOn '/' := by
  induction chars with
  | nil => rfl
  | cons c rest ih =>
    rw [pieces, ih, List.splitOn_cons_eq_if_modifyHead]
    by_cases hc : c = '/'
    · simp [hc]
    · cases h : rest.splitOn '/' with
      | nil => exact absurd h (List.splitOn_ne_nil '/' rest)
      | cons piece more => simp [hc]

theorem not_mem_of_pieces {chars piece : List Char} (h : piece ∈ pieces chars) : '/' ∉ piece := by
  induction chars generalizing piece with
  | nil => simp [List.mem_singleton.1 h]
  | cons c rest ih =>
    rw [pieces] at h
    split at h
    case isTrue =>
      rcases List.mem_cons.1 h with rfl | h
      · exact List.not_mem_nil
      · exact ih h
    case isFalse hc =>
      split at h
      case h_1 => simp [List.mem_singleton.1 h, Ne.symm hc]
      case h_2 first more hpieces =>
        rw [hpieces] at ih
        rcases List.mem_cons.1 h with rfl | h
        · simp [Ne.symm hc, ih List.mem_cons_self]
        · exact ih (List.mem_cons_of_mem _ h)

theorem pieces_intercalate {names : List (List Char)} (h : ∀ piece ∈ names, '/' ∉ piece)
    (hnames : names ≠ []) : pieces (['/'].intercalate names) = names := by
  rw [pieces_eq_splitOn]
  exact List.splitOn_intercalate '/' h hnames

theorem isStep_of_steps {path s : String} (h : s ∈ steps path) : IsStep s := by
  obtain ⟨piece, hpiece, rfl⟩ := List.mem_map.1 h
  obtain ⟨hmem, hidle⟩ := List.mem_filter.1 hpiece
  refine ⟨?_, ?_⟩
  · rw [String.toList_ofList]
    exact not_mem_of_pieces hmem
  · rw [String.toList_ofList]
    simpa using hidle

/-! ## Places -/

theorem isName_of_goto {place : List String} {step : String} (hplace : ∀ s ∈ place, IsName s)
    (hstep : IsStep step) : ∀ s ∈ goto place step, IsName s := by
  intro s hs
  rw [goto] at hs
  split at hs
  case isTrue => exact hplace s (List.dropLast_subset place hs)
  case isFalse hback =>
    rcases List.mem_append.1 hs with hs | hs
    · exact hplace s hs
    · obtain rfl := List.mem_singleton.1 hs
      exact ⟨hstep, hback⟩

theorem isName_of_foldl_goto {steps place : List String} (hplace : ∀ s ∈ place, IsName s)
    (hsteps : ∀ s ∈ steps, IsStep s) : ∀ s ∈ steps.foldl goto place, IsName s := by
  induction steps generalizing place with
  | nil => exact hplace
  | cons step rest ih =>
    obtain ⟨hstep, hrest⟩ := List.forall_mem_cons.1 hsteps
    exact ih (isName_of_goto hplace hstep) hrest

/-- Steps that lead on are gone through one after the other. -/
theorem foldl_goto_of_notMem {names place : List String} (h : ".." ∉ names) :
    names.foldl goto place = place ++ names := by
  induction names generalizing place with
  | nil => rw [List.foldl_nil, List.append_nil]
  | cons name rest ih =>
    simp only [List.mem_cons, not_or] at h
    obtain ⟨hname, hrest⟩ := h
    rw [List.foldl_cons, ih hrest, goto, if_neg (Ne.symm hname), List.append_assoc]
    rfl

theorem notMem_of_names {names : List String} (h : ∀ s ∈ names, IsName s) : ".." ∉ names :=
  fun hmem => (h ".." hmem).notBack rfl

/-- The slash at the front of a text makes an empty piece; the names are the others. -/
theorem pieces_textOf {names : List String} (h : ∀ s ∈ names, '/' ∉ s.toList)
    (hnames : names ≠ []) : pieces (textOf names).toList = [] :: names.map String.toList := by
  have hpieces := pieces_intercalate (List.forall_mem_map.2 h) (by simpa using hnames)
  rw [textOf, String.toList_append, String.toList_intercalate]
  exact congrArg ([] :: ·) hpieces

theorem steps_textOf {place : List String} (h : ∀ s ∈ place, IsStep s) :
    steps (textOf place) = place := by
  cases place with
  | nil => rfl
  | cons name rest =>
    have hpieces := pieces_textOf (fun s hs => (h s hs).noSlash) (List.cons_ne_nil name rest)
    -- The piece at the front is idle; all of the others are names.
    have hnames : ((name :: rest).map String.toList).filter (!isIdle ·) =
        (name :: rest).map String.toList :=
      List.filter_eq_self.2 (List.forall_mem_map.2 fun s hs => by simp [(h s hs).notIdle])
    rw [steps, hpieces, List.filter_cons_of_neg (by simp [isIdle]), hnames, List.map_map]
    simp [Function.comp_def]

theorem isName_of_reduce (path : String) : ∀ s ∈ reduce (steps path), IsName s :=
  isName_of_foldl_goto (List.forall_mem_nil _) fun _ => isStep_of_steps

/-- The text of a place is its own normal form. -/
theorem clean_textOf {place : List String} (h : ∀ s ∈ place, IsName s) :
    clean (textOf place) = textOf place := by
  rw [clean, steps_textOf fun s hs => (h s hs).toIsStep, reduce,
    foldl_goto_of_notMem (notMem_of_names h), List.nil_append]

/-- A normal form is its own normal form. -/
theorem clean_clean (path : String) : clean (clean path) = clean path :=
  clean_textOf (isName_of_reduce path)

/-! ## Absolute paths -/

theorem isAbsolute_append {before after : String} (h : isAbsolute before = true) :
    isAbsolute (before ++ after) = true := by
  rw [isAbsolute, decide_eq_true_iff] at h ⊢
  rw [String.toList_append, List.head?_append, h]
  rfl

theorem isAbsolute_textOf (place : List String) : isAbsolute (textOf place) = true :=
  isAbsolute_append rfl

theorem isEmpty_of_isAbsolute {path : String} (h : isAbsolute path = true) :
    path.isEmpty = false := by
  rw [isAbsolute, decide_eq_true_iff] at h
  rw [← Bool.not_eq_true, String.isEmpty_iff]
  rintro rfl
  cases h

theorem isAbsolute_join {base : String} (path : String) (h : isAbsolute base = true) :
    isAbsolute (join base path) = true := by
  rw [join, isEmpty_of_isAbsolute h, Bool.or_false]
  split
  case isTrue hpath => exact hpath
  case isFalse =>
    split
    case isTrue => exact isAbsolute_append h
    case isFalse => exact isAbsolute_append (isAbsolute_append h)

theorem join_of_isAbsolute {base path : String} (h : isAbsolute path = true) :
    join base path = path := by
  rw [join, h, Bool.true_or, if_pos rfl]

theorem absolute?_of_isAbsolute {path base : String} (current : List String)
    (h : isAbsolute (join base path) = true) :
    absolute? current path base = some (clean (join base path)) := by
  rw [absolute?, place?, isEmpty_of_isAbsolute h, h]
  rfl

end AppDeploy.FilePath
