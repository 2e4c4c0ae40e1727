import AppDeploy.Proofs.FilePath.Components
import AppDeploy.Proofs.Image.BuildFile

/-!
# Paths made absolute

A path that is made absolute names the place that its components come to, after those of the base
and, if that is relative too, after the names of the current directory. Such a path is not changed
when it is made absolute again, whatever the base, and it may take the place of the base that it
was made from (`absolute_normalizes`).
-/

namespace AppDeploy.BuildFile

open FilePath (IsName ReducesTo components componentsFrom goto isAbsolute isStepText join reduce
  steps stepsFrom textOf)

variable {current : List String} {path base : String}

/-- A text is an absolute path of names only, those that some components come to. -/
def NamesPlaceOf (components : List String) (file : String) : Prop :=
  ∃ names, ReducesTo components names ∧ (∀ s ∈ names, IsName s) ∧
    file = "/" ++ "/".intercalate names

/-- What becomes of a path that is made absolute, seen from a base, where some directory is the
current one. -/
structure Normalizes (current : List String) : Prop where
  /-- The components of an absolute base come first. An absolute path stands alone. -/
  based : ∀ path base, isAbsolute base = true → ∃ file,
    absolute current path base = .ok file ∧
      NamesPlaceOf (componentsFrom (components base) path) file
  /-- A relative base is seen from the current directory. -/
  relative : ∀ path base, ¬(path = "" ∧ base = "") → ∃ file,
    absolute current path base = .ok file ∧
      NamesPlaceOf (componentsFrom (componentsFrom current base) path) file
  refused : ∀ path base e, absolute current path base = .error e ↔
    (path = "" ∧ base = "") ∧ e = .path "" "cannot make an empty path absolute"
  settled : ∀ path base file, absolute current path base = .ok file →
    ∀ current' base', absolute current' file base' = .ok file
  rebased : ∀ path base base', absolute current "" base = .ok base' →
    absolute current path base' = absolute current path base

/-! ## The place of a path -/

theorem isEmpty_join (path base : String) :
    (join base path).isEmpty = true ↔ path = "" ∧ base = "" := by
  rw [join]
  split
  case isTrue h =>
    rw [String.isEmpty_iff]
    constructor
    · rintro rfl
      exact ⟨rfl, by simpa [isAbsolute] using h⟩
    · exact And.left
  case isFalse h =>
    have hbase : base ≠ "" := by
      rintro rfl
      simp at h
    split <;> simp [hbase]

/-- Steps back from a place go back behind it. -/
theorem reduce_append (before after : List String) :
    reduce (before ++ after) = after.foldl goto (reduce before) :=
  List.foldl_append

theorem reduce_of_names {names : List String} (h : ∀ s ∈ names, IsName s) :
    reduce names = names := by
  rw [reduce, FilePath.foldl_goto_of_notMem (FilePath.notMem_of_names h), List.nil_append]

theorem isName_of_reduce_stepsFrom {before : List String} (h : ∀ s ∈ before, FilePath.IsStep s)
    (path : String) : ∀ s ∈ reduce (stepsFrom before path), IsName s := by
  refine FilePath.isName_of_foldl_goto (List.forall_mem_nil _) ?_
  rw [stepsFrom]
  split
  · exact fun s => FilePath.isStep_of_steps
  · exact List.forall_mem_append.2 ⟨h, fun s => FilePath.isStep_of_steps⟩

theorem absolute_eq (hcurrent : ∀ s ∈ current, IsName s) (h : ¬(path = "" ∧ base = "")) :
    absolute current path base =
      .ok (textOf (reduce (stepsFrom (stepsFrom current base) path))) := by
  have hjoined := mt (isEmpty_join path base).1 h
  rw [absolute, FilePath.absolute?, FilePath.place?]
  simp only [hjoined, Bool.false_eq_true, if_false, Option.map_some]
  rw [FilePath.stepsFrom_stepsFrom, stepsFrom]
  split
  · rfl
  · rw [reduce_append, reduce_of_names hcurrent]

theorem absolute_eq_error (current : List String) (path base : String) (e : BuildError) :
    absolute current path base = .error e ↔
      (path = "" ∧ base = "") ∧ e = .path "" "cannot make an empty path absolute" := by
  by_cases h : path = "" ∧ base = ""
  · obtain ⟨rfl, rfl⟩ := h
    have hrefused : absolute current "" "" =
        .error (.path "" "cannot make an empty path absolute") := rfl
    rw [hrefused, Except.error.injEq, eq_comm]
    simp
  · have hjoined := mt (isEmpty_join path base).1 h
    rw [absolute, FilePath.absolute?, FilePath.place?]
    simp [hjoined, h]

theorem namesPlaceOf_textOf (hcurrent : ∀ s ∈ current, IsName s) (path base : String) :
    NamesPlaceOf (componentsFrom (componentsFrom current base) path)
      (textOf (reduce (stepsFrom (stepsFrom current base) path))) := by
  have hsteps : current.filter isStepText = current :=
    List.filter_eq_self.2 fun s hs =>
      FilePath.isStepText_of_leadsOn (FilePath.leadsOn_of_isName (hcurrent s hs))
  have hfilter := FilePath.stepsFrom_filter (componentsFrom current base) path
  rw [← FilePath.stepsFrom_filter, hsteps] at hfilter
  refine ⟨_, FilePath.reducesTo_iff.2 (congrArg reduce hfilter), ?_, rfl⟩
  rw [FilePath.stepsFrom_stepsFrom]
  exact isName_of_reduce_stepsFrom (fun s hs => (hcurrent s hs).toIsStep) _

/-! ## Paths made absolute again -/

theorem ne_of_absolute_eq_ok {file : String} (h : absolute current path base = .ok file) :
    ¬(path = "" ∧ base = "") := by
  intro hempty
  rw [(absolute_eq_error current path base _).2 ⟨hempty, rfl⟩] at h
  cases h

theorem absolute_of_absolute (hcurrent : ∀ s ∈ current, IsName s) {file : String}
    (h : absolute current path base = .ok file) (current' : List String) (base' : String) :
    absolute current' file base' = .ok file := by
  rw [absolute_eq hcurrent (ne_of_absolute_eq_ok h), FilePath.stepsFrom_stepsFrom] at h
  have hnames := isName_of_reduce_stepsFrom (fun s hs => (hcurrent s hs).toIsStep) (join base path)
  generalize reduce (stepsFrom current (join base path)) = names at h hnames
  obtain rfl := Except.ok.inj h
  have hfile := FilePath.isAbsolute_textOf names
  have hjoin : join base' (textOf names) = textOf names := FilePath.join_of_isAbsolute hfile
  have hjoined : isAbsolute (join base' (textOf names)) = true := by rw [hjoin, hfile]
  rw [absolute, FilePath.absolute?_of_isAbsolute current' hjoined, hjoin,
    FilePath.clean_textOf hnames]

theorem absolute_textOf {names : List String} (h : ∀ s ∈ names, IsName s)
    (hcurrent : ∀ s ∈ current, IsName s) (path : String) :
    absolute current path (textOf names) = .ok (textOf (reduce (stepsFrom names path))) := by
  have hbase := FilePath.isAbsolute_textOf names
  have hne : ¬(path = "" ∧ textOf names = "") := by
    rintro ⟨-, hempty⟩
    rw [hempty] at hbase
    cases hbase
  rw [absolute_eq hcurrent hne, FilePath.stepsFrom_of_isAbsolute current hbase,
    FilePath.steps_textOf fun s hs => (h s hs).toIsStep]

/-- The steps before a path may be replaced by the place that they lead to. -/
theorem reduce_stepsFrom_reduce {before : List String} (h : ∀ s ∈ reduce before, IsName s)
    (path : String) : reduce (stepsFrom (reduce before) path) = reduce (stepsFrom before path) := by
  rw [stepsFrom, stepsFrom]
  split
  · rfl
  · rw [reduce_append, reduce_append, reduce_of_names h]

theorem absolute_of_base (hcurrent : ∀ s ∈ current, IsName s) {base' : String}
    (h : absolute current "" base = .ok base') (path : String) :
    absolute current path base' = absolute current path base := by
  have hne := ne_of_absolute_eq_ok h
  have hpath : ¬(path = "" ∧ base = "") := fun hempty => hne ⟨rfl, hempty.2⟩
  have hnames := isName_of_reduce_stepsFrom (fun s hs => (hcurrent s hs).toIsStep) base
  have hreduce := reduce_stepsFrom_reduce hnames path
  rw [absolute_eq hcurrent hne, FilePath.stepsFrom_empty] at h
  rw [absolute_eq hcurrent hpath, ← hreduce]
  generalize reduce (stepsFrom current base) = names at h hnames
  obtain rfl := Except.ok.inj h
  exact absolute_textOf hnames hcurrent path

/-- In any current directory, paths that are made absolute are brought to their normal form. -/
theorem absolute_normalizes (current : List String) (hcurrent : ∀ s ∈ current, IsName s) :
    Normalizes current where
  based path base hbase := by
    have hne : ¬(path = "" ∧ base = "") := by
      rintro ⟨-, rfl⟩
      cases hbase
    have hplace := namesPlaceOf_textOf hcurrent path base
    rw [FilePath.componentsFrom_of_isAbsolute current hbase] at hplace
    exact ⟨_, absolute_eq hcurrent hne, hplace⟩
  relative path base hne := ⟨_, absolute_eq hcurrent hne, namesPlaceOf_textOf hcurrent path base⟩
  refused := absolute_eq_error current
  settled _ _ _ := absolute_of_absolute hcurrent
  rebased path _ _ h := absolute_of_base hcurrent h path

theorem example_normalizes : (∀ s ∈ ["srv", "web"], IsName s) ∧ Normalizes ["srv", "web"] := by
  have hnames : ∀ s ∈ ["srv", "web"], IsName s := by
    simp only [List.forall_mem_cons, List.not_mem_nil, false_imp_iff, implies_true, and_true]
    exact ⟨⟨⟨by decide, by decide⟩, by decide⟩, ⟨⟨by decide, by decide⟩, by decide⟩⟩
  exact ⟨hnames, absolute_normalizes ["srv", "web"] hnames⟩

end AppDeploy.BuildFile
