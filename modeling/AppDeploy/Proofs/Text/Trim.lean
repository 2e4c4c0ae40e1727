import AppDeploy.Text.Blank
import Mathlib.Data.List.TakeWhile

/-!
# Texts without the blanks around them

`Trims` says what some characters are without the blanks around them, without a word about how
these are found. `trimChars` gives just that (`trimChars_eq_iff`).
-/

namespace AppDeploy.Text

variable {cs core : List Char}

/-- Some characters are others with blanks around them, and have none at their own ends. -/
def Trims (cs core : List Char) : Prop :=
  ∃ left right, cs = left ++ (core ++ right) ∧ (∀ c ∈ left, isBlank c = true) ∧
    (∀ c ∈ right, isBlank c = true) ∧ (∀ c ∈ core.head?, isBlank c = false) ∧
    ∀ c ∈ core.getLast?, isBlank c = false

theorem Trims.subset (h : Trims cs core) : core ⊆ cs := by
  obtain ⟨left, right, rfl, -⟩ := h
  exact fun c hc => List.mem_append_right _ (List.mem_append_left _ hc)

/-- Nothing is left between the blanks if there are only blanks. -/
theorem Trims.eq_nil_iff (h : Trims cs core) : core = [] ↔ ∀ c ∈ cs, isBlank c = true := by
  constructor
  · rintro rfl
    obtain ⟨left, right, rfl, hleft, hright, -⟩ := h
    exact List.forall_mem_append.2 ⟨hleft, by simpa using hright⟩
  · intro hblank
    have hsubset := h.subset
    obtain ⟨-, -, -, -, -, hhead, -⟩ := h
    cases core with
    | nil => rfl
    | cons c rest =>
      have hc : isBlank c = false := hhead c (by simp)
      rw [hblank c (hsubset (by simp))] at hc
      cases hc

theorem Trims.ne_nil_iff (h : Trims cs core) : core ≠ [] ↔ ∃ c ∈ cs, isBlank c = false := by
  rw [Ne, h.eq_nil_iff]
  simp

theorem dropWhile_blanks {left : List Char} (hleft : ∀ c ∈ left, isBlank c = true)
    (hcore : ∀ c ∈ core.head?, isBlank c = false) : (left ++ core).dropWhile isBlank = core := by
  rw [List.dropWhile_append_of_pos hleft]
  cases core with
  | nil => rfl
  | cons c rest => exact List.dropWhile_cons_of_neg (by simpa using hcore c)

theorem head?_dropWhile_blank (cs : List Char) :
    ∀ c ∈ (cs.dropWhile isBlank).head?, isBlank c = false := by
  intro c hc
  have hhead := List.head?_dropWhile_not isBlank cs
  rw [Option.mem_def.1 hc] at hhead
  simpa using hhead

theorem Trims.trimChars_eq (h : Trims cs core) : trimChars cs = core := by
  cases core with
  | nil =>
    have hblank : cs.dropWhile isBlank = [] := List.dropWhile_eq_nil_iff.2 (h.eq_nil_iff.1 rfl)
    rw [trimChars, hblank]
    rfl
  | cons c rest =>
    obtain ⟨left, right, rfl, hleft, hright, hhead, hlast⟩ := h
    have hfront : (left ++ (c :: rest ++ right)).dropWhile isBlank = c :: rest ++ right :=
      dropWhile_blanks hleft hhead
    have hback : ∀ d ∈ right.reverse, isBlank d = true := by simpa using hright
    rw [trimChars, hfront, List.reverse_append, dropWhile_blanks hback, List.reverse_reverse]
    rwa [List.head?_reverse]

/-- The front is cut first. What is cut at the back was the front of the reversed list. -/
theorem trimChars_append_back (cs : List Char) :
    trimChars cs ++ ((cs.dropWhile isBlank).reverse.takeWhile isBlank).reverse =
      cs.dropWhile isBlank := by
  rw [trimChars, ← List.reverse_append, List.takeWhile_append_dropWhile, List.reverse_reverse]

theorem trims_trimChars (cs : List Char) : Trims cs (trimChars cs) := by
  have hback := trimChars_append_back cs
  refine ⟨cs.takeWhile isBlank, ((cs.dropWhile isBlank).reverse.takeWhile isBlank).reverse,
    ?_, ?_, ?_, ?_, ?_⟩
  · rw [hback, List.takeWhile_append_dropWhile]
  · exact fun c hc => List.mem_takeWhile_imp hc
  · exact fun c hc => List.mem_takeWhile_imp (List.mem_reverse.1 hc)
  · intro c hc
    refine head?_dropWhile_blank cs c ?_
    rw [← hback, List.head?_append, Option.mem_def.1 hc]
    rfl
  · intro c hc
    rw [trimChars, List.getLast?_reverse] at hc
    exact head?_dropWhile_blank _ c hc

theorem trimChars_eq_iff : trimChars cs = core ↔ Trims cs core :=
  ⟨fun h => h ▸ trims_trimChars cs, Trims.trimChars_eq⟩

end AppDeploy.Text
