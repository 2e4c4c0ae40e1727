import AppDeploy.Json.Basic

/-!
# Look-ups in tables that are put together

A table that is written entry by entry answers with the last entry of a name
(`lookup_foldl_insert`), and so do the tables and JSON objects that are put together from a
list. What is written over a table is seen first (`get?_overlay`).
-/

namespace AppDeploy

namespace Table

variable {α : Type}

theorem lookup_append (first second : List (String × α)) (name : String) :
    (first ++ second).lookup name = (first.lookup name).or (second.lookup name) := by
  induction first with
  | nil => rfl
  | cons entry rest ih =>
    rw [List.cons_append, lookup_cons, lookup_cons, ih]
    by_cases h : name = entry.1 <;> simp [h]

/-- Of entries that are written one after the other, the last of a name is seen. -/
theorem lookup_foldl_insert (entries : List (String × α)) (t : Table α) (name : String) :
    (entries.foldl (fun t entry => t.insert entry.1 entry.2) t).get? name =
      (entries.reverse.lookup name).or (t.get? name) := by
  induction entries generalizing t with
  | nil => rfl
  | cons entry rest ih =>
    rw [List.foldl_cons, ih, get?_insert, List.reverse_cons, lookup_append, lookup_cons]
    by_cases h : name = entry.1 <;> simp [h]

theorem get?_ofList (entries : List (String × α)) (name : String) :
    (ofList entries).get? name = entries.reverse.lookup name := by
  rw [ofList, lookup_foldl_insert, get?_empty, Option.or_none]

theorem lookup_reverse_eq_none {entries : List (String × α)} {name : String}
    (h : ∀ entry ∈ entries, entry.1 ≠ name) : entries.reverse.lookup name = none := by
  rw [List.lookup_eq_none_iff]
  intro entry hentry
  simpa using Ne.symm (h entry (List.mem_reverse.1 hentry))

/-- The entries of a table have different names, so that their order does not matter to a
look-up. -/
theorem lookup_reverse {entries : List (String × α)} (h : entries.Pairwise (·.1 < ·.1))
    (name : String) : entries.reverse.lookup name = entries.lookup name := by
  induction entries with
  | nil => rfl
  | cons entry rest ih =>
    obtain ⟨hentry, hrest⟩ := List.pairwise_cons.1 h
    rw [List.reverse_cons, lookup_append, ih hrest, lookup_cons, lookup_cons]
    by_cases hname : name = entry.1
    · subst hname
      simp [lookup_eq_none hentry]
    · simp [hname]

theorem get?_overlay (t upper : Table α) (name : String) :
    (t.overlay upper).get? name = (upper.get? name).or (t.get? name) := by
  rw [overlay, lookup_foldl_insert, lookup_reverse upper.sorted]
  rfl

theorem lookup_filter_ne (erased name : String) (entries : List (String × α)) :
    (entries.filter (·.1 != erased)).lookup name =
      if name = erased then none else entries.lookup name := by
  induction entries with
  | nil => simp
  | cons entry rest ih =>
    by_cases hentry : entry.1 = erased
    · rw [List.filter_cons_of_neg (by simpa using hentry), ih, lookup_cons, hentry]
      by_cases hname : name = erased <;> simp [hname]
    · rw [List.filter_cons_of_pos (by simpa using hentry), lookup_cons, lookup_cons, ih]
      by_cases hname : name = erased
      · subst hname
        simp [Ne.symm hentry]
      · simp [hname]

@[simp] theorem get?_erase (t : Table α) (erased name : String) :
    (t.erase erased).get? name = if name = erased then none else t.get? name :=
  lookup_filter_ne erased name t.entries

theorem mem_keys_insert {t : Table α} {name key : String} {value : α}
    (h : key ∈ (t.insert name value).keys) : key = name ∨ key ∈ t.keys := by
  obtain ⟨entry, hentry, rfl⟩ := List.mem_map.1 h
  rcases mem_put hentry with rfl | hold
  · exact .inl rfl
  · exact .inr (List.mem_map_of_mem hold)

theorem get?_map {β : Type} (f : α → β) (t : Table α) (name : String) :
    (t.map f).get? name = (t.get? name).map f := by
  show (t.entries.map fun entry => (entry.1, f entry.2)).lookup name = (t.entries.lookup name).map f
  induction t.entries with
  | nil => rfl
  | cons entry rest ih =>
    rw [List.map_cons, lookup_cons, lookup_cons, ih]
    split <;> rfl

theorem map_insert {β : Type} (f : α → β) (t : Table α) (name : String) (value : α) :
    (t.insert name value).map f = (t.map f).insert name (f value) := by
  apply ext_get?
  intro key
  rw [get?_map, get?_insert, get?_insert, get?_map]
  split <;> rfl

theorem keys_map {β : Type} (f : α → β) (t : Table α) : (t.map f).keys = t.keys := by
  simp [keys, map]

theorem keys_sorted (t : Table α) : t.keys.Pairwise (· < ·) :=
  List.pairwise_map.2 t.sorted

/-- The names of a table are those that it answers. -/
theorem mem_keys_iff {t : Table α} {name : String} : name ∈ t.keys ↔ t.get? name ≠ none := by
  rw [keys, get?, ne_eq, List.lookup_eq_none_iff]
  constructor
  · intro h hnone
    obtain ⟨entry, hentry, rfl⟩ := List.mem_map.1 h
    simpa using hnone entry hentry
  · intro h
    refine Decidable.byContradiction fun hnot => h fun entry hentry => ?_
    have hne : name ≠ entry.1 := fun heq => hnot (heq ▸ List.mem_map_of_mem hentry)
    simpa using hne

theorem lookup_eq_some_iff {entries : List (String × α)} (h : entries.Pairwise (·.1 < ·.1))
    {name : String} {value : α} :
    entries.lookup name = some value ↔ (name, value) ∈ entries := by
  induction entries with
  | nil => simp
  | cons entry rest ih =>
    obtain ⟨hentry, hrest⟩ := List.pairwise_cons.1 h
    rw [lookup_cons, List.mem_cons]
    by_cases hname : name = entry.1
    · -- The names that follow are greater, so this one is not among them.
      have hnot : (name, value) ∉ rest := fun hmem =>
        String.lt_irrefl name (hname ▸ hentry (name, value) hmem)
      simp [hname, hname ▸ hnot, Prod.ext_iff, eq_comm]
    · simp [hname, ih hrest, Prod.ext_iff]

theorem mem_entries_iff {t : Table α} {name : String} {value : α} :
    (name, value) ∈ t.entries ↔ t.get? name = some value :=
  (lookup_eq_some_iff t.sorted).symm

end Table

end AppDeploy
