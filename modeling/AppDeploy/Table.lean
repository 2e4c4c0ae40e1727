/-! Tables: finite maps from names to values, kept in the order of their names.

The entries of a table are strictly increasing by name, so a table has one form and two
tables that answer every look-up alike are equal (`Table.ext_get?`). -/
namespace AppDeploy

/-- A finite map from names to values. -/
structure Table (α : Type) where
  entries : List (String × α)
  sorted : entries.Pairwise (·.1 < ·.1)

namespace Table

variable {α β : Type}

instance [DecidableEq α] : DecidableEq (Table α) := fun s t =>
  decidable_of_iff (s.entries = t.entries) (by cases s; cases t; simp)

instance [Repr α] : Repr (Table α) := ⟨fun t n => reprPrec t.entries n⟩

theorem ext_entries {s t : Table α} (h : s.entries = t.entries) : s = t := by
  cases s; cases t; simp_all

def empty : Table α := ⟨[], .nil⟩

instance : EmptyCollection (Table α) := ⟨empty⟩
instance : Inhabited (Table α) := ⟨empty⟩

def isEmpty (t : Table α) : Bool :=
  t.entries.isEmpty

/-- The value of a name. -/
def get? (t : Table α) (name : String) : Option α :=
  t.entries.lookup name

/-- The names, in order. -/
def keys (t : Table α) : List String :=
  t.entries.map (·.1)

/-! ## Writing one entry -/

/-- An ordered list of entries with one entry written into it. -/
def put (name : String) (value : α) : List (String × α) → List (String × α)
  | [] => [(name, value)]
  | (other, kept) :: rest =>
    if name < other then (name, value) :: (other, kept) :: rest
    else if name = other then (name, value) :: rest
    else (other, kept) :: put name value rest

theorem mem_put {name : String} {value : α} {entries : List (String × α)}
    {entry : String × α} (h : entry ∈ put name value entries) :
    entry = (name, value) ∨ entry ∈ entries := by
  induction entries with
  | nil => simpa [put] using h
  | cons head rest ih =>
    simp only [put] at h
    split at h
    · simpa using h
    · split at h
      · rcases List.mem_cons.1 h with h | h
        · exact .inl h
        · exact .inr (List.mem_cons_of_mem _ h)
      · rcases List.mem_cons.1 h with h | h
        · exact .inr (h ▸ List.mem_cons_self)
        · exact (ih h).imp id (List.mem_cons_of_mem _)

theorem lt_of_not_lt_of_ne {a b : String} (h : ¬a < b) (hne : a ≠ b) : b < a :=
  String.not_le.1 fun h' => hne (String.le_antisymm h' (String.not_lt.1 h))

theorem sorted_put (name : String) (value : α) {entries : List (String × α)}
    (h : entries.Pairwise (·.1 < ·.1)) : (put name value entries).Pairwise (·.1 < ·.1) := by
  induction entries with
  | nil => simp [put]
  | cons head rest ih =>
    obtain ⟨other, kept⟩ := head
    have hrest := List.pairwise_cons.1 h
    simp only [put]
    split
    case isTrue hlt =>
      refine List.pairwise_cons.2 ⟨fun entry he => ?_, h⟩
      rcases List.mem_cons.1 he with rfl | he
      · exact hlt
      · exact String.lt_trans hlt (hrest.1 entry he)
    case isFalse hlt =>
      split
      case isTrue heq =>
        subst heq
        exact List.pairwise_cons.2 ⟨hrest.1, hrest.2⟩
      case isFalse hne =>
        refine List.pairwise_cons.2 ⟨fun entry he => ?_, ih hrest.2⟩
        rcases mem_put he with rfl | he
        · exact lt_of_not_lt_of_ne hlt hne
        · exact hrest.1 entry he

/-- A table with one entry written; an earlier value of the same name is lost. -/
def insert (t : Table α) (name : String) (value : α) : Table α :=
  ⟨put name value t.entries, sorted_put name value t.sorted⟩

/-- The entries of a list, written one after the other; the last of a name wins. -/
def ofList (entries : List (String × α)) : Table α :=
  entries.foldl (fun t entry => t.insert entry.1 entry.2) empty

/-- A table with the entries of another written over it. -/
def overlay (t upper : Table α) : Table α :=
  upper.entries.foldl (fun t entry => t.insert entry.1 entry.2) t

/-- A table without one name. -/
def erase (t : Table α) (name : String) : Table α :=
  ⟨t.entries.filter (·.1 != name), t.sorted.filter _⟩

/-- A table with every value replaced. -/
def map (f : α → β) (t : Table α) : Table β :=
  ⟨t.entries.map fun entry => (entry.1, f entry.2),
    List.pairwise_map.2 (t.sorted.imp fun h => h)⟩

/-! ## Look-ups -/

@[simp] theorem get?_empty (name : String) : (empty : Table α).get? name = none := rfl

theorem lookup_cons (key : String) (entry : String × α) (rest : List (String × α)) :
    (entry :: rest).lookup key = if key = entry.1 then some entry.2 else rest.lookup key := by
  by_cases h : key = entry.1
  · subst h
    rw [if_pos rfl]
    exact List.lookup_cons_self
  · have hbeq : (key == entry.1) = false := by simpa using h
    rw [if_neg h, List.lookup_cons, hbeq]

theorem lookup_put (name : String) (value : α) (entries : List (String × α)) (key : String)
    (h : entries.Pairwise (·.1 < ·.1)) :
    (put name value entries).lookup key =
      if key = name then some value else entries.lookup key := by
  induction entries with
  | nil => by_cases hk : key = name <;> simp [put, lookup_cons, hk]
  | cons head rest ih =>
    obtain ⟨other, kept⟩ := head
    have hrest := List.pairwise_cons.1 h
    simp only [put]
    split
    case isTrue => by_cases hk : key = name <;> simp [lookup_cons, hk]
    case isFalse =>
      split
      case isTrue heq =>
        subst heq
        by_cases hk : key = name <;> simp [lookup_cons, hk]
      case isFalse hne =>
        by_cases ho : key = other
        · subst ho
          have hk : key ≠ name := fun e => hne e.symm
          simp [hk]
        · simp [lookup_cons, ho, ih hrest.2]

@[simp] theorem get?_insert (t : Table α) (name : String) (value : α) (key : String) :
    (t.insert name value).get? key = if key = name then some value else t.get? key :=
  lookup_put name value t.entries key t.sorted

theorem lookup_eq_none {name : String} {entries : List (String × α)}
    (h : ∀ entry ∈ entries, name < entry.1) : entries.lookup name = none := by
  induction entries with
  | nil => rfl
  | cons head rest ih =>
    have hne : name ≠ head.1 := fun e =>
      String.lt_irrefl head.1 (e ▸ h head List.mem_cons_self)
    simp [lookup_cons, hne, ih fun entry he => h entry (List.mem_cons_of_mem _ he)]

theorem entries_eq_of_lookup {s t : List (String × α)} (hs : s.Pairwise (·.1 < ·.1))
    (ht : t.Pairwise (·.1 < ·.1)) (h : ∀ name, s.lookup name = t.lookup name) : s = t := by
  induction s generalizing t with
  | nil =>
    cases t with
    | nil => rfl
    | cons head rest => have := h head.1; simp [lookup_cons] at this
  | cons a s ih =>
    cases t with
    | nil => have := h a.1; simp [lookup_cons] at this
    | cons b t =>
      obtain ⟨ha, hs⟩ := List.pairwise_cons.1 hs
      obtain ⟨hb, ht⟩ := List.pairwise_cons.1 ht
      have hkey : a.1 = b.1 := by
        by_cases hlt : a.1 < b.1
        · have hnone : (b :: t).lookup a.1 = none := lookup_eq_none fun entry he => by
            rcases List.mem_cons.1 he with rfl | he
            · exact hlt
            · exact String.lt_trans hlt (hb entry he)
          have := h a.1
          simp [hnone, lookup_cons] at this
        · by_cases heq : a.1 = b.1
          · exact heq
          · have hgt := lt_of_not_lt_of_ne hlt heq
            have hnone : (a :: s).lookup b.1 = none := lookup_eq_none fun entry he => by
              rcases List.mem_cons.1 he with rfl | he
              · exact hgt
              · exact String.lt_trans hgt (ha entry he)
            have := h b.1
            simp [hnone, lookup_cons] at this
      have hvalue : a.2 = b.2 := by
        have := h a.1
        simpa [lookup_cons, hkey] using this
      have htail : s = t := ih hs ht fun name => by
        by_cases hn : name = a.1
        · have h1 : s.lookup name = none := lookup_eq_none (hn ▸ ha)
          have h2 : t.lookup name = none := lookup_eq_none fun entry he => by
            rw [hn, hkey]; exact hb entry he
          rw [h1, h2]
        · have := h name
          simpa [lookup_cons, hn, hkey ▸ hn] using this
      rw [htail, Prod.ext hkey hvalue]

/-- A table is fixed by what it answers. -/
theorem ext_get? {s t : Table α} (h : ∀ name, s.get? name = t.get? name) : s = t :=
  ext_entries (entries_eq_of_lookup s.sorted t.sorted h)

end Table

end AppDeploy
