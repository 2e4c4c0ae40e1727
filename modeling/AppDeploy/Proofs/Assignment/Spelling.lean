import AppDeploy.Proofs.Assignment
import AppDeploy.Proofs.Text.Trim

/-!
# How assignments are spelled

`Spells` says which texts are assignments, and to what, and `Fault` why a text is none; neither
mentions the way in which texts are read. Reading finds the one (`ofText_eq_ok`) or the other
(`ofText_eq_error`). Some texts are read if all of them are assignments, and otherwise the first
that is none is at fault (`readAll_eq_ok`, `readAll_eq_error`).
-/

namespace AppDeploy.Assignment

open Text (Trims isBlank trimChars trimChars_eq_iff trims_trimChars)

/-- A text assigns a value to a name: the value is all that follows its first equals sign, and the
name is what stands before it, without the blanks around it. That is not nothing. -/
def Spells (text : String) (a : Assignment) : Prop :=
  ∃ before, text.toList = before ++ '=' :: a.value.toList ∧ '=' ∉ before ∧
    Trims before a.name.toList ∧ a.name ≠ ""

/-- Why a text is no assignment: it has no equals sign, or only blanks before the first. -/
inductive Fault (text : String) : Error → Prop where
  | unseparated (h : '=' ∉ text.toList) : Fault text (.missingSeparator text)
  | nameless {before after : List Char} (h : text.toList = before ++ '=' :: after)
      (hbefore : '=' ∉ before) (hblank : ∀ c ∈ before, isBlank c = true) :
      Fault text (.emptyName text)

/-! ## One text -/

theorem split?_eq_none {cs : List Char} : split? cs = none ↔ '=' ∉ cs := by
  induction cs with
  | nil => simp [split?]
  | cons c rest ih =>
    rw [split?]
    by_cases h : c = '='
    · simp [h]
    · simp [h, Ne.symm h, ih]

theorem split?_eq_some {cs before after : List Char} :
    split? cs = some (before, after) ↔ cs = before ++ '=' :: after ∧ '=' ∉ before := by
  induction cs generalizing before with
  | nil => simp [split?]
  | cons c rest ih =>
    rw [split?]
    by_cases h : c = '='
    · subst h
      cases before with
      | nil => simp
      | cons d before => simp +contextual [eq_comm]
    · rw [if_neg h, Option.map_eq_some_iff]
      cases before with
      | nil => simp [h]
      | cons d before =>
        simp only [Prod.exists, Prod.mk.injEq, List.cons.injEq, List.cons_append, List.mem_cons,
          not_or]
        constructor
        · rintro ⟨first, last, hsplit, ⟨rfl, rfl⟩, rfl⟩
          obtain ⟨rfl, hfirst⟩ := ih.1 hsplit
          exact ⟨⟨rfl, rfl⟩, Ne.symm h, hfirst⟩
        · rintro ⟨⟨rfl, hrest⟩, -, hbefore⟩
          exact ⟨before, after, ih.2 ⟨hrest, hbefore⟩, ⟨rfl, rfl⟩, rfl⟩

theorem ofText_eq_ok {text : String} {a : Assignment} : ofText text = .ok a ↔ Spells text a := by
  obtain ⟨name, value⟩ := a
  rw [ofText]
  constructor
  · intro h
    cases hsplit : split? text.toList with
    | none => simp [hsplit] at h
    | some parts =>
      obtain ⟨before, after⟩ := parts
      obtain ⟨htext, hbefore⟩ := split?_eq_some.1 hsplit
      have htrims := trims_trimChars before
      cases hname : trimChars before with
      | nil => simp [hsplit, hname] at h
      | cons c rest =>
        simp only [hsplit, hname, Except.ok.injEq, mk.injEq] at h
        obtain ⟨rfl, rfl⟩ := h
        rw [hname] at htrims
        exact ⟨before, by simpa using htext, hbefore, by simpa using htrims, by simp⟩
  · rintro ⟨before, htext, hbefore, htrims, hname⟩
    have hsplit := split?_eq_some.2 ⟨htext, hbefore⟩
    have hne : name.toList ≠ [] := by simpa using hname
    obtain ⟨c, rest, hcons⟩ := List.exists_cons_of_ne_nil hne
    have htrimmed : trimChars before = c :: rest := (trimChars_eq_iff.2 htrims).trans hcons
    simp only [hsplit, htrimmed, ← hcons, String.ofList_toList]

theorem ofText_eq_error {text : String} {e : Error} : ofText text = .error e ↔ Fault text e := by
  rw [ofText]
  constructor
  · intro h
    cases hsplit : split? text.toList with
    | none =>
      simp only [hsplit, Except.error.injEq] at h
      subst h
      exact .unseparated (split?_eq_none.1 hsplit)
    | some parts =>
      obtain ⟨before, after⟩ := parts
      obtain ⟨htext, hbefore⟩ := split?_eq_some.1 hsplit
      cases hname : trimChars before with
      | nil =>
        simp only [hsplit, hname, Except.error.injEq] at h
        subst h
        exact .nameless htext hbefore ((trims_trimChars before).eq_nil_iff.1 hname)
      | cons c rest => simp [hsplit, hname] at h
  · intro h
    cases h with
    | unseparated h => rw [split?_eq_none.2 h]
    | @nameless before _ h hbefore hblank =>
      simp only [split?_eq_some.2 ⟨h, hbefore⟩, (trims_trimChars before).eq_nil_iff.2 hblank]

/-- A text spells one assignment at most. -/
theorem Spells.mk_iff {text name value : String} {a : Assignment} (h : Spells text a) :
    Spells text ⟨name, value⟩ ↔ a.name = name ∧ a.value = value := by
  rw [← ofText_eq_ok, ofText_eq_ok.2 h, Except.ok.injEq, mk.injEq]

/-- An equals sign is never part of a name. -/
theorem Spells.notMem_name {text : String} {a : Assignment} (h : Spells text a) :
    '=' ∉ a.name.toList := by
  obtain ⟨before, -, hbefore, htrims, -⟩ := h
  exact fun hmem => hbefore (htrims.subset hmem)

/-! ## Some texts -/

/-- The first of some texts that is no assignment is at fault. -/
def FirstFault (texts : List String) (e : Error) : Prop :=
  ∃ before text after, texts = before ++ text :: after ∧ (∀ t ∈ before, ∃ a, Spells t a) ∧
    Fault text e

theorem firstFault_cons {text : String} {rest : List String} {e : Error} :
    FirstFault (text :: rest) e ↔ Fault text e ∨ (∃ a, Spells text a) ∧ FirstFault rest e := by
  constructor
  · rintro ⟨before, found, after, htexts, hbefore, hfault⟩
    cases before with
    | nil =>
      obtain ⟨rfl, -⟩ := List.cons.inj htexts
      exact .inl hfault
    | cons first before =>
      obtain ⟨rfl, hrest⟩ := List.cons.inj htexts
      obtain ⟨hfirst, hbefore⟩ := List.forall_mem_cons.1 hbefore
      exact .inr ⟨hfirst, before, found, after, hrest, hbefore, hfault⟩
  · rintro (hfault | ⟨hfirst, before, found, after, rfl, hbefore, hfault⟩)
    · exact ⟨[], text, rest, rfl, List.forall_mem_nil _, hfault⟩
    · exact ⟨text :: before, found, after, rfl, List.forall_mem_cons.2 ⟨hfirst, hbefore⟩, hfault⟩

theorem readInto_eq_error {t : Table String} {texts : List String} {e : Error} :
    readInto t texts = .error e ↔ FirstFault texts e := by
  induction texts generalizing t with
  | nil => simp [readInto, FirstFault]
  | cons text rest ih =>
    rw [firstFault_cons, ← ofText_eq_error]
    simp only [← ofText_eq_ok]
    cases hread : ofText text with
    | error found => simp [readInto, hread, bind, Except.bind]
    | ok a => simp [readInto, hread, bind, Except.bind, ih]

theorem readAll_eq_error {texts : List String} {e : Error} :
    readAll texts = .error e ↔ FirstFault texts e :=
  readInto_eq_error

theorem not_firstFault {texts : List String} {assignments : List Assignment}
    (h : List.Forall₂ Spells texts assignments) (e : Error) : ¬FirstFault texts e := by
  induction h with
  | nil => simp [FirstFault]
  | cons ha _ ih =>
    rw [firstFault_cons, ← ofText_eq_error, ofText_eq_ok.2 ha]
    simp [ih]

theorem readAs_unique {texts : List String} {assignments others : List Assignment}
    (h : ReadAs texts assignments) (h' : ReadAs texts others) : assignments = others :=
  List.right_unique_forall₂' (fun _ _ _ ha hb => Except.ok.inj (ha.symm.trans hb)) h h'

/-- Some assignments can be read, and the table of them answers with the last one to a name. -/
theorem readAll_of_spells {texts : List String} {assignments : List Assignment}
    (h : List.Forall₂ Spells texts assignments) :
    ∃ read, readAll texts = .ok read ∧ ∀ name, read.get? name = last? name assignments := by
  cases hread : readAll texts with
  | error e => exact absurd (readAll_eq_error.1 hread) (not_firstFault h e)
  | ok read =>
    obtain ⟨others, hothers, hget⟩ := get?_readAll hread
    obtain rfl := readAs_unique hothers (h.imp fun _ _ => ofText_eq_ok.2)
    exact ⟨read, rfl, hget⟩

theorem readAll_eq_ok {texts : List String} {read : Table String} :
    readAll texts = .ok read ↔ ∃ assignments, List.Forall₂ Spells texts assignments ∧
      ∀ name, read.get? name = last? name assignments := by
  constructor
  · intro h
    obtain ⟨assignments, hread, hget⟩ := get?_readAll h
    exact ⟨assignments, hread.imp fun _ _ => ofText_eq_ok.1, hget⟩
  · rintro ⟨assignments, hspells, hget⟩
    obtain ⟨found, hfound, hget'⟩ := readAll_of_spells hspells
    rw [hfound, Table.ext_get? fun name => (hget' name).trans (hget name).symm]

theorem exists_spells_of_mem {texts : List String} {assignments : List Assignment}
    (h : List.Forall₂ Spells texts assignments) {a : Assignment} (ha : a ∈ assignments) :
    ∃ text, Spells text a := by
  induction h with
  | nil => cases ha
  | cons hfirst _ ih =>
    rcases List.mem_cons.1 ha with rfl | ha
    · exact ⟨_, hfirst⟩
    · exact ih ha

theorem exists_of_last? {name value : String} {assignments : List Assignment}
    (h : last? name assignments = some value) : ∃ a ∈ assignments, a.name = name := by
  obtain ⟨a, ha, -⟩ := Option.map_eq_some_iff.1 h
  exact ⟨a, List.mem_reverse.1 (List.mem_of_find?_eq_some ha), by simpa using List.find?_some ha⟩

/-- An equals sign is in no name of a table that was read. -/
theorem notMem_of_mem_keys {texts : List String} {read : Table String}
    (h : readAll texts = .ok read) {name : String} (hname : name ∈ read.keys) :
    '=' ∉ name.toList := by
  obtain ⟨assignments, hspells, hget⟩ := readAll_eq_ok.1 h
  obtain ⟨value, hvalue⟩ := Option.ne_none_iff_exists'.1 (Table.mem_keys_iff.1 hname)
  obtain ⟨a, ha, rfl⟩ := exists_of_last? ((hget name).symm.trans hvalue)
  obtain ⟨text, htext⟩ := exists_spells_of_mem hspells ha
  exact htext.notMem_name

end AppDeploy.Assignment
