import AppDeploy.Proofs.Assignment.Spelling

/-!
# The table that some assignments make

Some texts make a table exactly if each of them is an assignment, and the table answers a name with
what the last assignment to it gives (`last?_eq_some`); otherwise the first that is none is at
fault. So the table of two lists is that of the first with that of the second over it
(`readAll_append`).

`IsAssignment` and `LastGives` say what the texts mean, by what each of them spells, without a word
about how they are read.
-/

namespace AppDeploy.Assignment

variable {texts : List String} {text name value : String}

/-! ## What the texts mean -/

/-- A text with an equals sign, and with more than blanks before its first one. -/
def IsAssignment (text : String) : Prop :=
  ∃ before after, text.toList = before ++ '=' :: after ∧ '=' ∉ before ∧
    ∃ c ∈ before, Text.isBlank c = false

/-- The last of some texts that assigns to a name gives it a value. -/
def LastGives (texts : List String) (name value : String) : Prop :=
  ∃ earlier text later, texts = earlier ++ text :: later ∧ Spells text ⟨name, value⟩ ∧
    ∀ other ∈ later, ∀ v, ¬Spells other ⟨name, v⟩

theorem isAssignment_iff : IsAssignment text ↔ ∃ a, Spells text a := by
  constructor
  · rintro ⟨before, after, htext, hbefore, hname⟩
    have htrims := Text.trims_trimChars before
    have hne := htrims.ne_nil_iff.2 hname
    exact ⟨⟨String.ofList (Text.trimChars before), String.ofList after⟩, before,
      by simpa using htext, hbefore, by simpa using htrims, by simpa using hne⟩
  · rintro ⟨a, before, htext, hbefore, htrims, hname⟩
    exact ⟨before, _, htext, hbefore, htrims.ne_nil_iff.1 (by simpa using hname)⟩

/-! ## The last assignment to a name -/

theorem lastGives_cons {rest : List String} :
    LastGives (text :: rest) name value ↔
      LastGives rest name value ∨
        Spells text ⟨name, value⟩ ∧ ∀ other ∈ rest, ∀ v, ¬Spells other ⟨name, v⟩ := by
  constructor
  · rintro ⟨earlier, found, later, htexts, hfound, hlater⟩
    cases earlier with
    | nil =>
      obtain ⟨rfl, rfl⟩ := List.cons.inj htexts
      exact .inr ⟨hfound, hlater⟩
    | cons first earlier =>
      obtain ⟨rfl, rfl⟩ := List.cons.inj htexts
      exact .inl ⟨earlier, found, later, rfl, hfound, hlater⟩
  · rintro (⟨earlier, found, later, rfl, hfound, hlater⟩ | ⟨htext, hrest⟩)
    · exact ⟨text :: earlier, found, later, rfl, hfound, hlater⟩
    · exact ⟨[], text, rest, rfl, htext, hrest⟩

theorem last?_eq_none_iff {assignments : List Assignment}
    (h : List.Forall₂ Spells texts assignments) :
    last? name assignments = none ↔ ∀ other ∈ texts, ∀ v, ¬Spells other ⟨name, v⟩ := by
  induction h with
  | nil => simp [last?]
  | @cons text a rest assignments ha _ ih =>
    rw [last?_cons, List.forall_mem_cons, ← ih]
    by_cases hname : a.name = name <;> simp [ha.mk_iff, hname]

theorem last?_eq_some {assignments : List Assignment}
    (h : List.Forall₂ Spells texts assignments) :
    last? name assignments = some value ↔ LastGives texts name value := by
  induction h with
  | nil => simp [last?, LastGives]
  | @cons text a rest assignments ha hrest ih =>
    rw [last?_cons, lastGives_cons, ← ih, ← last?_eq_none_iff hrest, ha.mk_iff,
      Option.or_eq_some_iff]
    by_cases hname : a.name = name <;> simp [hname, and_comm]

/-! ## The table -/

theorem exists_spells_of_isAssignment (h : ∀ text ∈ texts, IsAssignment text) :
    ∃ assignments, List.Forall₂ Spells texts assignments := by
  induction texts with
  | nil => exact ⟨[], .nil⟩
  | cons text rest ih =>
    obtain ⟨htext, hrest⟩ := List.forall_mem_cons.1 h
    obtain ⟨a, ha⟩ := isAssignment_iff.1 htext
    obtain ⟨assignments, hassignments⟩ := ih hrest
    exact ⟨a :: assignments, .cons ha hassignments⟩

theorem isAssignment_of_spells {assignments : List Assignment}
    (h : List.Forall₂ Spells texts assignments) : ∀ text ∈ texts, IsAssignment text := by
  induction h with
  | nil => exact List.forall_mem_nil _
  | cons ha _ ih => exact List.forall_mem_cons.2 ⟨isAssignment_iff.2 ⟨_, ha⟩, ih⟩

theorem exists_readAll_eq_ok :
    (∃ read, readAll texts = .ok read) ↔ ∀ text ∈ texts, IsAssignment text := by
  constructor
  · rintro ⟨read, hread⟩
    obtain ⟨assignments, hspells, -⟩ := readAll_eq_ok.1 hread
    exact isAssignment_of_spells hspells
  · intro h
    obtain ⟨assignments, hspells⟩ := exists_spells_of_isAssignment h
    obtain ⟨read, hread, -⟩ := readAll_of_spells hspells
    exact ⟨read, hread⟩

theorem get?_of_readAll {read : Table String} (h : readAll texts = .ok read) :
    read.get? name = some value ↔ LastGives texts name value := by
  obtain ⟨assignments, hspells, hget⟩ := readAll_eq_ok.1 h
  rw [hget, last?_eq_some hspells]

/-- The texts that follow are read into the table of those before them. -/
theorem readInto_append (t : Table String) (first second : List String) :
    readInto t (first ++ second) = (readInto t first >>= fun read => readInto read second) := by
  induction first generalizing t with
  | nil => rfl
  | cons text rest ih =>
    rw [List.cons_append, readInto, readInto]
    cases ofText text with
    | error e => rfl
    | ok a => exact ih _

/-- What is read into a table is written over it. -/
theorem readInto_eq_map (t : Table String) (texts : List String) :
    readInto t texts = (readAll texts).map t.overlay := by
  cases hread : readAll texts with
  | error e => exact readInto_eq_error.2 (readAll_eq_error.1 hread)
  | ok read =>
    obtain ⟨assignments, hspells, hget⟩ := readAll_eq_ok.1 hread
    cases hinto : readInto t texts with
    | error e => exact absurd (readInto_eq_error.1 hinto) (not_firstFault hspells e)
    | ok written =>
      obtain ⟨others, hothers, hget'⟩ := get?_readInto hinto
      obtain rfl := readAs_unique hothers (hspells.imp fun _ _ => ofText_eq_ok.2)
      refine congrArg Except.ok (Table.ext_get? fun key => ?_)
      rw [hget', Table.get?_overlay, hget]

theorem readAll_append (first second : List String) :
    readAll (first ++ second) =
      (readAll first >>= fun read => (readAll second).map read.overlay) := by
  rw [readAll, readInto_append]
  exact bind_congr fun read => readInto_eq_map read second

/-- Some texts are read exactly if each of them is an assignment, and then the table answers a name
with what the last assignment to it gives, and no other name. Otherwise the error is that of the
first text that is none. What follows some texts is written over their table, unless one of all
these texts is none: then the first such text decides. -/
theorem readAll_lastWins (texts more : List String) :
    ((∃ read, readAll texts = .ok read) ↔ ∀ text ∈ texts, IsAssignment text) ∧
      (∀ read, readAll texts = .ok read ↔ (∀ text ∈ texts, IsAssignment text) ∧
        ∀ name value, read.get? name = some value ↔ LastGives texts name value) ∧
      (∀ e, readAll texts = .error e ↔ FirstFault texts e) ∧
      (∀ read, readAll (texts ++ more) = .ok read ↔ ∃ first second, readAll texts = .ok first ∧
        readAll more = .ok second ∧
        ∀ name, read.get? name = (second.get? name).or (first.get? name)) ∧
      ∀ e, readAll (texts ++ more) = .error e ↔ readAll texts = .error e ∨
        (∃ first, readAll texts = .ok first) ∧ readAll more = .error e := by
  refine ⟨exists_readAll_eq_ok, fun read => ?_, fun e => readAll_eq_error, fun read => ?_,
    fun e => ?_⟩
  · constructor
    · intro h
      exact ⟨exists_readAll_eq_ok.1 ⟨read, h⟩, fun name value => get?_of_readAll h⟩
    · rintro ⟨hall, hget⟩
      obtain ⟨found, hfound⟩ := exists_readAll_eq_ok.2 hall
      have hsame : found = read := Table.ext_get? fun name => Option.ext fun value =>
        (get?_of_readAll hfound).trans (hget name value).symm
      rw [hfound, hsame]
  · rw [readAll_append, bind_eq_ok]
    refine exists_congr fun first => ?_
    rw [map_eq_ok, ← exists_and_left]
    refine exists_congr fun second => and_congr_right fun _ => and_congr_right fun _ => ?_
    constructor
    · rintro rfl name
      exact Table.get?_overlay first second name
    · intro hget
      exact Table.ext_get? fun name => (Table.get?_overlay first second name).trans (hget name).symm
  · rw [readAll_append]
    cases readAll texts with
    | error found => simp [bind, Except.bind]
    | ok first => cases readAll more <;> simp [bind, Except.bind, Except.map]

example :
    (readAll ["MODE=slow", "LEVEL=a=b", "\u00A0MODE = fast "]).toOption.map (·.entries) =
      some [("LEVEL", "a=b"), ("MODE", " fast ")] := by
  decide +kernel

end AppDeploy.Assignment
