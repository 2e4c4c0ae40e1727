import AppDeploy.Json.Decode
import AppDeploy.Proofs.Table

/-!
# Reading back what was written

A reader reads a value as something (`Reads`), wherever in a document the value stands. For a
record it is enough that its fields are found in the table that was written (`Fields.Finds`,
`reads_record`): the order of the table and the names in it that nobody knows make no
difference. What a field finds is said once for each kind of field, so that a record is read back
field by field, in the order of its description.
-/

namespace AppDeploy.Record

open Json (Document)

variable {α β : Type} {read : Reader Document α}

/-- A value is read as something, at every place of a document. -/
def Reads (read : Reader Document α) (v : Json) (a : α) : Prop :=
  ∀ path, read path (.ofJson v) = .ok a

theorem Reads.decodeValue {v : Json} {a : α} (h : Reads read v a) :
    Json.decodeValue read v = .ok a := by
  rw [Json.decodeValue, h]

/-! ## Single values -/

theorem reads_text (s : String) : Reads text (.str s) s :=
  fun _ => rfl

theorem reads_flag (b : Bool) : Reads flag (.bool b) b :=
  fun _ => rfl

/-- A natural number is read if it is below the limit. -/
theorem reads_natural {expected : String} (limit : Nat) {n : Nat} (h : n < limit) :
    Reads (fun path d => located path (Source.natural expected limit d)) (.nat n) n := by
  intro path
  have hbounds : 0 ≤ (n : Int) ∧ (n : Int) < limit := ⟨Int.natCast_nonneg n, Int.ofNat_lt.2 h⟩
  show located path (if 0 ≤ (n : Int) ∧ (n : Int) < limit then .ok (n : Int).toNat else _) = _
  rw [if_pos hbounds]
  rfl

theorem reads_choice {known : List (String × α)} {names : List String} {name : String} {a : α}
    (h : known.lookup name = some a) : Reads (choice known names) (.str name) a := by
  intro path
  simp only [choice, Document.ofJson, Source.choice, Document.asChoice, h]
  rfl

theorem reads_parsedText {expected : String} {parse : String → Except Fault α} {s : String} {a : α}
    (h : parse s = .ok a) : Reads (parsedText expected parse) (.str s) a := by
  intro path
  show located path (parse s) = _
  rw [h]
  rfl

/-! ## Any value -/

theorem asValues_ofItems {items : List Json}
    (h : ∀ item ∈ items, (Document.ofJson item).asValue = .ok item) :
    Document.asValues (Document.ofItems items) = .ok items := by
  induction items with
  | nil => rfl
  | cons item rest ih =>
    obtain ⟨hitem, hrest⟩ := List.forall_mem_cons.1 h
    rw [Document.ofItems, Document.asValues, hitem, ih hrest]
    rfl

theorem asFieldValues_ofFields {fields : List (String × Json)}
    (h : ∀ field ∈ fields, (Document.ofJson field.2).asValue = .ok field.2) :
    Document.asFieldValues (Document.ofFields fields) = .ok fields := by
  induction fields with
  | nil => rfl
  | cons field rest ih =>
    obtain ⟨hfield, hrest⟩ := List.forall_mem_cons.1 h
    rw [Document.ofFields, Document.asFieldValues, hfield, ih hrest]
    rfl

/-- A table is what its entries make. -/
theorem ofList_entries (t : Table α) : Table.ofList t.entries = t :=
  Table.ext_get? fun name => by rw [Table.get?_ofList, Table.lookup_reverse t.sorted, Table.get?]

theorem asValue_ofJson {v : Json} (h : v.Canonical) : (Document.ofJson v).asValue = .ok v := by
  induction h with
  | null | bool | num | str => rfl
  | arr _ ih =>
    rw [Document.ofJson, Document.asValue, asValues_ofItems ih]
    rfl
  | @obj fields sorted _ ih =>
    rw [Document.ofJson, Document.asValue, asFieldValues_ofFields ih]
    exact congrArg (fun t => Except.ok (Json.ofTable t)) (ofList_entries ⟨fields, sorted⟩)

theorem reads_value {v : Json} (h : v.Canonical) : Reads value v v := by
  intro path
  show located path (Document.ofJson v).asValue = _
  rw [asValue_ofJson h]
  rfl

/-! ## Values of values -/

theorem reads_option_some {v : Json} {a : α} (hv : v ≠ .null) (h : Reads read v a) :
    Reads (option read) v (some a) := by
  intro path
  have hpresent : Source.present? path (Document.ofJson v) = .ok (some (Document.ofJson v)) := by
    cases v with
    | null => exact absurd rfl hv
    | _ => rfl
  simp only [option, hpresent, h path, bind, Except.bind, pure, Except.pure]

theorem reads_ofOption (encode : α → Json) {x : Option α}
    (h : ∀ a ∈ x, encode a ≠ .null ∧ Reads read (encode a) a) :
    Reads (option read) (.ofOption encode x) x := by
  cases x with
  | none => exact fun _ => rfl
  | some a => exact reads_option_some (h a rfl).1 (h a rfl).2

theorem itemsFrom_ofItems {encode : α → Json} {items : List α}
    (h : ∀ a ∈ items, Reads read (encode a) a) (path : Path) (index : Nat) :
    itemsFrom read path index (Document.ofItems (items.map encode)) = .ok items := by
  induction items generalizing index with
  | nil => rfl
  | cons a rest ih =>
    obtain ⟨ha, hrest⟩ := List.forall_mem_cons.1 h
    rw [List.map_cons, Document.ofItems, itemsFrom, ha, ih hrest]
    rfl

theorem reads_list {encode : α → Json} {items : List α}
    (h : ∀ a ∈ items, Reads read (encode a) a) :
    Reads (list read) (.arr (items.map encode)) items := by
  intro path
  have hparts : Source.list (Document.ofJson (.arr (items.map encode))) =
      .ok ⟨Document.ofItems (items.map encode), true⟩ := rfl
  simp only [list, hparts, located, itemsFrom_ofItems h, closing, bind, Except.bind, pure,
    Except.pure, if_pos, placed]

theorem entriesOf_ofFields {encode : α → Json} {entries : List (String × α)}
    (h : ∀ entry ∈ entries, Reads read (encode entry.2) entry.2) (path : Path) :
    entriesOf read path (Document.ofFields (entries.map fun entry => (entry.1, encode entry.2))) =
      .ok entries := by
  induction entries with
  | nil => rfl
  | cons entry rest ih =>
    obtain ⟨hentry, hrest⟩ := List.forall_mem_cons.1 h
    have hname : located path (Source.name "a string" (Document.text entry.1)) = .ok entry.1 := rfl
    rw [List.map_cons, Document.ofFields, entriesOf, hname, ih hrest]
    simp only [hentry _, bind, Except.bind, pure, Except.pure]

theorem reads_table {encode : α → Json} {t : Table α}
    (h : ∀ entry ∈ t.entries, Reads read (encode entry.2) entry.2) :
    Reads (table read) (.ofTable (t.map encode)) t := by
  intro path
  have hparts : Source.table (Document.ofJson (.ofTable (t.map encode))) =
      .ok ⟨Document.ofFields (t.entries.map fun entry => (entry.1, encode entry.2)), true⟩ := rfl
  simp only [table, hparts, located, entriesOf_ofFields h, closing, bind, Except.bind, pure,
    Except.pure, if_pos, placed, ofList_entries]

/-! ## Records -/

/-- The fields of a record are found in a table: those that are there are sound, those that have
to be there are, and what is there makes the record. -/
structure Fields.Finds (shape : Fields Document α) (t : Table Json) (a : α) : Prop where
  sound : ∀ field ∈ shape.fields, ∀ v, t.get? field.name = some v →
    ∀ path, field.check path (.ofJson v) = .ok ()
  required : ∀ field ∈ shape.fields, field.required = true → (t.get? field.name).isSome
  build : ∀ path present, (∀ field ∈ shape.fields,
    present.lookup field.name = (t.get? field.name).map .ofJson) → shape.build path present = .ok a

/-- A look at the entries of a table keeps those that a field knows. Names increase, so that none
was seen before. -/
theorem scan_ofFields {fields : List (Field Document)} {entries : List (String × Json)}
    (path : Path) (seen : List (String × Document)) (hsorted : entries.Pairwise (·.1 < ·.1))
    (hfresh : ∀ entry ∈ entries, seen.lookup entry.1 = none)
    (hsound : ∀ field ∈ fields, ∀ v, entries.lookup field.name = some v →
      ∀ path, field.check path (.ofJson v) = .ok ()) :
    ∃ present, scan fields path seen (Document.ofFields entries) = .ok present ∧
      ∀ field ∈ fields, present.lookup field.name =
        (seen.lookup field.name).or ((entries.lookup field.name).map .ofJson) := by
  induction entries generalizing seen with
  | nil => exact ⟨seen, rfl, fun _ _ => (Option.or_none ..).symm⟩
  | cons entry rest ih =>
    obtain ⟨name, v⟩ := entry
    obtain ⟨hlt, hsorted⟩ := List.pairwise_cons.1 hsorted
    obtain ⟨hname, hfresh⟩ := List.forall_mem_cons.1 hfresh
    have hread : located path (Source.name "field identifier" (Document.text name)) = .ok name :=
      rfl
    have hrestLookup : rest.lookup name = none := Table.lookup_eq_none hlt
    have hsoundRest : ∀ field ∈ fields, ∀ v, rest.lookup field.name = some v →
        ∀ path, field.check path (.ofJson v) = .ok () := by
      intro field hfield v hv
      refine hsound field hfield v ?_
      have hne : field.name ≠ name := by
        intro heq
        rw [heq, hrestLookup] at hv
        cases hv
      rw [Table.lookup_cons, if_neg hne, hv]
    cases hfind : fields.find? (·.name == name) with
    | none =>
      obtain ⟨present, hscan, hpresent⟩ := ih seen hsorted hfresh hsoundRest
      refine ⟨present, ?_, fun field hfield => ?_⟩
      · simp only [Document.ofFields, scan, hread, hfind, bind, Except.bind, hscan]
      · have hne : field.name ≠ name := by simpa using List.find?_eq_none.1 hfind field hfield
        rw [hpresent field hfield, Table.lookup_cons, if_neg hne]
    | some field =>
      have hfield : field ∈ fields := List.mem_of_find?_eq_some hfind
      have hfieldName : field.name = name := by simpa using List.find?_some hfind
      have hcheck := hsound field hfield v (by rw [Table.lookup_cons, if_pos hfieldName])
      have hfreshRest : ∀ entry ∈ rest,
          (seen ++ [(name, Document.ofJson v)]).lookup entry.1 = none := by
        intro entry hentry
        have hne : entry.1 ≠ name := fun heq => String.lt_irrefl name (heq ▸ hlt entry hentry)
        rw [Table.lookup_append, hfresh entry hentry, Table.lookup_cons, if_neg hne]
        rfl
      obtain ⟨present, hscan, hpresent⟩ := ih _ hsorted hfreshRest hsoundRest
      refine ⟨present, ?_, fun field' hfield' => ?_⟩
      · simp only [Document.ofFields, scan, hread, hfind, hname, Option.isSome_none, hcheck,
          bind, Except.bind, hscan, Bool.false_eq_true, if_false]
      · rw [hpresent field' hfield', Table.lookup_append, Table.lookup_cons, Table.lookup_cons]
        by_cases heq : field'.name = name
        · simp [heq, hname]
        · simp [heq]

/-- A record is read if its fields are found. -/
theorem reads_record {name : String} {shape : Fields Document α} {t : Table Json} {a : α}
    (h : shape.Finds t a) : Reads (record name shape) (.ofTable t) a := by
  intro path
  obtain ⟨present, hscan, hpresent⟩ := scan_ofFields path [] t.sorted (fun _ _ => rfl)
    h.sound
  have hlookup : ∀ field ∈ shape.fields,
      present.lookup field.name = (t.get? field.name).map .ofJson := hpresent
  have hmissing : firstMissing? shape.fields present = none := by
    refine List.find?_eq_none.2 fun field hfield => ?_
    rw [hlookup field hfield, Option.isNone_map, Bool.and_eq_true, not_and,
      Option.isNone_iff_eq_none]
    intro hrequired hnone
    have hsome := h.required field hfield hrequired
    rw [hnone] at hsome
    cases hsome
  have hbody : Source.body s!"struct {name}" (Document.ofJson (.ofTable t)) =
      .ok (.named ⟨Document.ofFields t.entries, true⟩) := rfl
  simp only [record, hbody, located, hscan, closing, hmissing, h.build path present hlookup, bind,
    Except.bind, if_pos, placed]

namespace Fields

variable {t : Table Json}

theorem finds_pure (a : α) : (pure a : Fields Document α).Finds t a where
  sound := fun _ hfield => by cases hfield
  required := fun _ hfield => by cases hfield
  build := fun _ _ _ => rfl

theorem Finds.seq {f : Fields Document (α → β)} {x : Fields Document α} {g : α → β} {a : α}
    (hf : f.Finds t g) (hx : x.Finds t a) : (f <*> x).Finds t (g a) where
  sound := fun field hfield =>
    (List.mem_append.1 hfield).elim (hf.sound field) (hx.sound field)
  required := fun field hfield =>
    (List.mem_append.1 hfield).elim (hf.required field) (hx.required field)
  build := fun path present hpresent => by
    have hfunction := hf.build path present fun field hfield =>
      hpresent field (List.mem_append_left _ hfield)
    have hargument := hx.build path present fun field hfield =>
      hpresent field (List.mem_append_right _ hfield)
    show (do
      let f ← f.build path present
      let a ← x.build path present
      pure (f a)) = _
    rw [hfunction, hargument]
    rfl

theorem Finds.map {x : Fields Document α} {a : α} (g : α → β) (hx : x.Finds t a) :
    (g <$> x).Finds t (g a) :=
  (finds_pure g).seq hx

theorem finds_required {name : String} {v : Json} {a : α} (hget : t.get? name = some v)
    (hread : Reads read v a) : (required name read).Finds t a where
  sound := by
    intro field hfield v' hv' path
    obtain rfl := List.mem_singleton.1 hfield
    cases hget.symm.trans hv'
    show (read path (.ofJson v)).map _ = _
    rw [hread]
    rfl
  required := by
    intro field hfield _
    obtain rfl := List.mem_singleton.1 hfield
    rw [hget]
    rfl
  build := by
    intro path present hpresent
    have hlookup := hpresent _ (List.mem_singleton_self _)
    simp only [hget, Option.map_some] at hlookup
    simp only [required, hlookup, hread _]

/-- A field that may be left out is found if its value is read when it is there, and is the one
to take when it is not. -/
theorem finds_default {name : String} {v : Option Json} {absent a : α} (hget : t.get? name = v)
    (hread : ∀ v' ∈ v, Reads read v' a) (habsent : v = none → absent = a) :
    (default name read absent).Finds t a where
  sound := by
    intro field hfield v' hv' path
    obtain rfl := List.mem_singleton.1 hfield
    show (read path (.ofJson v')).map _ = _
    rw [hread v' (hget.symm.trans hv')]
    rfl
  required := by
    intro field hfield hrequired
    obtain rfl := List.mem_singleton.1 hfield
    cases hrequired
  build := by
    intro path present hpresent
    have hlookup := hpresent _ (List.mem_singleton_self _)
    cases v with
    | none =>
      simp only [hget, Option.map_none] at hlookup
      simp only [default, hlookup, habsent rfl]
    | some v =>
      simp only [hget, Option.map_some] at hlookup
      simp only [default, hlookup, hread v rfl _]

end Fields

end AppDeploy.Record
