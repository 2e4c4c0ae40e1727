import AppDeploy.Assignment
import AppDeploy.Proofs.Except
import AppDeploy.Proofs.Table
import Mathlib.Data.List.Forall2

/-!
# Reading assignments

Assignments can be read if every one of them can, and the table of them answers with the
last assignment to a name (`get?_readAll`). What is made of some assignments is made only of
those that can be read (`readAll_bind_eq_ok`).
-/

namespace AppDeploy.Assignment

/-- What some texts say, each of them being an assignment. -/
def ReadAs (texts : List String) (assignments : List Assignment) : Prop :=
  List.Forall₂ (fun text a => ofText text = .ok a) texts assignments

/-- The value that some assignments give to a name: that of the last one to it. -/
def last? (name : String) (assignments : List Assignment) : Option String :=
  (assignments.reverse.find? (·.name = name)).map (·.value)

theorem last?_cons (name : String) (a : Assignment) (rest : List Assignment) :
    last? name (a :: rest) =
      (last? name rest).or (if a.name = name then some a.value else none) := by
  rw [last?, List.reverse_cons, List.find?_append, last?]
  cases rest.reverse.find? (·.name = name) with
  | some found => rfl
  | none => by_cases h : a.name = name <;> simp [h]

theorem get?_readInto {texts : List String} {t read : Table String}
    (h : readInto t texts = .ok read) :
    ∃ assignments, ReadAs texts assignments ∧
      ∀ name, read.get? name = (last? name assignments).or (t.get? name) := by
  induction texts generalizing t with
  | nil =>
    cases h
    exact ⟨[], .nil, fun _ => rfl⟩
  | cons text rest ih =>
    cases ha : ofText text with
    | error e => simp [readInto, ha, bind, Except.bind] at h
    | ok a =>
      simp only [readInto, ha, bind, Except.bind] at h
      obtain ⟨assignments, hread, hget⟩ := ih h
      refine ⟨a :: assignments, .cons ha hread, ?_⟩
      intro name
      rw [hget, Table.get?_insert, last?_cons]
      by_cases hname : name = a.name
      · simp [hname]
      · simp [hname, Ne.symm hname]

theorem get?_readAll {texts : List String} {read : Table String} (h : readAll texts = .ok read) :
    ∃ assignments, ReadAs texts assignments ∧ ∀ name, read.get? name = last? name assignments := by
  obtain ⟨assignments, hread, hget⟩ := get?_readInto h
  refine ⟨assignments, hread, ?_⟩
  intro name
  rw [hget, Table.get?_empty, Option.or_none]

/-- Without the values, the table of some assignments depends on their names only. -/
theorem map_readInto {β : Type} (blank : β) {texts texts' : List String}
    {given given' : List Assignment} (h : ReadAs texts given) (h' : ReadAs texts' given')
    (hnames : given'.map (·.name) = given.map (·.name)) {t t' : Table String}
    (ht : t'.map (fun _ => blank) = t.map fun _ => blank) :
    ∃ read read', readInto t texts = .ok read ∧ readInto t' texts' = .ok read' ∧
      read'.map (fun _ => blank) = read.map fun _ => blank := by
  induction h generalizing texts' given' t t' with
  | nil =>
    cases List.map_eq_nil_iff.1 hnames
    cases h'
    exact ⟨t, t', rfl, rfl, ht⟩
  | @cons text a texts given ha _ ih =>
    cases h' with
    | nil => cases hnames
    | @cons text' a' _ _ ha' hrest' =>
      obtain ⟨hname, hrest⟩ := List.cons.inj hnames
      have hname : a'.name = a.name := hname
      have hinsert : (t'.insert a'.name a'.value).map (fun _ => blank) =
          (t.insert a.name a.value).map fun _ => blank := by
        rw [Table.map_insert, Table.map_insert, hname, ht]
      obtain ⟨read, read', hread, hread', hmap⟩ := ih hrest' hrest hinsert
      refine ⟨read, read', ?_, ?_, hmap⟩
      · rw [readInto, ha]
        exact hread
      · rw [readInto, ha']
        exact hread'

theorem map_readAll {β : Type} (blank : β) {texts texts' : List String}
    {given given' : List Assignment} (h : ReadAs texts given) (h' : ReadAs texts' given')
    (hnames : given'.map (·.name) = given.map (·.name)) :
    ∃ read read', readAll texts = .ok read ∧ readAll texts' = .ok read' ∧
      read'.map (fun _ => blank) = read.map fun _ => blank :=
  map_readInto blank h h' hnames rfl

theorem readAll_bind_eq_ok {ε β : Type} {wrap : Error → ε} {texts : List String}
    {f : Table String → Except ε β} {b : β} :
    ((readAll texts).mapError wrap >>= f) = .ok b ↔
      ∃ read, readAll texts = .ok read ∧ f read = .ok b := by
  simp only [bind_eq_ok, mapError_eq_ok]

end AppDeploy.Assignment
