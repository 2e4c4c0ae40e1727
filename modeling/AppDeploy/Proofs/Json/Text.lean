import AppDeploy.Json.Document
import AppDeploy.Json.Text
import Mathlib.Data.Option.Basic
import Mathlib.Tactic.SplitIfs

/-!
# JSON texts read back

A text that is written as a JSON string is read back from it, whatever characters it has
(`readString_escaped`), and so is an object of texts (`ofText_texts`). What is written has no
control characters, so that it is one line (`printable_texts`).
-/

namespace AppDeploy.Json

/-! ## Characters -/

theorem hexValue?_hexDigit : ∀ n < 16, Document.hexValue? (hexDigit n) = some n := by
  decide

/-- The controls without a letter of their own are written by their numbers, the quote, the
backslash and the other controls by a letter, every other character by itself. -/
theorem escapeChar_cases (c : Char) :
    (∃ e, escapeChar c = ['\\', e] ∧ e ≠ 'u' ∧ 32 ≤ e.toNat ∧
      Document.shortEscapes.lookup e = some c) ∨
    (c.toNat < 32 ∧ escapeChar c =
      ['\\', 'u', '0', '0', hexDigit (c.toNat / 16), hexDigit (c.toNat % 16)]) ∨
    (32 ≤ c.toNat ∧ c ≠ '"' ∧ c ≠ '\\' ∧ escapeChar c = [c]) := by
  unfold escapeChar
  split_ifs with quote backslash newline ret tab back form control
  · exact .inl ⟨_, rfl, by decide, by decide, by subst quote; decide⟩
  · exact .inl ⟨_, rfl, by decide, by decide, by subst backslash; decide⟩
  · exact .inl ⟨_, rfl, by decide, by decide, by subst newline; decide⟩
  · exact .inl ⟨_, rfl, by decide, by decide, by subst ret; decide⟩
  · exact .inl ⟨_, rfl, by decide, by decide, by subst tab; decide⟩
  · exact .inl ⟨_, rfl, by decide, by decide, by subst back; decide⟩
  · exact .inl ⟨_, rfl, by decide, by decide, by subst form; decide⟩
  · exact .inr (.inl ⟨control, rfl⟩)
  · exact .inr (.inr ⟨Nat.le_of_not_lt control, quote, backslash, rfl⟩)

namespace Document

theorem readHex_control {n : Nat} (h : n < 32) :
    readHex ['0', '0', hexDigit (n / 16), hexDigit (n % 16)] = some (n, []) := by
  have high := hexValue?_hexDigit (n / 16) (by omega)
  have low := hexValue?_hexDigit (n % 16) (by omega)
  have zero : hexValue? '0' = some 0 := by decide
  simp only [readHex, zero, high, low, Option.bind_eq_bind, Option.bind_some, Option.pure_def]
  congr 2
  omega

/-- A control is the character of its number: it is no surrogate. -/
theorem charsOf_control {c : Char} (h : c.toNat < 32) (rest : List Piece) :
    charsOf (.unit c.toNat :: rest) = (charsOf rest).map (c :: ·) := by
  have noHigh : isHighSurrogate c.toNat = false := by simp [isHighSurrogate]; omega
  have noLow : isLowSurrogate c.toNat = false := by simp [isLowSurrogate]; omega
  rw [charsOf.eq_def]
  simp [noHigh, noLow]

/-- What a written character reads as: a piece that stands for it. -/
theorem readPieces_escapeChar (c : Char) (cs : List Char) :
    ∃ piece, (∀ rest, charsOf (piece :: rest) = (charsOf rest).map (c :: ·)) ∧
      readPieces (escapeChar c ++ cs) =
        (readPieces cs).map fun found => (piece :: found.1, found.2) := by
  obtain ⟨e, written, noUnit, -, stands⟩ | ⟨control, written⟩ |
    ⟨plain, quote, backslash, written⟩ := escapeChar_cases c
  · refine ⟨.char c, fun _ => rfl, ?_⟩
    rw [written, List.cons_append, List.cons_append, List.nil_append,
      readPieces.eq_4 _ _ fun _ _ _ _ _ unit _ => noUnit unit, stands]
    cases readPieces cs <;> rfl
  · refine ⟨.unit c.toNat, charsOf_control control, ?_⟩
    simp only [written, List.cons_append, List.nil_append]
    rw [readPieces, readHex_control control]
    cases readPieces cs <;> rfl
  · have allowed : (guard (32 ≤ c.toNat) : Option Unit) = some () := if_pos plain
    refine ⟨.char c, fun _ => rfl, ?_⟩
    rw [written, List.cons_append, List.nil_append, readPieces.eq_5 _ _ quote
      (fun _ _ _ _ _ escape _ => backslash escape) fun _ _ escape _ => backslash escape, allowed]
    cases readPieces cs <;> rfl

/-- A text is read back from its characters as they are written in a string. -/
theorem readString_escaped (s : String) (cs : List Char) :
    readString (s.toList.flatMap escapeChar ++ '"' :: cs) = (.text s, some cs) := by
  have pieces : ∀ chars : List Char, ∃ pieces, charsOf pieces = some chars ∧
      readPieces (chars.flatMap escapeChar ++ '"' :: cs) = some (pieces, cs) := by
    intro chars
    induction chars with
    | nil => exact ⟨[], rfl, by simp [readPieces]⟩
    | cons c chars ih =>
      obtain ⟨pieces, stand, read⟩ := ih
      obtain ⟨piece, stands, reads⟩ :=
        readPieces_escapeChar c (chars.flatMap escapeChar ++ '"' :: cs)
      refine ⟨piece :: pieces, by rw [stands, stand]; rfl, ?_⟩
      rw [List.flatMap_cons, List.append_assoc, reads, read]
      rfl
  obtain ⟨pieces, stand, read⟩ := pieces s.toList
  rw [readString, read]
  simp only [stand, String.ofList_toList]

/-! ## Objects of texts -/

theorem skipSpace_of_not {c : Char} (h : isSpace c = false) (cs : List Char) :
    skipSpace (c :: cs) = c :: cs := by
  simp [skipSpace, h]

theorem readValue_stringText (depth fuel : Nat) (s : String) (cs : List Char) :
    readValue depth (fuel + 1) ((stringText s).toList ++ cs) = (.text s, some cs) := by
  have characters : (stringText s).toList ++ cs =
      '"' :: (s.toList.flatMap escapeChar ++ '"' :: cs) := by
    simp [stringText]
  rw [characters, readValue, skipSpace_of_not (by decide)]
  exact readString_escaped s cs

theorem readValue_record (depth fuel : Nat) {c : Char} (hspace : isSpace c = false)
    (hbrace : c ≠ '}') (cs : List Char) :
    readValue depth (fuel + 1) ('{' :: c :: cs) =
      (guardDepth (depth + 1) (.record (readFields (depth + 1) fuel (c :: cs)).1
          (readFields (depth + 1) fuel (c :: cs)).2.isSome),
        (readFields (depth + 1) fuel (c :: cs)).2) := by
  rw [readValue, skipSpace_of_not (by decide)]
  simp only [skipSpace_of_not hspace]
  split
  · next h => exact absurd (List.cons.inj h).1 hbrace
  · rfl

theorem characters_textField (name value : String) (cs : List Char) :
    (stringText name ++ ":" ++ stringText value).toList ++ cs =
      '"' :: (name.toList.flatMap escapeChar ++ '"' ::
        ':' :: ((stringText value).toList ++ cs)) := by
  simp [stringText]

theorem readFields_last (depth fuel : Nat) (name value : String) (cs : List Char) :
    readFields depth (fuel + 2)
        ((stringText name ++ ":" ++ stringText value).toList ++ '}' :: cs) =
      ([(.text name, .text value)], some cs) := by
  rw [characters_textField, readFields, skipSpace_of_not (by decide)]
  simp only [readString_escaped, readValue_stringText, skipSpace_of_not (c := ':') (by decide),
    skipSpace_of_not (c := '}') (by decide)]

theorem readFields_next (depth fuel : Nat) (name value : String) (cs : List Char) :
    readFields depth (fuel + 2)
        ((stringText name ++ ":" ++ stringText value).toList ++ ',' :: cs) =
      ((.text name, .text value) :: (readFields depth (fuel + 1) cs).1,
        (readFields depth (fuel + 1) cs).2) := by
  rw [characters_textField, readFields, skipSpace_of_not (by decide)]
  simp only [readString_escaped, readValue_stringText, skipSpace_of_not (c := ':') (by decide),
    skipSpace_of_not (c := ',') (by decide)]

end Document

/-- The fields of an object of texts. -/
def textFields (fields : List (String × String)) : List (String × Json) :=
  fields.map fun field => (field.1, .str field.2)

theorem fieldsText_cons (field : String × String) (rest : List (String × String)) :
    fieldsText (textFields (field :: rest)) =
      stringText field.1 ++ ":" ++ stringText field.2 ++
        if rest = [] then "" else "," ++ fieldsText (textFields rest) := by
  cases rest with
  | nil => simp [textFields, fieldsText, text]
  | cons next rest => simp [textFields, fieldsText, text, String.append_assoc]

namespace Document

/-- The fields are read one by one, each with the fuel of its own and one more. -/
theorem readFields_texts (depth : Nat) (field : String × String) (rest : List (String × String))
    (cs : List Char) (fuel : Nat) (hfuel : rest.length < fuel) :
    readFields depth (fuel + 1) ((fieldsText (textFields (field :: rest))).toList ++ '}' :: cs) =
      (ofFields (textFields (field :: rest)), some cs) := by
  induction rest generalizing field fuel with
  | nil =>
    obtain ⟨fuel, rfl⟩ := Nat.exists_eq_add_one.2 hfuel
    rw [fieldsText_cons, if_pos rfl, String.append_empty, readFields_last]
    rfl
  | cons next rest ih =>
    obtain ⟨fuel, rfl⟩ := Nat.exists_eq_add_one.2 (Nat.zero_lt_of_lt hfuel)
    have later := ih next fuel (Nat.lt_of_succ_lt_succ hfuel)
    have comma : ("," ++ fieldsText (textFields (next :: rest))).toList ++ '}' :: cs =
        ',' :: ((fieldsText (textFields (next :: rest))).toList ++ '}' :: cs) := by
      simp
    rw [fieldsText_cons, if_neg (List.cons_ne_nil next rest), String.toList_append,
      List.append_assoc, comma, readFields_next, later]
    rfl

theorem length_lt_fieldsText (field : String × String) (rest : List (String × String)) :
    rest.length < (fieldsText (textFields (field :: rest))).length := by
  have colon : ":".length = 1 := rfl
  induction rest generalizing field with
  | nil =>
    rw [fieldsText_cons, List.length_nil]
    simp only [String.length_append]
    omega
  | cons next rest ih =>
    have later := ih next
    rw [fieldsText_cons, if_neg (List.cons_ne_nil next rest), List.length_cons]
    simp only [String.length_append]
    omega

/-- The name of its first field stands at the beginning of an object. -/
theorem fieldsText_quote (field : String × String) (rest : List (String × String)) :
    ∃ cs, (fieldsText (textFields (field :: rest))).toList = '"' :: cs := by
  simp [fieldsText_cons, stringText]

/-- An object of texts is read back from its text. -/
theorem ofText_texts (fields : List (String × String)) :
    ofText (Json.text (.obj (textFields fields))) = (ofJson (.obj (textFields fields)), true) := by
  cases fields with
  | nil => rfl
  | cons field rest =>
    obtain ⟨cs, quote⟩ := fieldsText_quote field rest
    have written : (Json.text (.obj (textFields (field :: rest)))).toList =
        '{' :: '"' :: (cs ++ ['}']) := by
      simp [Json.text, quote]
    have fuel : rest.length < 2 * ('{' :: '"' :: (cs ++ ['}'])).length := by
      have shorter := length_lt_fieldsText field rest
      rw [← String.length_toList, quote] at shorter
      simp only [List.length_cons, List.length_append] at shorter ⊢
      omega
    have fields := readFields_texts 1 field rest [] _ fuel
    rw [quote, List.cons_append] at fields
    rw [ofText, written]
    simp only [readValue_record 0 _ (c := '"') (by decide) (by decide), fields]
    rfl

end Document

/-! ## One line -/

/-- A text has no control characters. In particular it is one line. -/
def Printable (s : String) : Prop :=
  ∀ c ∈ s.toList, 32 ≤ c.toNat

instance (s : String) : Decidable (Printable s) :=
  List.decidableBAll (fun c : Char => 32 ≤ c.toNat) s.toList

theorem Printable.append {s t : String} (hs : Printable s) (ht : Printable t) :
    Printable (s ++ t) := by
  intro c hc
  rw [String.toList_append, List.mem_append] at hc
  exact hc.elim (hs c) (ht c)

theorem printable_escapeChar (c : Char) : ∀ d ∈ escapeChar c, 32 ≤ d.toNat := by
  obtain ⟨e, written, -, letter, -⟩ | ⟨control, written⟩ | ⟨plain, -, -, written⟩ :=
    escapeChar_cases c
  · rw [written]
    simp only [List.forall_mem_cons]
    exact ⟨by decide, letter, List.forall_mem_nil _⟩
  · have digit : ∀ n < 16, 32 ≤ (hexDigit n).toNat := by decide
    rw [written]
    simp only [List.forall_mem_cons]
    exact ⟨by decide, by decide, by decide, by decide, digit _ (by omega), digit _ (by omega),
      List.forall_mem_nil _⟩
  · simpa [written] using plain

theorem printable_stringText (s : String) : Printable (stringText s) := by
  intro d hd
  simp only [stringText, String.toList_ofList, List.cons_append, List.mem_cons, List.mem_append,
    List.mem_flatMap, List.not_mem_nil, or_false] at hd
  rcases hd with rfl | ⟨c, -, hd⟩ | rfl
  · decide
  · exact printable_escapeChar c d hd
  · decide

theorem printable_texts (fields : List (String × String)) :
    Printable (text (.obj (textFields fields))) := by
  have body : Printable (fieldsText (textFields fields)) := by
    induction fields with
    | nil => exact List.forall_mem_nil _
    | cons field rest ih =>
      have first := ((printable_stringText field.1).append (t := ":") (by decide)).append
        (printable_stringText field.2)
      rw [fieldsText_cons]
      refine first.append ?_
      split
      · exact List.forall_mem_nil _
      · exact Printable.append (s := ",") (by decide) ih
  rw [text]
  exact (Printable.append (s := "\x7b") (by decide) body).append (by decide)

end AppDeploy.Json
