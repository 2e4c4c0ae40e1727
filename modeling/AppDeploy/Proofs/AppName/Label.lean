import AppDeploy.AppName
import AppDeploy.Image.Tag
import AppDeploy.Json.Decode
import AppDeploy.Proofs.AppName
import AppDeploy.Proofs.Except
import AppDeploy.Proofs.Text.Percent
import AppDeploy.Yaml.Decode

/-!
# Names of apps are labels

A text is read as the name of an app exactly if it is a label of the domain name system (`IsLabel`):
the checks that follow one after the other come to that (`charsError?_eq_none_iff`). It does not
matter where the text stands. Nothing in a label has to be encoded or ends the part of a tag that
it stands in, so a tag tells the app and the label that it was made from (`names_are_labels`).
-/

namespace AppDeploy.AppName

/-- The characters of labels. -/
def LabelChar (c : Char) : Prop :=
  ('a' ≤ c ∧ c ≤ 'z') ∨ ('0' ≤ c ∧ c ≤ '9') ∨ c = '-'

/-- Labels of the domain name system, as of RFC 1123, in small letters. -/
structure IsLabel (s : String) : Prop where
  nonempty : 1 ≤ s.length
  short : s.length ≤ 63
  chars : ∀ c ∈ s.toList, LabelChar c
  first : s.toList.head? ≠ some '-'
  last : s.toList.getLast? ≠ some '-'

/-- Names of apps are labels, and nothing else is read as one. -/
structure AreLabels : Prop where
  accepted : ∀ s, (∃ app, ofText s = .ok app) ↔ IsLabel s
  unchanged : ∀ s app, ofText s = .ok app → app.text = s
  /-- In JSON, a name is a string that is accepted, and nothing else. -/
  json : ∀ text app, Json.decode read text = .ok app ↔
    ∃ s, Json.Document.ofText text = (.text s, true) ∧ ofText s = .ok app
  /-- In YAML, a name is a scalar whose text is accepted, and nothing else. -/
  yaml : ∀ text app, Yaml.decode read text = .ok app ↔
    ∃ scalar, Yaml.Node.ofText? text = some (.scalar scalar) ∧ ofText scalar.text = .ok app
  unescaped : ∀ app : AppName, Text.Percent.encode app.text = app.text
  /-- The part of a tag that names an image ends with a slash, a colon or an at sign. -/
  undivided : ∀ app : AppName, ∀ c ∈ app.text.toList, c ≠ '/' ∧ c ≠ ':' ∧ c ≠ '@'
  tagged : ∀ registry app app' label label',
    ImageTag.text registry app label = ImageTag.text registry app' label' ↔
      app = app' ∧ label = label'

variable {s : String} {cs : List Char} {c : Char} {app : AppName}

/-! ## The checks -/

theorem isNameChar_iff : isNameChar c = true ↔ LabelChar c := by
  show ((decide ('a' ≤ c) && decide (c ≤ 'z')) || (decide ('0' ≤ c) && decide (c ≤ '9')) ||
    decide (c = '-')) = true ↔ LabelChar c
  simp [LabelChar, or_assoc]

/-- Capitals are told apart from other characters only to say what is wrong with them. -/
theorem charError?_eq_none_iff : charError? c = none ↔ LabelChar c := by
  have hcapital : c.isUpper = true → isNameChar c = false := by
    intro hupper
    have hrange : 65 ≤ c.toNat ∧ c.toNat ≤ 90 := of_decide_eq_true hupper
    rw [← Bool.not_eq_true, isNameChar_iff]
    rintro (⟨hlow, -⟩ | ⟨-, hhigh⟩ | rfl)
    · have hletter : 97 ≤ c.toNat := hlow
      omega
    · have hdigit : c.toNat ≤ 57 := hhigh
      omega
    · revert hrange
      decide
  rw [← isNameChar_iff, charError?]
  split
  · next hupper => simp [hcapital hupper]
  · simp

theorem length_le_byteLength (cs : List Char) : cs.length ≤ byteLength cs := by
  induction cs with
  | nil => exact Nat.le_refl 0
  | cons c rest ih =>
    have hpos := c.utf8Size_pos
    rw [List.length_cons, byteLength]
    omega

/-- The characters of labels are single bytes. -/
theorem byteLength_of_label (h : ∀ c ∈ cs, LabelChar c) : byteLength cs = cs.length := by
  induction cs with
  | nil => rfl
  | cons c rest ih =>
    obtain ⟨hc, hrest⟩ := List.forall_mem_cons.1 h
    have hsize : c.utf8Size = 1 := by
      rw [Char.utf8Size_eq_one_iff, UInt32.le_iff_toNat_le]
      rcases hc with ⟨-, hhigh⟩ | ⟨-, hhigh⟩ | rfl
      · exact Nat.le_trans (UInt32.le_iff_toNat_le.1 hhigh) (by decide)
      · exact Nat.le_trans (UInt32.le_iff_toNat_le.1 hhigh) (by decide)
      · decide
    rw [byteLength, ih hrest, hsize, List.length_cons, Nat.add_comm]

theorem charsError?_eq_none_iff : charsError? s.toList = none ↔ IsLabel s := by
  have hchars : s.toList.findSome? charError? = none ↔ ∀ c ∈ s.toList, LabelChar c := by
    simp only [List.findSome?_eq_none_iff, charError?_eq_none_iff]
  rw [charsError?]
  constructor
  · intro h
    split at h
    · cases h
    next hne =>
    split at h
    · cases h
    next hshort =>
    split at h
    · cases h
    next hedge =>
    rw [not_or] at hedge
    refine ⟨List.length_pos_iff.2 hne, ?_, hchars.1 h, hedge.1, hedge.2⟩
    exact Nat.le_trans (length_le_byteLength s.toList) (Nat.le_of_not_lt hshort)
  · rintro ⟨hne, hshort, hlabel, hfirst, hlast⟩
    have hbytes : ¬maxLength < byteLength s.toList := by
      rw [byteLength_of_label hlabel]
      exact Nat.not_lt.2 hshort
    rw [if_neg (List.length_pos_iff.1 hne), if_neg hbytes, if_neg (not_or.2 ⟨hfirst, hlast⟩)]
    exact hchars.2 hlabel

theorem isLabel_text (app : AppName) : IsLabel app.text :=
  charsError?_eq_none_iff.1 app.sound

theorem exists_ofText_iff : (∃ app, ofText s = .ok app) ↔ IsLabel s := by
  simp only [ofText_eq_ok, ← charsError?_eq_none_iff]
  constructor
  · rintro ⟨app, rfl⟩
    exact app.sound
  · exact fun h => ⟨⟨s, h⟩, rfl⟩

/-! ## Names in documents -/

theorem located_eq_ok {α : Type} {path : Record.Path} {x : Except Record.Fault α} {a : α} :
    Record.located path x = .ok a ↔ x = .ok a := by
  cases x with
  | error fault => exact iff_of_false nofun nofun
  | ok b => simp [Record.located]

theorem read_eq_ok {δ : Type} [Record.Source δ] {path : Record.Path} {d : δ} :
    read path d = .ok app ↔
      ∃ s, Record.Source.text "a string" d = .ok s ∧ ofText s = .ok app := by
  simp only [read, bind_eq_ok, Record.text, located_eq_ok]
  refine exists_congr fun s => and_congr_right fun _ => ?_
  cases ofText s with
  | ok name => simp [pure, Except.pure]
  | error e => exact iff_of_false nofun nofun

/-- Only a string of JSON has a text. -/
theorem text_json_eq_ok {d : Json.Document} :
    Record.Source.text "a string" d = .ok s ↔ d = .text s := by
  show d.asText "a string" = .ok s ↔ d = .text s
  cases d with
  | text t => simp [Json.Document.asText]
  | _ =>
    refine iff_of_false (fun h => ?_) nofun
    obtain ⟨_, _, hthrow⟩ := bind_eq_ok.1 h
    cases hthrow

/-- Only a scalar of YAML has a text. -/
theorem text_yaml_eq_ok {n : Yaml.Node} :
    Record.Source.text "a string" n = .ok s ↔ ∃ scalar, n = .scalar scalar ∧ scalar.text = s := by
  show n.asText "a string" = .ok s ↔ ∃ scalar, n = .scalar scalar ∧ scalar.text = s
  cases n with
  | scalar scalar => simp [Yaml.Node.asText]
  | _ =>
    refine iff_of_false (fun h => ?_) nofun
    obtain ⟨_, _, hthrow⟩ := bind_eq_ok.1 h
    cases hthrow

theorem decode_json_eq_ok {text : String} : Json.decode read text = .ok app ↔
    ∃ s, Json.Document.ofText text = (.text s, true) ∧ ofText s = .ok app := by
  have hdecode : Json.decode read text = .ok app ↔
      ∃ d, Json.Document.ofText text = (d, true) ∧ read [] d = .ok app := by
    rw [Json.decode]
    obtain ⟨d, alone⟩ := Json.Document.ofText text
    simp only [Prod.mk.injEq]
    cases hread : read [] d <;> cases alone <;> simp [hread]
  simp only [hdecode, read_eq_ok, text_json_eq_ok]
  constructor
  · rintro ⟨_, hdocument, s, rfl, hs⟩
    exact ⟨s, hdocument, hs⟩
  · rintro ⟨s, hdocument, hs⟩
    exact ⟨_, hdocument, s, rfl, hs⟩

theorem decode_yaml_eq_ok {text : String} : Yaml.decode read text = .ok app ↔
    ∃ scalar, Yaml.Node.ofText? text = some (.scalar scalar) ∧ ofText scalar.text = .ok app := by
  rw [Yaml.decode]
  cases Yaml.Node.ofText? text with
  | none => exact iff_of_false nofun nofun
  | some n =>
    simp only [mapError_eq_ok, read_eq_ok, text_yaml_eq_ok, Option.some.injEq]
    constructor
    · rintro ⟨_, ⟨scalar, hn, rfl⟩, hs⟩
      exact ⟨scalar, hn, hs⟩
    · rintro ⟨scalar, hn, hs⟩
      exact ⟨_, ⟨scalar, hn, rfl⟩, hs⟩

/-! ## Names in paths and tags -/

theorem isUnreserved_of_labelChar (h : LabelChar c) : Text.Percent.isUnreserved c = true := by
  rw [← isNameChar_iff, isNameChar, Bool.or_eq_true, Bool.or_eq_true] at h
  rcases h with (hlower | hdigit) | hhyphen
  · have halphanum : c.isAlphanum = true := by
      show (c.isUpper || c.isLower || c.isDigit) = true
      rw [hlower, Bool.or_true, Bool.true_or]
    simp [Text.Percent.isUnreserved, halphanum]
  · have halphanum : c.isAlphanum = true := by
      show (c.isAlpha || c.isDigit) = true
      rw [hdigit, Bool.or_true]
    simp [Text.Percent.isUnreserved, halphanum]
  · simp [Text.Percent.isUnreserved, of_decide_eq_true hhyphen]

theorem ne_of_labelChar (h : LabelChar c) : c ≠ '/' ∧ c ≠ ':' ∧ c ≠ '@' := by
  refine ⟨?_, ?_, ?_⟩ <;>
  · rintro rfl
    revert h
    unfold LabelChar
    decide

/-- The first colon after the name of the app stands before the label. -/
theorem tag_inj {registry label label' : String} {app' : AppName} :
    ImageTag.text registry app label = ImageTag.text registry app' label' ↔
      app = app' ∧ label = label' := by
  constructor
  · intro h
    have hchars : app.text.toList ++ ':' :: label.toList =
        app'.text.toList ++ ':' :: label'.toList := by
      have htags := congrArg String.toList h
      simpa [ImageTag.text, toString, List.append_cancel_left_eq] using htags
    have happ (app : AppName) (label : String) :
        (app.text.toList ++ ':' :: label.toList).takeWhile (· ≠ ':') = app.text.toList := by
      rw [List.takeWhile_append_of_pos fun c hc =>
        decide_eq_true (ne_of_labelChar ((isLabel_text app).chars c hc)).2.1]
      simp
    have hnames : app.text.toList = app'.text.toList := by
      rw [← happ app label, hchars, happ]
    rw [hnames] at hchars
    have hlabels := List.tail_eq_of_cons_eq (List.append_cancel_left hchars)
    exact ⟨text_inj.1 (String.toList_inj.1 hnames), String.toList_inj.1 hlabels⟩
  · rintro ⟨rfl, rfl⟩
    rfl

/-- The name of an app is a label wherever it is read, and keeps apart what is made from it. -/
theorem names_are_labels : AreLabels where
  accepted _ := exists_ofText_iff
  unchanged _ _ := ofText_eq_ok.1
  json _ _ := decode_json_eq_ok
  yaml _ _ := decode_yaml_eq_ok
  unescaped app := Text.Percent.encode_of_unreserved fun c hc =>
    isUnreserved_of_labelChar ((isLabel_text app).chars c hc)
  undivided app c hc := ne_of_labelChar ((isLabel_text app).chars c hc)
  tagged _ _ _ _ _ := tag_inj

end AppDeploy.AppName
