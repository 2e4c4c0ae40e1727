import AppDeploy.Proofs.Text.Digits
import AppDeploy.Time.Span

/-!
# Spans that are written can be read

The text of a span is a list of parts, each a number of units, and reading adds the parts up
(`readFrom_parts`). The parts of a span add up to the span (`total_parts`), so that the text of
a span is read as that span, as long as its seconds fit 64 bits (`ofText_text`).
-/

namespace AppDeploy.Span

open Text (le_ofDigitChars)

/-! ## Adding units -/

/-- The whole seconds of a span are kept in 64 bits. -/
def Fits (d : Span) : Prop :=
  d.seconds < numberLimit

instance (d : Span) : Decidable d.Fits :=
  inferInstanceAs (Decidable (d.seconds < numberLimit))

theorem numberLimit_eq : numberLimit = 18446744073709551616 := rfl

theorem limited_of_lt {n : Nat} (h : n < numberLimit) : limited n = .ok n :=
  if_pos h

/-- The length of a unit in nanoseconds. -/
def Unit.size (u : Unit) : Nat :=
  u.nanoseconds?.getD (u.seconds * 1000000000)

/-- Seconds and a part of one are added to a total that stays within its bounds. -/
theorem addParts_eq_ok {total : Span} (seconds nanoseconds : Nat) {length : Nat}
    (hlength : seconds * 1000000000 + nanoseconds = length) (hpart : nanoseconds < 1000000000)
    (hfits : Fits ⟨total.nanoseconds + length⟩) :
    addParts total seconds nanoseconds = .ok ⟨total.nanoseconds + length⟩ := by
  simp only [Fits, Span.seconds, numberLimit_eq] at hfits
  have hsubsecond : total.subsecond + nanoseconds < numberLimit := by
    rw [subsecond, numberLimit_eq]
    omega
  -- What is carried over is at most one second.
  have hcarried : (seconds + if 1000000000 < total.subsecond + nanoseconds
      then (total.subsecond + nanoseconds) / 1000000000 else 0) < numberLimit := by
    rw [subsecond, numberLimit_eq]
    split <;> omega
  have htotal : total.seconds + (seconds + if 1000000000 < total.subsecond + nanoseconds
      then (total.subsecond + nanoseconds) / 1000000000 else 0) < numberLimit := by
    rw [subsecond, Span.seconds, numberLimit_eq]
    split <;> omega
  simp only [addParts, limited_of_lt hsubsecond, limited_of_lt hcarried, limited_of_lt htotal,
    bind, Except.bind, pure, Except.pure, ← hlength, Nat.add_assoc]

/-- A number of units, which is less than a second if they are parts of one, is added to a total
that stays within its bounds. -/
theorem addUnits_eq_ok {total : Span} {n : Nat} {name : String} {unit : Unit}
    (hunit : spellings.lookup name = some unit)
    (hpart : unit.nanoseconds?.isSome → n * unit.size < 1000000000)
    (hfits : Fits ⟨total.nanoseconds + n * unit.size⟩) :
    addUnits total n none name = .ok ⟨total.nanoseconds + n * unit.size⟩ := by
  simp only [addUnits, hunit, wholeParts]
  cases hsize : unit.nanoseconds? with
  | some size =>
    have hlength : unit.size = size := by rw [Unit.size, hsize]; rfl
    rw [hlength] at hpart hfits ⊢
    have hpart := hpart (by rw [hsize]; rfl)
    have hlimited : n * size < numberLimit := by rw [numberLimit_eq]; omega
    have hadd := addParts_eq_ok 0 (n * size) (by omega) hpart hfits
    simp only [limited_of_lt hlimited, Except.map, bind, Except.bind, hadd, pure, Except.pure]
  | none =>
    have hlength : unit.size = unit.seconds * 1000000000 := by rw [Unit.size, hsize]; rfl
    rw [hlength, ← Nat.mul_assoc] at hfits ⊢
    have hlimited : n * unit.seconds < numberLimit := by
      simp only [Fits, Span.seconds, numberLimit_eq] at hfits
      rw [numberLimit_eq]
      omega
    have hadd := addParts_eq_ok (n * unit.seconds) 0 (Nat.add_zero _) (by decide) hfits
    simp only [limited_of_lt hlimited, Except.map, bind, Except.bind, hadd, pure, Except.pure]

/-! ## Reading a part -/

/-- The digits of a number are read as the number. -/
theorem readFrom_digits {digits : List Char} {n : Nat} (offset : Nat) (total : Span)
    (rest : List Char)
    (hdigits : ∀ c ∈ digits, c.isDigit = true) (h : Nat.ofDigitChars 10 digits n < numberLimit) :
    ∃ offset', readFrom offset (.number n) total (digits ++ rest) =
      readFrom offset' (.number (Nat.ofDigitChars 10 digits n)) total rest := by
  induction digits generalizing n offset with
  | nil => exact ⟨offset, rfl⟩
  | cons c digits ih =>
    obtain ⟨hc, hdigits⟩ := List.forall_mem_cons.1 hdigits
    have hvalue : Nat.ofDigitChars 10 (c :: digits) n =
        Nat.ofDigitChars 10 digits (n * 10 + digit c) := by
      rw [Nat.ofDigitChars_cons, Nat.mul_comm 10]
      rfl
    rw [hvalue] at h ⊢
    have hlimited := limited_of_lt (Nat.lt_of_le_of_lt (le_ofDigitChars digits _) h)
    obtain ⟨offset', hrest⟩ := ih (offset + c.utf8Size) hdigits h
    refine ⟨offset', ?_⟩
    rw [List.cons_append, readFrom, step, if_pos hc, hlimited]
    exact hrest

/-- A character that can only stand in the name of a unit. -/
def isNameChar (c : Char) : Bool :=
  isUnitChar c && !c.isDigit && !Text.isBlank c

theorem readFrom_name {name : List Char} (offset n : Nat) (before : List Char) (total : Span)
    (rest : List Char) (hname : ∀ c ∈ name, isNameChar c = true) :
    ∃ offset', readFrom offset (.unit n none before) total (name ++ rest) =
      readFrom offset' (.unit n none (before ++ name)) total rest := by
  induction name generalizing before offset with
  | nil => exact ⟨offset, by rw [List.append_nil]; rfl⟩
  | cons c name ih =>
    obtain ⟨hc, hname⟩ := List.forall_mem_cons.1 hname
    simp only [isNameChar, Bool.and_eq_true, Bool.not_eq_true'] at hc
    obtain ⟨⟨hunit, hdigit⟩, hblank⟩ := hc
    obtain ⟨offset', hrest⟩ := ih (offset + c.utf8Size) (before ++ [c]) hname
    refine ⟨offset', ?_⟩
    rw [List.append_assoc] at hrest
    simp only [List.cons_append, readFrom, step, hdigit, hblank, hunit]
    exact hrest

/-! ## Parts -/

/-- A part of the text of a span: a number of units, which go by a name. -/
structure Part where
  number : Nat
  name : String
  unit : Unit

namespace Part

def text (p : Part) : String :=
  s!"{p.number}{p.name}"

def nanoseconds (p : Part) : Nat :=
  p.number * p.unit.size

/-- The name is one that is read as the unit, and what is no whole number of seconds is less than
one. -/
structure Sound (p : Part) : Prop where
  known : spellings.lookup p.name = some p.unit
  name_chars : p.name.toList.all isNameChar = true
  part : p.unit.nanoseconds?.isSome → p.nanoseconds < 1000000000
  number : p.number < numberLimit

/-- The length of some parts, one after the other. -/
def total : List Part → Nat
  | [] => 0
  | p :: rest => p.nanoseconds + total rest

end Part

theorem Part.toList_text (p : Part) :
    p.text.toList = Nat.toDigits 10 p.number ++ p.name.toList := by
  show (toString p.number ++ p.name).toList = _
  rw [String.toList_append, Nat.toString_eq_repr, Nat.toList_repr]

theorem Part.Sound.name_ne_nil {p : Part} (hp : p.Sound) : p.name.toList ≠ [] := by
  intro hname
  have hknown := hp.known
  rw [String.toList_eq_nil_iff.1 hname] at hknown
  cases hknown

/-- A part is read up to the end of its name. -/
theorem readFrom_part {p : Part} (hp : p.Sound) (offset since : Nat) (first : Bool) (total : Span)
    (rest : List Char) :
    ∃ offset', readFrom offset (.before since first) total (p.text.toList ++ rest) =
      readFrom offset' (.unit p.number none p.name.toList) total rest := by
  rw [p.toList_text, List.append_assoc]
  have hdigits : ∀ c ∈ Nat.toDigits 10 p.number, c.isDigit = true :=
    fun c hc => Nat.isDigit_of_mem_toDigits (by decide) (by decide) hc
  have hvalue : Nat.ofDigitChars 10 (Nat.toDigits 10 p.number) 0 = p.number :=
    Nat.ofDigitChars_ten_toDigits
  have hname := List.all_eq_true.1 hp.name_chars
  cases hchars : Nat.toDigits 10 p.number with
  | nil => exact absurd hchars Nat.toDigits_ne_nil
  | cons d digits =>
    rw [hchars] at hdigits hvalue
    obtain ⟨hd, hdigits⟩ := List.forall_mem_cons.1 hdigits
    have hvalue : Nat.ofDigitChars 10 digits (digit d) = p.number := by
      rw [← hvalue, Nat.ofDigitChars_cons]
      rw [Nat.mul_zero, Nat.zero_add]
      rfl
    cases hletters : p.name.toList with
    | nil => exact absurd hletters hp.name_ne_nil
    | cons c letters =>
      rw [hletters] at hname
      obtain ⟨hc, hletters⟩ := List.forall_mem_cons.1 hname
      simp only [isNameChar, Bool.and_eq_true, Bool.not_eq_true'] at hc
      obtain ⟨⟨hunit, hdigit⟩, hblank⟩ := hc
      -- The first digit begins the number, and the first letter ends it.
      obtain ⟨middle, hnumber⟩ := readFrom_digits (offset + d.utf8Size) total
        (c :: (letters ++ rest)) hdigits (by rw [hvalue]; exact hp.number)
      obtain ⟨offset', hrest⟩ :=
        readFrom_name (middle + c.utf8Size) p.number [c] total rest hletters
      refine ⟨offset', ?_⟩
      rw [hvalue] at hnumber
      rw [List.cons_append, readFrom, step, if_pos hd]
      refine hnumber.trans ?_
      simp only [readFrom, step, hdigit, hblank, hunit]
      exact hrest

theorem addUnits_part {p : Part} (hp : p.Sound) (total : Span)
    (hfits : Fits ⟨total.nanoseconds + p.nanoseconds⟩) :
    addUnits total p.number none (String.ofList p.name.toList) =
      .ok ⟨total.nanoseconds + p.nanoseconds⟩ := by
  rw [String.ofList_toList]
  exact addUnits_eq_ok hp.known hp.part hfits

theorem Fits.mono {a b : Span} (h : Fits b) (hle : a.nanoseconds ≤ b.nanoseconds) : Fits a :=
  Nat.lt_of_le_of_lt (Nat.div_le_div_right hle) h

/-- Reading adds up the parts. -/
theorem readFrom_parts {parts : List Part} (hne : parts ≠ []) (hparts : ∀ p ∈ parts, p.Sound)
    (offset since : Nat) (first : Bool) (total : Span)
    (hfits : Fits ⟨total.nanoseconds + Part.total parts⟩) :
    readFrom offset (.before since first) total (" ".intercalate (parts.map Part.text)).toList =
      .ok ⟨total.nanoseconds + Part.total parts⟩ := by
  rw [String.toList_intercalate]
  induction parts generalizing offset since first total with
  | nil => exact absurd rfl hne
  | cons p parts ih =>
    obtain ⟨hp, hparts⟩ := List.forall_mem_cons.1 hparts
    have htotal : Part.total (p :: parts) = p.nanoseconds + Part.total parts := rfl
    rw [htotal, ← Nat.add_assoc] at hfits ⊢
    have hfirst : Fits ⟨total.nanoseconds + p.nanoseconds⟩ := hfits.mono (Nat.le_add_right ..)
    have hadd := addUnits_part hp total hfirst
    cases parts with
    | nil =>
      obtain ⟨offset', hread⟩ := readFrom_part hp offset since first total []
      rw [List.append_nil] at hread
      have htext : " ".toList.intercalate (([p].map Part.text).map String.toList) =
          p.text.toList := by
        simp [List.intercalate]
      rw [htext]
      exact hread.trans hadd
    | cons q parts =>
      obtain ⟨offset', hread⟩ := readFrom_part hp offset since first total
        (' ' :: " ".toList.intercalate (((q :: parts).map Part.text).map String.toList))
      have hrest := ih (List.cons_ne_nil q parts) hparts (offset' + ' '.utf8Size)
        (offset' + ' '.utf8Size) false ⟨total.nanoseconds + p.nanoseconds⟩ hfits
      have htext : " ".toList.intercalate (((p :: q :: parts).map Part.text).map String.toList) =
          p.text.toList ++
            ' ' :: " ".toList.intercalate (((q :: parts).map Part.text).map String.toList) := by
        simp [List.intercalate]
      rw [htext, hread, readFrom]
      simp only [step, hadd]
      exact hrest

/-! ## The parts of a span -/

/-- A number of units, unless there are none. -/
def counted (n : Nat) (name : String) (unit : Unit) : List Part :=
  if n = 0 then [] else [⟨n, name, unit⟩]

/-- A number of units that have a plural. -/
def countedPlural (n : Nat) (name : String) (unit : Unit) : List Part :=
  counted n (if n = 1 then name else name ++ "s") unit

/-- The parts of a span, from years down to nanoseconds. -/
def parts (d : Span) : List Part :=
  let ofYear := d.seconds % 31557600
  let ofMonth := ofYear % 2630016
  let ofDay := ofMonth % 86400
  countedPlural (d.seconds / 31557600) "year" .year ++
  countedPlural (ofYear / 2630016) "month" .month ++
  countedPlural (ofMonth / 86400) "day" .day ++
  counted (ofDay / 3600) "h" .hour ++
  counted (ofDay % 3600 / 60) "m" .minute ++
  counted (ofDay % 60) "s" .second ++
  counted (d.subsecond / 1000000) "ms" .millisecond ++
  counted (d.subsecond / 1000 % 1000) "us" .microsecond ++
  counted (d.subsecond % 1000) "ns" .nanosecond

theorem shortPart_eq (n : Nat) (name : String) (unit : Unit) :
    shortPart n name = (counted n name unit).map Part.text := by
  rw [shortPart, counted]
  split <;> rfl

theorem pluralPart_eq (n : Nat) (name : String) (unit : Unit) :
    pluralPart n name = (countedPlural n name unit).map Part.text := by
  rw [pluralPart, countedPlural, counted]
  split
  · rfl
  · split
    · rfl
    · exact congrArg ([·]) (String.append_assoc ..)

theorem text_eq {d : Span} (h : d.nanoseconds ≠ 0) :
    d.text = " ".intercalate (d.parts.map Part.text) := by
  rw [text, if_neg h, parts]
  simp only [List.map_append, ← shortPart_eq, ← pluralPart_eq]
  rfl

theorem total_counted (n : Nat) (name : String) (unit : Unit) :
    Part.total (counted n name unit) = n * unit.size := by
  rw [counted]
  split
  case isTrue h => rw [h, Nat.zero_mul]; rfl
  case isFalse => exact Nat.add_zero _

theorem total_append (first second : List Part) :
    Part.total (first ++ second) = Part.total first + Part.total second := by
  induction first with
  | nil => exact (Nat.zero_add _).symm
  | cons p first ih => rw [List.cons_append, Part.total, ih, Part.total, Nat.add_assoc]

/-- The parts of a span add up to it. -/
theorem total_parts (d : Span) : Part.total d.parts = d.nanoseconds := by
  simp only [parts, countedPlural, total_append, total_counted]
  simp only [Unit.size, Unit.nanoseconds?, Unit.seconds, Option.getD_none, Option.getD_some]
  rw [subsecond, seconds]
  omega

theorem sound_counted {n : Nat} {name : String} {unit : Unit}
    (hknown : spellings.lookup name = some unit) (hname : name.toList.all isNameChar = true)
    (hpart : unit.nanoseconds?.isSome → n * unit.size < 1000000000) (hnumber : n < numberLimit) :
    ∀ p ∈ counted n name unit, p.Sound := by
  rw [counted]
  split
  · exact List.forall_mem_nil _
  · exact List.forall_mem_singleton.2 ⟨hknown, hname, hpart, hnumber⟩

theorem sound_countedPlural {n : Nat} {name : String} {unit : Unit}
    (hone : spellings.lookup name = some unit) (honeChars : name.toList.all isNameChar = true)
    (hmany : spellings.lookup (name ++ "s") = some unit)
    (hmanyChars : (name ++ "s").toList.all isNameChar = true)
    (hwhole : unit.nanoseconds? = none) (hnumber : n < numberLimit) :
    ∀ p ∈ countedPlural n name unit, p.Sound := by
  have hpart : unit.nanoseconds?.isSome → n * unit.size < 1000000000 := by simp [hwhole]
  rw [countedPlural]
  split
  · exact sound_counted hone honeChars hpart hnumber
  · exact sound_counted hmany hmanyChars hpart hnumber

theorem sound_parts {d : Span} (h : d.Fits) : ∀ p ∈ d.parts, p.Sound := by
  have hseconds : d.seconds < numberLimit := h
  have hsubsecond : d.subsecond < 1000000000 := Nat.mod_lt _ (by decide)
  rw [numberLimit_eq] at hseconds
  simp only [parts, List.forall_mem_append]
  refine ⟨⟨⟨⟨⟨⟨⟨⟨?year, ?month⟩, ?day⟩, ?hour⟩, ?minute⟩, ?second⟩, ?ms⟩, ?us⟩, ?ns⟩
  case year | month | day =>
    refine sound_countedPlural rfl (by decide) rfl (by decide) rfl ?_
    rw [numberLimit_eq]
    omega
  case hour | minute | second =>
    refine sound_counted rfl (by decide) (fun hpart => by cases hpart) ?_
    rw [numberLimit_eq]
    omega
  case ms | us | ns =>
    refine sound_counted rfl (by decide) (fun _ => ?_) ?_
    · simp only [Unit.size, Unit.nanoseconds?, Option.getD_some]
      omega
    · rw [numberLimit_eq]
      omega

/-- The text of a span is read as the span. -/
theorem ofText_text {d : Span} (h : d.Fits) : ofText d.text = .ok d := by
  by_cases hzero : d.nanoseconds = 0
  · obtain ⟨n⟩ := d
    cases hzero
    rfl
  · have hparts : d.parts ≠ [] := by
      intro hnil
      have htotal := total_parts d
      rw [hnil] at htotal
      exact hzero htotal.symm
    have hread := readFrom_parts hparts (sound_parts h) 0 0 true zero
      (by rw [total_parts]; exact Nat.zero_add _ ▸ h)
    rw [← text_eq hzero, total_parts] at hread
    have hlone : d.text ≠ "0" := by
      intro htext
      rw [htext] at hread
      cases hread
    rw [ofText, if_neg hlone, hread]
    exact congrArg (fun n => Except.ok (Span.mk n)) (Nat.zero_add _)

end AppDeploy.Span
