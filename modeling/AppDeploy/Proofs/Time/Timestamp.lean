import AppDeploy.Proofs.Text.Digits
import AppDeploy.Time.Timestamp

/-!
# Points in time that are written can be read

The date of a day has that day's number (`dayOfDate_dateOfDay`), so a date that is written names
the day it was written for. A written point in time is a row of numbers of known widths with
marks between them; each reader takes its own number and leaves the rest, and the numbers add up
to the point in time (`ofText_text`).
-/

namespace AppDeploy.Timestamp

/-! ## The calendar -/

/-- A day of a cycle of 400 years lies in its year: the years before it take up the days before
that year's first. -/
theorem dayOfYear_bounds {d y : Int} (hnonneg : 0 ≤ d) (hlt : d < 146097)
    (hy : y = (d - d / 1460 + d / 36524 - d / 146096) / 365) :
    0 ≤ d - (365 * y + y / 4 - y / 100) ∧ d - (365 * y + y / 4 - y / 100) ≤ 365 := by
  -- A century has 36524 days; only the last day of a cycle would begin a fifth one.
  have hcentury : y / 100 = d / 36524 - d / 146096 := by
    obtain h | h | h | h | h : d / 36524 = 0 ∨ d / 36524 = 1 ∨ d / 36524 = 2 ∨ d / 36524 = 3 ∨
        d = 146096 := by omega
    all_goals rw [hy]; omega
  have hleast : y / 4 ≤ d / 1460 := by omega
  have hmost : d / 1460 ≤ y / 4 + 1 := by omega
  omega

/-- The number of a day whose year and month are counted from March. -/
theorem dayOfDate_march {cycle y m day : Int} (hy : 0 ≤ y ∧ y < 400) (hm : 0 ≤ m ∧ m ≤ 11)
    (hday : 0 ≤ day) :
    dayOfDate
        (if (if m < 10 then m + 3 else m - 9) ≤ 2 then y + cycle * 400 + 1 else y + cycle * 400)
        (if m < 10 then m + 3 else m - 9).toNat day.toNat =
      cycle * 146097 + (365 * y + y / 4 - y / 100 + ((153 * m + 2) / 5 + day - 1)) - 719468 := by
  simp only [dayOfDate, Int.fdiv_eq_ediv_of_nonneg _ (show (0 : Int) ≤ 400 by decide)]
  by_cases hten : m < 10
  · have hyear : (y + cycle * 400) / 400 = cycle := by omega
    simp only [if_pos hten, if_neg (show ¬m + 3 ≤ 2 by omega),
      if_neg (show ¬(m + 3).toNat ≤ 2 by omega), hyear]
    omega
  · have hyear : (y + cycle * 400) / 400 = cycle := by omega
    simp only [if_neg hten, if_pos (show m - 9 ≤ 2 by omega),
      if_pos (show (m - 9).toNat ≤ 2 by omega), Int.add_sub_cancel, hyear]
    omega

/-- The date of a day has the number of that day. -/
theorem dayOfDate_dateOfDay (n : Int) :
    ∃ year month day, dateOfDay n = (year, month, day) ∧ dayOfDate year month day = n ∧
      (1 ≤ month ∧ month ≤ 12) ∧ 1 ≤ day ∧ day ≤ 31 := by
  have hcycle : (n + 719468).fdiv 146097 = (n + 719468) / 146097 :=
    Int.fdiv_eq_ediv_of_nonneg _ (by decide)
  refine ⟨_, _, _, rfl, ?_⟩
  rw [hcycle]
  generalize hd : n + 719468 - (n + 719468) / 146097 * 146097 = d
  have hd0 : 0 ≤ d := by omega
  have hd1 : d < 146097 := by omega
  generalize hy : (d - d / 1460 + d / 36524 - d / 146096) / 365 = y
  have hyear : 0 ≤ y ∧ y < 400 := by omega
  have hbounds := dayOfYear_bounds hd0 hd1 hy.symm
  generalize hofYear : d - (365 * y + y / 4 - y / 100) = ofYear at hbounds ⊢
  clear hy hd0 hd1 hcycle
  generalize hm : (5 * ofYear + 2) / 153 = m
  have hmonth : 0 ≤ m ∧ m ≤ 11 := by omega
  have hday : 1 ≤ ofYear - (153 * m + 2) / 5 + 1 ∧ ofYear - (153 * m + 2) / 5 + 1 ≤ 31 := by omega
  refine ⟨?number, ?month, ?day⟩
  case number => rw [dayOfDate_march hyear hmonth (by omega)]; omega
  case month => split <;> omega
  case day => omega

/-! ## Reading numbers -/

/-- Digits that stand for a number. -/
structure Numeral (cs : List Char) (n : Nat) : Prop where
  digits : ∀ c ∈ cs, c.isDigit = true
  ne_nil : cs ≠ []
  value : Nat.ofDigitChars 10 cs 0 = n

theorem toList_padded (width n : Nat) :
    (padded width n).toList =
      List.replicate (width - (Nat.toDigits 10 n).length) '0' ++ Nat.toDigits 10 n :=
  String.toList_ofList

theorem numeral_padded (width n : Nat) : Numeral (padded width n).toList n where
  digits := by
    rw [toList_padded]
    intro c hc
    obtain hzero | hdigit := List.mem_append.1 hc
    · rw [List.eq_of_mem_replicate hzero]
      rfl
    · exact Nat.isDigit_of_mem_toDigits (by decide) (by decide) hdigit
  ne_nil := by
    rw [toList_padded]
    exact List.append_ne_nil_of_right_ne_nil _ Nat.toDigits_ne_nil
  value := by
    rw [toList_padded, Nat.ofDigitChars_append, Nat.ofDigitChars_replicate_zero]
    simp

/-- A number that fits a width is written in that many digits. -/
theorem length_padded {width n : Nat} (hpos : 0 < width) (h : n < Nat.pow 10 width) :
    (padded width n).toList.length = width := by
  have hlength : (Nat.toDigits 10 n).length ≤ width :=
    (Nat.length_toDigits_le_iff (by decide) hpos).2 h
  rw [toList_padded, List.length_append, List.length_replicate]
  omega

theorem skipBlanks_cons {c : Char} {rest : List Char} (h : Text.isBlank c = false) :
    skipBlanks (c :: rest) = c :: rest := by
  rw [skipBlanks, List.dropWhile_cons, h]
  rfl

namespace Numeral

variable {cs rest : List Char} {n : Nat}

/-- The digits begin the text, whatever follows them. -/
theorem exists_cons (h : Numeral cs n) :
    ∃ c tail, cs = c :: tail ∧ c.isDigit = true := by
  obtain ⟨c, tail, rfl⟩ := List.exists_cons_of_ne_nil h.ne_nil
  exact ⟨c, tail, rfl, h.digits c List.mem_cons_self⟩

theorem skipBlanks_append (h : Numeral cs n) : skipBlanks (cs ++ rest) = cs ++ rest := by
  obtain ⟨c, tail, rfl, hc⟩ := h.exists_cons
  exact skipBlanks_cons (Text.isBlank_of_isDigit hc)

/-- A number is read up to its last digit, if no more digits are wanted or none follows. -/
theorem readNumber_append (h : Numeral cs n) {width : Nat} (hle : cs.length ≤ width)
    (hend : cs.length < width → ∀ c ∈ rest.head?, c.isDigit = false) :
    readNumber width (cs ++ rest) = .ok (n, rest) := by
  have htake : ((cs ++ rest).takeWhile Char.isDigit).take width = cs := by
    rw [List.takeWhile_append_of_pos h.digits]
    obtain hlt | heq := Nat.lt_or_eq_of_le hle
    · have hnone : rest.takeWhile Char.isDigit = [] := by
        cases rest with
        | nil => rfl
        | cons c tail => simp [hend hlt c (by simp)]
      rw [hnone, List.append_nil, List.take_of_length_le hle]
    · rw [← heq, List.take_left']
      rfl
  obtain ⟨c, tail, hcons, hc⟩ := h.exists_cons
  have hread : readNumber width (cs ++ rest) =
      .ok ((((cs ++ rest).takeWhile Char.isDigit).take width).foldl
          (fun n c => n * 10 + (c.toNat - 48)) 0,
        (cs ++ rest).drop (((cs ++ rest).takeWhile Char.isDigit).take width).length) := by
    rw [hcons]
    exact if_pos hc
  rw [hread, htake, Text.foldl_digits, h.value, List.drop_left]

end Numeral

theorem readField_padded {least greatest n : Nat} {rest : List Char} (hn : n < 100)
    (hbounds : least ≤ n ∧ n ≤ greatest) :
    readField least greatest ((padded 2 n).toList ++ rest) = .ok (n, rest) := by
  have hlength : (padded 2 n).toList.length = 2 := length_padded (by decide) hn
  have hnumeral := numeral_padded 2 n
  have hstop : (padded 2 n).toList.length < 2 → ∀ c ∈ rest.head?, c.isDigit = false :=
    fun hlt => absurd hlength (Nat.ne_of_lt hlt)
  simp only [readField, hnumeral.skipBlanks_append,
    hnumeral.readNumber_append (Nat.le_of_eq hlength) hstop, bind, Except.bind, if_pos hbounds,
    pure, Except.pure]

/-- A year is read up to the mark behind it. -/
theorem readYear_text {year : Int} {rest : List Char}
    (hyear : leastYear ≤ year ∧ year ≤ greatestYear) :
    readYear ((yearText year).toList ++ '-' :: rest) = .ok (year, '-' :: rest) := by
  simp only [leastYear, greatestYear] at hyear
  have hrange : -2147483648 ≤ year ∧ year < 2147483648 := by omega
  rw [yearText]
  split
  case isTrue hfour =>
    have hnumeral := numeral_padded 4 year.toNat
    have hlength : (padded 4 year.toNat).toList.length = 4 :=
      length_padded (by decide) (by show _ < 10000; omega)
    have hnumber : readNumber 4 ((padded 4 year.toNat).toList ++ '-' :: rest) =
        pure (year.toNat, '-' :: rest) :=
      hnumeral.readNumber_append (Nat.le_of_eq hlength)
        fun hlt => absurd hlength (Nat.ne_of_lt hlt)
    have hcast : (year.toNat : Int) = year := Int.toNat_of_nonneg hfour.1
    rw [readYear, hnumeral.skipBlanks_append]
    obtain ⟨c, tail, hcons, hc⟩ := hnumeral.exists_cons
    split
    case h_1 heq | h_2 heq =>
      rw [hcons] at heq
      cases heq
      cases hc
    case h_3 =>
      simp only [hnumber, hcast, pure_bind, if_pos hrange]
      rfl
  case isFalse hfour =>
    have hnumeral := numeral_padded 4 year.natAbs
    have hnumber : readNumber ((padded 4 year.natAbs).toList ++ '-' :: rest).length
        ((padded 4 year.natAbs).toList ++ '-' :: rest) = pure (year.natAbs, '-' :: rest) :=
      hnumeral.readNumber_append (by rw [List.length_append]; omega) fun _ c hc => by cases hc; rfl
    rw [String.toList_append, List.append_assoc]
    by_cases hneg : year < 0
    · have hcast : -(year.natAbs : Int) = year := by omega
      rw [if_pos hneg, show ("-" : String).toList = ['-'] from rfl, List.singleton_append,
        readYear, skipBlanks_cons (by decide)]
      simp only [hnumber, hcast, pure_bind, if_pos hrange]
      rfl
    · have hcast : (year.natAbs : Int) = year := by omega
      rw [if_neg hneg, show ("+" : String).toList = ['+'] from rfl, List.singleton_append,
        readYear, skipBlanks_cons (by decide)]
      simp only [hnumber, hcast, pure_bind, if_pos hrange]
      rfl

/-- The fraction of a second is read up to the zone. -/
theorem readFraction_text {n : Nat} (h : n < 1000000000) :
    readFraction ((fractionText n).toList ++ ['Z']) = .ok (n, ['Z']) := by
  have hread : ∀ {width part : Nat}, 0 < width → width ≤ 9 → part < Nat.pow 10 width →
      readFraction (("." ++ padded width part).toList ++ ['Z']) =
        .ok (part * Nat.pow 10 (9 - width), ['Z']) := by
    intro width part hpos hnine hpart
    have hlength := length_padded hpos hpart
    have hnumber : readNumber 9 ((padded width part).toList ++ ['Z']) = .ok (part, ['Z']) :=
      (numeral_padded width part).readNumber_append (by omega) fun _ c hc => by cases hc; rfl
    rw [String.toList_append, show (".": String).toList = ['.'] from rfl, List.append_assoc,
      List.singleton_append]
    simp only [readFraction, hnumber, bind, Except.bind, pure, Except.pure, List.length_append,
      hlength, List.length_singleton, Nat.add_sub_cancel]
    rfl
  rw [fractionText]
  split
  case isTrue hzero => rw [hzero]; rfl
  case isFalse =>
    split
    case isTrue hmilli =>
      rw [hread (by decide) (by decide) (by show _ < 1000; omega)]
      show Except.ok (n / 1000000 * 1000000, ['Z']) = _
      rw [Nat.div_mul_cancel (Nat.dvd_of_mod_eq_zero hmilli)]
    case isFalse =>
      split
      case isTrue hmicro =>
        rw [hread (by decide) (by decide) (by show _ < 1000000; omega)]
        show Except.ok (n / 1000 * 1000, ['Z']) = _
        rw [Nat.div_mul_cancel (Nat.dvd_of_mod_eq_zero hmicro)]
      case isFalse =>
        rw [hread (by decide) (by decide) h]
        show Except.ok (n * 1, ['Z']) = _
        rw [Nat.mul_one]

/-! ## Points in time -/

/-- A point in time is within the years of the calendar, its second is one of the day, and only
the last second of a minute can be a leap second. -/
structure Valid (t : Timestamp) : Prop where
  year : leastYear ≤ (dateOfDay t.day).1 ∧ (dateOfDay t.day).1 ≤ greatestYear
  second : t.second < 86400
  nanosecond : t.nanosecond < 1000000000 ∨ t.nanosecond < 2000000000 ∧ t.second % 60 = 59

/-- The second of the minute that is written. -/
def writtenSecond (t : Timestamp) : Nat :=
  t.second % 60 + if 1000000000 ≤ t.nanosecond then 1 else 0

/-- The fraction of a second that is written, in nanoseconds. -/
def writtenFraction (t : Timestamp) : Nat :=
  if 1000000000 ≤ t.nanosecond then t.nanosecond - 1000000000 else t.nanosecond

/-- The characters of a point in time, number by number. -/
theorem toList_text {t : Timestamp} {year : Int} {month day : Nat}
    (hdate : dateOfDay t.day = (year, month, day)) :
    t.text.toList = (yearText year).toList ++ '-' :: ((padded 2 month).toList ++
      '-' :: ((padded 2 day).toList ++ 'T' :: ((padded 2 (t.second / 3600)).toList ++
      ':' :: ((padded 2 (t.second / 60 % 60)).toList ++ ':' :: ((padded 2 t.writtenSecond).toList ++
      ((fractionText t.writtenFraction).toList ++ ['Z'])))))) := by
  have htext : t.text = yearText year ++ "-" ++ padded 2 month ++ "-" ++ padded 2 day ++ "T" ++
      padded 2 (t.second / 3600) ++ ":" ++ padded 2 (t.second / 60 % 60) ++ ":" ++
      padded 2 t.writtenSecond ++ fractionText t.writtenFraction ++ "Z" := by
    rw [text, hdate]
    rfl
  rw [htext]
  simp

/-- The point in time whose numbers are written. -/
theorem ofLocal_dateOfDay {t : Timestamp} (h : t.Valid) {year : Int} {month day : Nat}
    (hdate : dateOfDay t.day = (year, month, day)) :
    ofLocal year month day (t.second / 3600) (t.second / 60 % 60) t.writtenSecond
      t.writtenFraction 0 = .ok t := by
  obtain ⟨_, _, _, hdate', hnumber, -, -⟩ := dayOfDate_dateOfDay t.day
  cases hdate.symm.trans hdate'
  have hyear := h.year
  have hsecond := h.second
  have hnanosecond := h.nanosecond
  rw [hdate] at hyear
  have hisDate : isDate year month day = true := by
    rw [isDate, hnumber, hdate]
    simp [hyear.1, hyear.2]
  -- A leap second is the second 60, and its fraction is what it has beyond a whole one.
  have hleap : t.writtenSecond = 60 ↔ 1000000000 ≤ t.nanosecond := by
    rw [writtenSecond]
    split <;> omega
  have hmoment : (((t.second / 3600 : Nat) : Int) * 3600 + ((t.second / 60 % 60 : Nat) : Int) * 60 +
      (if t.writtenSecond = 60 then (59 : Nat) else t.writtenSecond : Nat) - 0) = t.second := by
    split
    case isTrue h => have := hleap.1 h; omega
    case isFalse h =>
      have hplain : ¬1000000000 ≤ t.nanosecond := fun hle => h (hleap.2 hle)
      rw [writtenSecond, if_neg hplain]
      omega
  have hfraction : (t.writtenFraction + if t.writtenSecond = 60 then 1000000000 else 0) =
      t.nanosecond := by
    simp only [writtenFraction, hleap]
    split <;> omega
  have hdiv : (t.second : Int).fdiv 86400 = 0 := by
    rw [Int.fdiv_eq_ediv_of_nonneg _ (by decide)]
    omega
  have hmod : (t.second : Int).fmod 86400 = t.second := by
    rw [Int.fmod_eq_emod_of_nonneg _ (by decide)]
    omega
  have hpossible : ¬(year < leastYear ∨ greatestYear < year) := by omega
  simp only [ofLocal, hisDate, hnumber, hmoment, hdiv, hmod, Int.add_zero, hdate, hfraction,
    if_neg hpossible, Int.toNat_natCast]
  rfl

/-- The text of a point in time is read as that point. -/
theorem ofText_text {t : Timestamp} (h : t.Valid) : ofText t.text = .ok t := by
  obtain ⟨year, month, day, hdate, -, hmonth, hday⟩ := dayOfDate_dateOfDay t.day
  have hyear := h.year
  have hsecond := h.second
  have hnanosecond := h.nanosecond
  rw [hdate] at hyear
  have hfraction : t.writtenFraction < 1000000000 := by rw [writtenFraction]; split <;> omega
  have hhour : 0 ≤ t.second / 3600 ∧ t.second / 3600 ≤ 23 := by omega
  have hminute : 0 ≤ t.second / 60 % 60 ∧ t.second / 60 % 60 ≤ 59 := by omega
  have hwritten : 0 ≤ t.writtenSecond ∧ t.writtenSecond ≤ 60 := by
    rw [writtenSecond]
    split <;> omega
  have hmark : ∀ {mark : Char} {rest : List Char}, Text.isBlank mark = false →
      readMark mark (skipBlanks (mark :: rest)) = .ok rest := fun hblank => by
    rw [skipBlanks_cons hblank]
    exact if_pos rfl
  rw [ofText, toList_text hdate]
  simp only [readYear_text hyear, hmark (show Text.isBlank '-' = false by decide),
    hmark (show Text.isBlank ':' = false by decide),
    readField_padded (show month < 100 by omega) hmonth,
    readField_padded (show day < 100 by omega) hday,
    readField_padded (show t.second / 3600 < 100 by omega) hhour,
    readField_padded (show t.second / 60 % 60 < 100 by omega) hminute,
    readField_padded (show t.writtenSecond < 100 by omega) hwritten,
    readFraction_text hfraction, bind, Except.bind, pure, Except.pure]
  exact ofLocal_dateOfDay h hdate

end AppDeploy.Timestamp
