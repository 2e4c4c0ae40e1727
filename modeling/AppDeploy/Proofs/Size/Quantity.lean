import AppDeploy.Proofs.Number.Rounding
import AppDeploy.Proofs.Text.Digits
import AppDeploy.Size
import Mathlib.Data.List.Basic

/-!
# Sizes as quantities

A size is told as a number and a unit (`Quantity`), which is a proper way to tell a number of bytes
if the number is below a thousand and off by no more than half of its last digit (`Proper`). With
exact arithmetic for the doubles the quantity is `reading`, and `reading_proper_iff` says when it is
proper: the unit is chosen before the value is rounded, so a value just below the next unit is told
as a thousand, and the value is rounded to tenths and then again, so a value near a half may go to
the farther of its neighbours.
-/

namespace AppDeploy.Size

open Binary64 (roundDiv)
open Text (isDigit_of_mem_toString eq_of_toList_toString_eq)

/-! ## Vocabulary -/

/-- The digits of a number, the last of them after the point or not, and how many units above the
byte its unit is. -/
structure Quantity where
  digits : ℕ
  tenths : Bool
  power : ℕ

namespace Quantity

/-- What a one at the last digit says. -/
def place (q : Quantity) : ℚ :=
  if q.tenths then 1 / 10 else 1

def amount (q : Quantity) : ℚ :=
  q.digits * q.place

def unit (q : Quantity) : ℚ :=
  1000 ^ q.power

def number (q : Quantity) : String :=
  if q.tenths then s!"{q.digits / 10}.{q.digits % 10}" else s!"{q.digits}"

def text (q : Quantity) : String :=
  q.number ++ " " ++ units.getD q.power ""

@[simp] theorem place_tenths (t p : ℕ) : place ⟨t, true, p⟩ = 1 / 10 := rfl

@[simp] theorem place_whole (m p : ℕ) : place ⟨m, false, p⟩ = 1 := rfl

@[simp] theorem amount_tenths (t p : ℕ) : amount ⟨t, true, p⟩ = t / 10 := by
  rw [amount, place_tenths, mul_one_div]

@[simp] theorem amount_whole (m p : ℕ) : amount ⟨m, false, p⟩ = m := by
  rw [amount, place_whole, mul_one]

/-- A quantity tells a number of bytes as well as its digits can. -/
structure Proper (n : ℕ) (q : Quantity) : Prop where
  listed : q.power < units.length
  below : q.amount < 1000
  above : 1 ≤ n → 1 ≤ q.amount
  near : |q.amount * q.unit - n| ≤ q.place * q.unit / 2
  small : n < 10 → q.amount * q.unit = n

/-- What a quantity still tells that was rounded twice, and in doubles. -/
structure Rough (n : ℕ) (q : Quantity) : Prop where
  listed : q.power < units.length
  below : q.amount ≤ 1000
  above : 1 ≤ n → 1 ≤ q.amount
  near : |q.amount * q.unit - n| ≤ (if q.tenths then 1 / 20 else 11 / 20) * q.unit + n / 2 ^ 48

end Quantity

/-- The quantity for a number of tenths: from ten on the tenths are rounded away. -/
def ofTenths (t power : ℕ) : Quantity :=
  if t < 100 then ⟨t, true, power⟩ else ⟨roundDiv t 10, false, power⟩

/-- The greatest unit that is not above a number of bytes. -/
def powerOf (n : ℕ) : ℕ :=
  min 6 (Nat.log 1000 n)

def valueOf (n : ℕ) : ℚ :=
  n / 1000 ^ powerOf n

/-- The tenths of a value, a half going up. -/
def tenthsOf (v : ℚ) : ℕ :=
  ⌊v * 10 + 1 / 2⌋₊

/-- The quantity for a number of bytes in exact arithmetic. -/
def reading (n : ℕ) : Quantity :=
  if n < 10 then ⟨n, false, 0⟩ else ofTenths (tenthsOf (valueOf n)) (powerOf n)

/-- Tenths that end in five are rounded again, to an even number, though the value was on the other
side of the half. -/
def RoundsAway (v : ℚ) : Prop :=
  ∃ w : ℕ, 10 ≤ w ∧
    (Odd w ∧ w + 9 / 20 ≤ v ∧ v < w + 1 / 2 ∨ Even w ∧ w + 1 / 2 < v ∧ v < w + 11 / 20)

/-- The value is rounded to a thousand of its unit, or away from the nearest number. -/
def Slips (n : ℕ) : Prop :=
  999 + 9 / 20 ≤ valueOf n ∨ RoundsAway (valueOf n)

/-! ## The text of a quantity -/

namespace Quantity

variable {q q' : Quantity}

theorem point_notMem (n : ℕ) : '.' ∉ (toString n).toList := fun h =>
  absurd (isDigit_of_mem_toString h) (by decide)

theorem blank_notMem (n : ℕ) : ' ' ∉ (toString n).toList := fun h =>
  absurd (isDigit_of_mem_toString h) (by decide)

theorem toList_number (q : Quantity) : q.number.toList =
    if q.tenths then (toString (q.digits / 10)).toList ++ '.' :: (toString (q.digits % 10)).toList
    else (toString q.digits).toList := by
  rw [number]
  split_ifs
  · simp [List.append_assoc, show (toString ".").toList = ['.'] from rfl]
  · rfl

theorem blank_notMem_number (q : Quantity) : ' ' ∉ q.number.toList := by
  rw [toList_number]
  split_ifs <;> simp only [List.mem_append, List.mem_cons, blank_notMem, or_false,
    false_or, not_false_iff]
  decide

theorem point_mem_number (q : Quantity) : '.' ∈ q.number.toList ↔ q.tenths = true := by
  rw [toList_number]
  split_ifs with htenths
  · simp [htenths]
  · exact iff_of_false (point_notMem _) htenths

theorem eq_of_number_eq (h : q.number.toList = q'.number.toList) :
    q.digits = q'.digits ∧ q.tenths = q'.tenths := by
  have htenths : q.tenths = q'.tenths := by
    rw [Bool.eq_iff_iff, ← point_mem_number, ← point_mem_number, h]
  refine ⟨?_, htenths⟩
  rw [toList_number, toList_number, ← htenths] at h
  split_ifs at h
  · rw [List.append_cons_inj_of_notMem (point_notMem _) (point_notMem _)] at h
    have hwhole := eq_of_toList_toString_eq h.1
    have hpart := eq_of_toList_toString_eq h.2.2
    omega
  · exact eq_of_toList_toString_eq h

theorem blank_notMem_unit : ∀ p < units.length, ' ' ∉ (units.getD p "").toList := by decide

theorem unit_inj : ∀ p < units.length, ∀ p' < units.length,
    units.getD p "" = units.getD p' "" → p = p' := by decide

/-- The text of a quantity tells all of it. -/
theorem eq_of_text_eq (hq : q.power < units.length) (hq' : q'.power < units.length)
    (h : q.text = q'.text) : q = q' := by
  have hlist := congrArg String.toList h
  have hblank : " ".toList = [' '] := rfl
  simp only [text, String.toList_append, hblank, List.append_assoc, List.singleton_append] at hlist
  rw [List.append_cons_inj_of_notMem (blank_notMem_number q) (blank_notMem_unit _ hq)] at hlist
  obtain ⟨hnumber, -, hunit⟩ := hlist
  obtain ⟨hdigits, htenths⟩ := eq_of_number_eq hnumber
  have hpower := unit_inj _ hq _ hq' (String.toList_injective hunit)
  cases q
  cases q'
  congr

end Quantity

/-! ## Rounding twice -/

section Rounding

variable {t w c : ℕ} {v : ℚ}

theorem tenthsOf_lt (hv : 0 ≤ v) : tenthsOf v < c ↔ v * 10 + 1 / 2 < c :=
  Nat.floor_lt (by positivity)

theorem le_tenthsOf (hv : 0 ≤ v) : c ≤ tenthsOf v ↔ (c : ℚ) ≤ v * 10 + 1 / 2 :=
  Nat.le_floor_iff (by positivity)

/-- The tenths are the nearest to the value. -/
theorem tenthsOf_bounds (hv : 0 ≤ v) :
    (tenthsOf v : ℚ) / 10 - 1 / 20 ≤ v ∧ v < tenthsOf v / 10 + 1 / 20 := by
  have hlow := (le_tenthsOf hv).1 le_rfl
  have hhigh := (tenthsOf_lt hv).1 (Nat.lt_succ_self _)
  push_cast at hhigh
  constructor <;> linarith

/-- Tenths that end in five go to the even one of their neighbours. -/
theorem roundDiv_ten (t : ℕ) :
    t % 10 < 5 ∧ roundDiv t 10 = t / 10 ∨ 5 < t % 10 ∧ roundDiv t 10 = t / 10 + 1 ∨
      t % 10 = 5 ∧ Even (t / 10) ∧ roundDiv t 10 = t / 10 ∨
      t % 10 = 5 ∧ Odd (t / 10) ∧ roundDiv t 10 = t / 10 + 1 := by
  rw [roundDiv, Nat.even_iff, Nat.odd_iff]
  split_ifs <;> omega

/-- Which of its neighbours a value is rounded away from is told by the number below it. -/
theorem roundsAway_iff (hw : 10 ≤ w) (hlow : w - 1 / 20 ≤ v) (hhigh : v < w + 19 / 20) :
    RoundsAway v ↔
      Odd w ∧ w + 9 / 20 ≤ v ∧ v < w + 1 / 2 ∨ Even w ∧ w + 1 / 2 < v ∧ v < w + 11 / 20 := by
  refine ⟨fun ⟨w', _, hw'⟩ => ?_, fun h => ⟨w, hw, h⟩⟩
  have hsame : w' = w := by
    have hbounds : (w' : ℚ) + 9 / 20 ≤ v ∧ v < w' + 11 / 20 := by
      rcases hw' with ⟨_, hlow', hhigh'⟩ | ⟨_, hlow', hhigh'⟩ <;> constructor <;> linarith
    have hlt : (w' : ℚ) < w + 1 ∧ (w : ℚ) < w' + 1 := by constructor <;> linarith
    have hlt' : w' < w + 1 ∧ w < w' + 1 := by exact_mod_cast hlt
    omega
  exact hsame ▸ hw'

/-- Whole units are the nearest to a value, unless it is rounded away. -/
theorem roundDiv_near_iff (hv : 0 ≤ v) (hten : 100 ≤ tenthsOf v) :
    |(roundDiv (tenthsOf v) 10 : ℚ) - v| ≤ 1 / 2 ↔ ¬RoundsAway v := by
  obtain ⟨hlow, hhigh⟩ := tenthsOf_bounds hv
  generalize tenthsOf v = t at *
  have hsplit : (t : ℚ) = 10 * (t / 10 : ℕ) + (t % 10 : ℕ) := by
    exact_mod_cast (Nat.div_add_mod t 10).symm
  have hdigit : ((t % 10 : ℕ) : ℚ) ≤ 9 := by
    exact_mod_cast Nat.lt_succ_iff.1 (Nat.mod_lt t (by decide))
  have hdigit' : (0 : ℚ) ≤ (t % 10 : ℕ) := by positivity
  rw [roundsAway_iff (w := t / 10) (by omega) (by linarith) (by linarith), abs_le]
  rcases roundDiv_ten t with ⟨hr, hm⟩ | ⟨hr, hm⟩ | ⟨hr, heven, hm⟩ | ⟨hr, hodd, hm⟩
  · have hr' : ((t % 10 : ℕ) : ℚ) ≤ 4 := by exact_mod_cast Nat.lt_succ_iff.1 hr
    rw [hm]
    refine iff_of_true (by constructor <;> linarith) ?_
    rintro (⟨_, h, _⟩ | ⟨_, h, _⟩) <;> linarith
  · have hr' : (6 : ℚ) ≤ (t % 10 : ℕ) := by exact_mod_cast hr
    rw [hm]
    push_cast
    refine iff_of_true (by constructor <;> linarith) ?_
    rintro (⟨_, _, h⟩ | ⟨_, _, h⟩) <;> linarith
  · have hr' : ((t % 10 : ℕ) : ℚ) = 5 := by exact_mod_cast hr
    have hodd : ¬Odd (t / 10) := Nat.not_odd_iff_even.2 heven
    rw [hm]
    simp only [hodd, heven, false_and, true_and, false_or, not_and, not_lt]
    refine ⟨fun h hfar => absurd hfar (by linarith), fun h => ⟨?_, by linarith⟩⟩
    by_contra hfar
    linarith [h (by linarith)]
  · have hr' : ((t % 10 : ℕ) : ℚ) = 5 := by exact_mod_cast hr
    have heven : ¬Even (t / 10) := Nat.not_even_iff_odd.2 hodd
    rw [hm]
    push_cast
    simp only [hodd, heven, false_and, true_and, or_false, not_and, not_lt]
    exact ⟨fun h _ => by linarith, fun h => ⟨by linarith, by linarith [h (by linarith)]⟩⟩

/-- Whole units are below a thousand up to the last half of a tenth. -/
theorem roundDiv_below_iff (hv : 0 ≤ v) :
    roundDiv (tenthsOf v) 10 < 1000 ↔ v < 999 + 9 / 20 := by
  have htenths : roundDiv (tenthsOf v) 10 < 1000 ↔ tenthsOf v < 9995 := by
    have hcases := roundDiv_ten (tenthsOf v)
    rw [Nat.even_iff, Nat.odd_iff] at hcases
    omega
  rw [htenths, tenthsOf_lt hv]
  norm_num
  constructor <;> intro h <;> linarith

/-- Values below ten are not rounded away, and are below a thousand. -/
theorem not_roundsAway (hv : v < 10) : ¬RoundsAway v := by
  rintro ⟨w, hw, hw'⟩
  have hten : (10 : ℚ) ≤ w := by exact_mod_cast hw
  rcases hw' with ⟨_, h, _⟩ | ⟨_, h, _⟩ <;> linarith

end Rounding

/-! ## The quantity in exact arithmetic -/

section Reading

variable {n : ℕ}

theorem powerOf_lt (n : ℕ) : powerOf n < units.length :=
  Nat.lt_succ_iff.2 (min_le_left 6 _)

theorem powerOf_of_lt (hn : n < 1000) : powerOf n = 0 := by
  rw [powerOf, Nat.log_of_lt hn, Nat.min_zero]

theorem one_le_valueOf (hn : n ≠ 0) : 1 ≤ valueOf n := by
  have hpow : 1000 ^ powerOf n ≤ n :=
    Nat.pow_le_of_le_log hn (min_le_right 6 _)
  rw [valueOf, one_le_div (by positivity)]
  exact_mod_cast hpow

theorem valueOf_eq {k : ℕ} (hk : k ≤ 6) (hlow : 1000 ^ k ≤ n) (hhigh : n < 1000 ^ (k + 1)) :
    valueOf n = n / 1000 ^ k := by
  have hlog : Nat.log 1000 n = k := Nat.log_eq_of_pow_le_of_lt_pow hlow hhigh
  rw [valueOf, powerOf, hlog, min_eq_right hk]

theorem Quantity.unit_pos (q : Quantity) : 0 < q.unit := by
  rw [unit]
  positivity

/-- How far off a quantity is, in its unit. -/
theorem Quantity.off_eq (q : Quantity) (n : ℕ) :
    |q.amount * q.unit - n| = |q.amount - n / 1000 ^ q.power| * q.unit := by
  have hn : (n : ℚ) = n / 1000 ^ q.power * q.unit := (div_mul_cancel₀ _ (by positivity)).symm
  conv_lhs => rw [hn]
  rw [← sub_mul, abs_mul, abs_of_pos q.unit_pos]

/-- Quantities are near to a number of bytes if their amounts are near to its value. -/
theorem Quantity.near_iff {q : Quantity} (hq : q.power = powerOf n) :
    |q.amount * q.unit - n| ≤ q.place * q.unit / 2 ↔ |q.amount - valueOf n| ≤ q.place / 2 := by
  rw [off_eq, hq, mul_div_right_comm, mul_le_mul_iff_left₀ q.unit_pos, valueOf]

theorem listed_reading (n : ℕ) : (reading n).power < units.length := by
  rw [reading, ofTenths]
  split_ifs
  · exact (by decide : 0 < units.length)
  · exact powerOf_lt n
  · exact powerOf_lt n

theorem not_slips_of_lt (hvalue : valueOf n < 10) : ¬Slips n := by
  rintro (h | h)
  · linarith
  · exact not_roundsAway hvalue h

theorem valueOf_of_lt (hn : n < 10) : valueOf n < 10 := by
  rw [valueOf, powerOf_of_lt (by omega), pow_zero, div_one]
  exact_mod_cast hn

theorem proper_of_lt (hn : n < 10) : Quantity.Proper n ⟨n, false, 0⟩ := by
  have hn' : (n : ℚ) < 10 := by exact_mod_cast hn
  have hunit : Quantity.unit ⟨n, false, 0⟩ = 1 := pow_zero _
  refine ⟨(by decide : 0 < units.length), ?_, fun hone => ?_, ?_, fun _ => ?_⟩ <;>
    simp only [Quantity.amount_whole, Quantity.place_whole, hunit, mul_one, sub_self, abs_zero]
  · linarith
  · exact_mod_cast hone
  · norm_num

/-- Tenths are the nearest to the value, and those below ten units are told. -/
theorem proper_tenths (hn : 10 ≤ n) (htenths : tenthsOf (valueOf n) < 100) :
    Quantity.Proper n ⟨tenthsOf (valueOf n), true, powerOf n⟩ := by
  have hone := one_le_valueOf (n := n) (by omega)
  have hv : 0 ≤ valueOf n := by linarith
  obtain ⟨hlow, hhigh⟩ := tenthsOf_bounds hv
  have hten : 10 ≤ tenthsOf (valueOf n) := (le_tenthsOf hv).2 (by norm_num; linarith)
  have hten' : (10 : ℚ) ≤ tenthsOf (valueOf n) := by exact_mod_cast hten
  have htenths' : (tenthsOf (valueOf n) : ℚ) < 100 := by exact_mod_cast htenths
  refine ⟨powerOf_lt n, ?_, fun _ => ?_, (Quantity.near_iff rfl).2 ?_, by omega⟩ <;>
    simp only [Quantity.amount_tenths, Quantity.place_tenths]
  · linarith
  · linarith
  · rw [abs_le]
    constructor <;> linarith

/-- Whole units are below a thousand, or near, exactly if the value does not slip in that way. -/
theorem proper_whole_iff (hn : 10 ≤ n) (htenths : 100 ≤ tenthsOf (valueOf n)) :
    Quantity.Proper n ⟨roundDiv (tenthsOf (valueOf n)) 10, false, powerOf n⟩ ↔ ¬Slips n := by
  have hone := one_le_valueOf (n := n) (by omega)
  have hv : 0 ≤ valueOf n := by linarith
  have hwhole : 1 ≤ roundDiv (tenthsOf (valueOf n)) 10 := by
    rcases roundDiv_ten (tenthsOf (valueOf n)) with h | h | h | h <;> omega
  rw [Slips, not_or, not_le, ← roundDiv_below_iff hv, ← roundDiv_near_iff hv htenths]
  generalize roundDiv (tenthsOf (valueOf n)) 10 = m at hwhole
  constructor
  · rintro ⟨_, hbelow, _, hnear, _⟩
    rw [Quantity.near_iff rfl] at hnear
    simp only [Quantity.amount_whole, Quantity.place_whole] at hbelow hnear
    exact ⟨by exact_mod_cast hbelow, hnear⟩
  · rintro ⟨hbelow, hnear⟩
    refine ⟨powerOf_lt n, ?_, fun _ => ?_, (Quantity.near_iff rfl).2 ?_, by omega⟩ <;>
      simp only [Quantity.amount_whole, Quantity.place_whole]
    · exact_mod_cast hbelow
    · exact_mod_cast hwhole
    · exact hnear

/-- The quantity is proper exactly if the value does not slip. -/
theorem reading_proper_iff (n : ℕ) : (reading n).Proper n ↔ ¬Slips n := by
  rcases lt_or_ge n 10 with hn | hn
  · rw [reading, if_pos hn]
    exact iff_of_true (proper_of_lt hn) (not_slips_of_lt (valueOf_of_lt hn))
  have hv : 0 ≤ valueOf n := zero_le_one.trans (one_le_valueOf (by omega))
  rw [reading, if_neg hn.not_gt, ofTenths]
  split_ifs with htenths
  · have hvalue := (tenthsOf_lt hv).1 htenths
    norm_num at hvalue
    exact iff_of_true (proper_tenths hn htenths) (not_slips_of_lt (by linarith))
  · exact proper_whole_iff hn (not_lt.1 htenths)

end Reading

end AppDeploy.Size
