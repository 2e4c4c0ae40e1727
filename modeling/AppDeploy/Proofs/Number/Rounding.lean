import AppDeploy.Number.Binary64
import Mathlib.Algebra.Order.Field.Power
import Mathlib.Algebra.Order.Floor.Semifield
import Mathlib.Data.Nat.Log
import Mathlib.Data.Rat.Floor
import Mathlib.Tactic.FieldSimp
import Mathlib.Tactic.Linarith
import Mathlib.Tactic.NormNum
import Mathlib.Tactic.Positivity
import Mathlib.Tactic.Ring

/-!
# Rounding of doubles

A quotient of naturals is rounded to the nearest natural, a tie to the even one (`RoundsTo`), and
an operation on doubles rounds the exact result so, to a mantissa of 53 bits (`Rounded`,
`hasValue_ofRatio`). What follows from it is all that is used of doubles: the error
(`Rounded.error`), that rounding goes past no small natural number (`Rounded.le_of_le`,
`Rounded.ge_of_ge`), and that halves of such are not changed (`Rounded.eq_half`).
-/

namespace AppDeploy.Binary64

/-! ## Rounding to natural numbers -/

/-- A natural number is the nearest to a number, and the even one of two that are. -/
structure RoundsTo (x : ℚ) (n : ℕ) : Prop where
  near : |(n : ℚ) - x| ≤ 1 / 2
  even : |(n : ℚ) - x| = 1 / 2 → Even n

theorem RoundsTo.unique {x : ℚ} {m n : ℕ} (hm : RoundsTo x m) (hn : RoundsTo x n) : m = n := by
  by_contra hne
  wlog hlt : m < n generalizing m n
  · exact this hn hm (Ne.symm hne) (by omega)
  have hm' := abs_le.1 hm.near
  have hn' := abs_le.1 hn.near
  have hstep : (m : ℚ) + 1 ≤ n := by exact_mod_cast hlt
  -- Both are as far off as they can be, so they are neighbours, and only one of them is even.
  have hnext : n = m + 1 := by
    have hsum : (n : ℚ) = m + 1 := by linarith
    exact_mod_cast hsum
  have heven : Even m := hm.even (by rw [abs_of_nonpos] <;> linarith)
  have heven' : Even n := hn.even (by rw [abs_of_nonneg] <;> linarith)
  rw [hnext, Nat.even_add_one] at heven'
  exact heven' heven

/-- What is closer than a half is the nearest. -/
theorem RoundsTo.of_lt {x : ℚ} {n : ℕ} (h : |(n : ℚ) - x| < 1 / 2) : RoundsTo x n :=
  ⟨h.le, fun htie => absurd htie h.ne⟩

theorem roundsTo_roundDiv (num : ℕ) {den : ℕ} (hden : 0 < den) :
    RoundsTo (num / den) (roundDiv num den) := by
  have hpos : (0 : ℚ) < den := by exact_mod_cast hden
  have hsplit : (num : ℚ) / den = (num / den : ℕ) + (num % den : ℕ) / (den : ℚ) := by
    have hnum : (num : ℚ) = den * (num / den : ℕ) + (num % den : ℕ) := by
      exact_mod_cast (Nat.div_add_mod num den).symm
    rw [hnum]
    field_simp
  have hpart : (0 : ℚ) ≤ (num % den : ℕ) / (den : ℚ) := by positivity
  have hwhole : ((num % den : ℕ) : ℚ) / den < 1 := by
    rw [div_lt_one hpos]
    exact_mod_cast Nat.mod_lt num hden
  have hlow : 2 * (num % den) < den ↔ ((num % den : ℕ) : ℚ) / den < 1 / 2 := by
    rw [div_lt_div_iff₀ hpos two_pos, one_mul, mul_comm]
    exact_mod_cast Iff.rfl
  have hhigh : den < 2 * (num % den) ↔ 1 / 2 < ((num % den : ℕ) : ℚ) / den := by
    rw [div_lt_div_iff₀ two_pos hpos, one_mul, mul_comm]
    exact_mod_cast Iff.rfl
  rw [hsplit, roundDiv]
  simp only [hlow, hhigh]
  generalize ((num % den : ℕ) : ℚ) / den = part at hpart hwhole
  generalize num / den = q
  split_ifs with below above even
  · exact .of_lt (by rw [abs_of_nonpos] <;> linarith)
  · refine .of_lt ?_
    push_cast
    rw [abs_of_nonneg] <;> linarith
  · have hhalf : part = 1 / 2 := le_antisymm (not_lt.1 above) (not_lt.1 below)
    refine ⟨?_, fun _ => Nat.even_iff.2 even⟩
    rw [abs_of_nonpos] <;> linarith
  · have hhalf : part = 1 / 2 := le_antisymm (not_lt.1 above) (not_lt.1 below)
    refine ⟨?_, fun _ => Nat.even_add_one.2 fun h => even (Nat.even_iff.1 h)⟩
    push_cast
    rw [abs_of_nonneg] <;> linarith

/-! ## Rounding to 53 bits -/

/-- A number is rounded to a mantissa of 53 bits. -/
def Rounded (x y : ℚ) : Prop :=
  ∃ (e : ℤ) (m : ℕ), 2 ^ 52 ≤ x / 2 ^ e ∧ x / 2 ^ e < 2 ^ 53 ∧ RoundsTo (x / 2 ^ e) m ∧
    y = m * 2 ^ e

/-- The value of a finite number that is not negative. -/
def HasValue (d : Binary64) (x : ℚ) : Prop :=
  ∃ m e, d = .finite false m e ∧ x = m * 2 ^ e

theorem two_zpow_pos (e : ℤ) : (0 : ℚ) < 2 ^ e :=
  zpow_pos two_pos e

theorem scaled_spec (num : ℕ) {den : ℕ} (hden : 0 < den) (e : ℤ) :
    0 < (scaled num den e).2 ∧
      ((scaled num den e).1 : ℚ) / (scaled num den e).2 = num / den / 2 ^ e := by
  rw [scaled]
  split_ifs with he
  · obtain ⟨k, rfl⟩ := Int.eq_ofNat_of_zero_le he
    refine ⟨Nat.mul_pos hden (Nat.pow_pos two_pos), ?_⟩
    simp [div_div]
  · obtain ⟨k, rfl⟩ : ∃ k : ℕ, e = -k := ⟨(-e).toNat, by omega⟩
    refine ⟨hden, ?_⟩
    simp [div_mul_eq_mul_div]

theorem ratio_spec (m : ℕ) (e : ℤ) :
    0 < (ratio m e).2 ∧ ((ratio m e).1 : ℚ) / (ratio m e).2 = m * 2 ^ e := by
  rw [ratio]
  split_ifs with he
  · obtain ⟨k, rfl⟩ := Int.eq_ofNat_of_zero_le he
    simp
  · obtain ⟨k, rfl⟩ : ∃ k : ℕ, e = -k := ⟨(-e).toNat, by omega⟩
    simp [div_eq_mul_inv]

theorem log2_bounds {n : ℕ} (hn : 0 < n) :
    (2 : ℚ) ^ (n.log2 : ℤ) ≤ n ∧ (n : ℚ) < 2 ^ ((n.log2 : ℤ) + 1) := by
  constructor
  · rw [zpow_natCast]
    exact_mod_cast Nat.log2_self_le hn.ne'
  · exact_mod_cast Nat.lt_log2_self

/-- The exponent for a quotient of at least one leaves 53 bits before the point. -/
theorem exponentFor_spec {num den : ℕ} (hden : 0 < den) (hone : den ≤ num) :
    2 ^ 52 ≤ (num : ℚ) / den / 2 ^ exponentFor num den ∧
      (num : ℚ) / den / 2 ^ exponentFor num den < 2 ^ 53 := by
  have hpos : (0 : ℚ) < den := by exact_mod_cast hden
  obtain ⟨hnumLow, hnumHigh⟩ := log2_bounds (Nat.lt_of_lt_of_le hden hone)
  obtain ⟨hdenLow, hdenHigh⟩ := log2_bounds hden
  have hlog : den.log2 ≤ num.log2 := by
    have hpow : 2 ^ den.log2 < 2 ^ (num.log2 + 1) :=
      (Nat.log2_self_le hden.ne').trans_lt (hone.trans_lt Nat.lt_log2_self)
    exact Nat.lt_succ_iff.1 ((Nat.pow_lt_pow_iff_right (by decide)).1 hpow)
  generalize hguess : (num.log2 : ℤ) - den.log2 - 52 = guess
  -- The bits of numerator and denominator tell the exponent, or one too many.
  have hlow : 2 ^ 51 < (num : ℚ) / den / 2 ^ guess := by
    have hpow : (2 : ℚ) ^ (num.log2 : ℤ) = 2 ^ 51 * 2 ^ guess * 2 ^ ((den.log2 : ℤ) + 1) := by
      rw [← zpow_natCast, ← zpow_add₀ two_ne_zero, ← zpow_add₀ two_ne_zero]
      congr 1
      omega
    rw [lt_div_iff₀ (two_zpow_pos _), lt_div_iff₀ hpos]
    refine lt_of_lt_of_le ?_ hnumLow
    rw [hpow]
    exact mul_lt_mul_of_pos_left hdenHigh (mul_pos (by positivity) (two_zpow_pos _))
  have hhigh : (num : ℚ) / den / 2 ^ guess < 2 ^ 53 := by
    have hpow : (2 : ℚ) ^ ((num.log2 : ℤ) + 1) = 2 ^ 53 * 2 ^ guess * 2 ^ (den.log2 : ℤ) := by
      rw [← zpow_natCast, ← zpow_add₀ two_ne_zero, ← zpow_add₀ two_ne_zero]
      congr 1
      omega
    rw [div_lt_iff₀ (two_zpow_pos _), div_lt_iff₀ hpos]
    refine lt_of_lt_of_le hnumHigh ?_
    rw [hpow]
    exact mul_le_mul_of_nonneg_left hdenLow (mul_pos (by positivity) (two_zpow_pos _)).le
  obtain ⟨hscaled, hvalue⟩ := scaled_spec num hden guess
  rw [exponentFor]
  simp only [hguess]
  generalize scaled num den guess = q at hscaled hvalue
  obtain ⟨n, d⟩ := q
  dsimp only at hscaled hvalue ⊢
  have hpos' : (0 : ℚ) < d := by exact_mod_cast hscaled
  have hleast : ∀ e : ℤ, guess - 1 ≤ e → max leastExponent e = e := fun e he =>
    max_eq_right (by rw [leastExponent]; omega)
  split_ifs with hless
  · have hvalue' : (num : ℚ) / den / 2 ^ guess < 2 ^ 52 := by
      rw [← hvalue, div_lt_iff₀ hpos']
      exact_mod_cast (Nat.div_lt_iff_lt_mul hscaled).1 hless
    have hhalf : (num : ℚ) / den / 2 ^ (guess - 1) = num / den / 2 ^ guess * 2 := by
      rw [zpow_sub_one₀ two_ne_zero]
      field_simp
    rw [hleast _ le_rfl, hhalf]
    constructor <;> linarith
  · rw [hleast _ (by omega)]
    refine ⟨?_, hhigh⟩
    rw [← hvalue, le_div_iff₀ hpos']
    exact_mod_cast (Nat.le_div_iff_mul_le hscaled).1 (Nat.le_of_not_lt hless)

/-- The double nearest to a quotient that is not less than one has the rounded value. -/
theorem hasValue_ofRatio {num den : ℕ} (hden : 0 < den) (hone : 1 ≤ (num : ℚ) / den)
    (hlarge : (num : ℚ) / den < 2 ^ 100) :
    ∃ x, HasValue (ofRatio false num den) x ∧ Rounded (num / den) x := by
  have hle : den ≤ num := by
    rw [one_le_div (by exact_mod_cast hden)] at hone
    exact_mod_cast hone
  obtain ⟨hlow, hhigh⟩ := exponentFor_spec hden hle
  have hnum : num ≠ 0 := by omega
  rw [ofRatio, if_neg hnum]
  generalize exponentFor num den = e at hlow hhigh
  obtain ⟨hscaled, hvalue⟩ := scaled_spec num hden e
  have hround := roundsTo_roundDiv (scaled num den e).1 hscaled
  rw [hvalue] at hround
  have hexponent : e < 48 := by
    by_contra hge
    have hpow : (2 : ℚ) ^ (48 : ℤ) ≤ 2 ^ e := zpow_le_zpow_right₀ one_le_two (not_lt.1 hge)
    rw [le_div_iff₀ (two_zpow_pos _)] at hlow
    norm_num at hpow hlow hlarge
    linarith
  simp only
  generalize roundDiv (scaled num den e).1 (scaled num den e).2 = m at hround
  refine ⟨m * 2 ^ e, ?_, e, m, hlow, hhigh, hround, rfl⟩
  by_cases hcarry : m = Nat.pow 2 53
  · have hfits : ¬greatestExponent < e + 1 := by rw [greatestExponent]; omega
    refine ⟨Nat.pow 2 52, e + 1, by simp [hcarry, hfits], ?_⟩
    rw [hcarry, zpow_add_one₀ two_ne_zero]
    push_cast
    ring
  · have hfits : ¬greatestExponent < e := by rw [greatestExponent]; omega
    exact ⟨m, e, by simp [hcarry, hfits], rfl⟩

/-! ## Operations -/

section Operations

variable {d d' : Binary64} {x x' : ℚ}

theorem HasValue.isBelow (h : HasValue d x) (n : ℕ) : d.isBelow n = true ↔ x < n := by
  obtain ⟨m, e, rfl, rfl⟩ := h
  obtain ⟨hpos, hvalue⟩ := ratio_spec m e
  rw [← hvalue, div_lt_iff₀ (by exact_mod_cast hpos)]
  simp only [Binary64.isBelow, decide_eq_true_eq]
  exact_mod_cast Iff.rfl

theorem HasValue.floorNat (h : HasValue d x) : d.floorNat = ⌊x⌋₊ := by
  obtain ⟨m, e, rfl, rfl⟩ := h
  rw [← (ratio_spec m e).2, Nat.floor_div_eq_div]
  rfl

theorem hasValue_ofNat {n : ℕ} (hone : 1 ≤ n) (hlarge : (n : ℚ) < 2 ^ 100) :
    ∃ y, HasValue (ofNat n) y ∧ Rounded n y := by
  have hone' : (1 : ℚ) ≤ n := by exact_mod_cast hone
  have hsame : (n : ℚ) / (1 : ℕ) = n := by simp
  have hround := hasValue_ofRatio Nat.one_pos (hone'.trans_eq hsame.symm)
    (hsame.trans_lt hlarge)
  simpa [ofNat] using hround

theorem HasValue.mul (h : HasValue d x) (h' : HasValue d' x') (hone : 1 ≤ x * x')
    (hlarge : x * x' < 2 ^ 100) : ∃ y, HasValue (d.mul d') y ∧ Rounded (x * x') y := by
  obtain ⟨m, e, rfl, rfl⟩ := h
  obtain ⟨n, f, rfl, rfl⟩ := h'
  obtain ⟨hpos, hvalue⟩ := ratio_spec m e
  obtain ⟨hpos', hvalue'⟩ := ratio_spec n f
  rw [← hvalue, ← hvalue', div_mul_div_comm, ← Nat.cast_mul, ← Nat.cast_mul] at hone hlarge ⊢
  exact hasValue_ofRatio (Nat.mul_pos hpos hpos') hone hlarge

theorem HasValue.div (h : HasValue d x) (h' : HasValue d' x') (hpositive : 0 < x')
    (hone : 1 ≤ x / x') (hlarge : x / x' < 2 ^ 100) :
    ∃ y, HasValue (d.div d') y ∧ Rounded (x / x') y := by
  obtain ⟨m, e, rfl, rfl⟩ := h
  obtain ⟨n, f, rfl, rfl⟩ := h'
  obtain ⟨hpos, hvalue⟩ := ratio_spec m e
  obtain ⟨hpos', hvalue'⟩ := ratio_spec n f
  have hne : (ratio n f).1 ≠ 0 := by
    intro hzero
    rw [← hvalue', hzero] at hpositive
    simp at hpositive
  rw [← hvalue, ← hvalue', div_div_div_eq, ← Nat.cast_mul, ← Nat.cast_mul] at hone hlarge ⊢
  have hround := hasValue_ofRatio (Nat.mul_pos hpos (Nat.pos_of_ne_zero hne)) hone hlarge
  simpa [Binary64.div, hne] using hround

theorem HasValue.addMagnitudes (h : HasValue d x) (h' : HasValue d' x') (hone : 1 ≤ x + x')
    (hlarge : x + x' < 2 ^ 100) : ∃ y, HasValue (d.addMagnitudes d') y ∧ Rounded (x + x') y := by
  obtain ⟨m, e, rfl, rfl⟩ := h
  obtain ⟨n, f, rfl, rfl⟩ := h'
  obtain ⟨hpos, hvalue⟩ := ratio_spec m e
  obtain ⟨hpos', hvalue'⟩ := ratio_spec n f
  have hsum : ((ratio m e).1 : ℚ) / (ratio m e).2 + (ratio n f).1 / (ratio n f).2 =
      ((ratio m e).1 * (ratio n f).2 + (ratio n f).1 * (ratio m e).2 : ℕ) /
        ((ratio m e).2 * (ratio n f).2 : ℕ) := by
    have hne : ((ratio m e).2 : ℚ) ≠ 0 := by exact_mod_cast hpos.ne'
    have hne' : ((ratio n f).2 : ℚ) ≠ 0 := by exact_mod_cast hpos'.ne'
    push_cast
    field_simp
  rw [← hvalue, ← hvalue', hsum] at hone hlarge ⊢
  exact hasValue_ofRatio (Nat.mul_pos hpos hpos') hone hlarge

theorem toString_digit : ∀ r < 10, (toString r).toList.length = 1 := by decide

/-- The digits written are the nearest number of units of the last place. -/
theorem HasValue.fixed_zero (h : HasValue d x) : ∃ u, RoundsTo x u ∧ d.fixed 0 = toString u := by
  obtain ⟨m, e, rfl, rfl⟩ := h
  obtain ⟨hpos, hvalue⟩ := ratio_spec m e
  refine ⟨roundDiv (ratio m e).1 (ratio m e).2, hvalue ▸ roundsTo_roundDiv _ hpos, ?_⟩
  simp [fixed]

theorem HasValue.fixed_one (h : HasValue d x) :
    ∃ u, RoundsTo (x * 10) u ∧ d.fixed 1 = toString (u / 10) ++ "." ++ toString (u % 10) := by
  obtain ⟨m, e, rfl, rfl⟩ := h
  obtain ⟨hpos, hvalue⟩ := ratio_spec m e
  have hround := roundsTo_roundDiv ((ratio m e).1 * 10) hpos
  rw [Nat.cast_mul, mul_div_right_comm, hvalue] at hround
  refine ⟨_, hround, ?_⟩
  have hdigit := toString_digit _ (Nat.mod_lt (roundDiv ((ratio m e).1 * 10) (ratio m e).2)
    (by decide : 0 < 10))
  simp only [fixed, Nat.pow_eq, pow_one, one_ne_zero, if_false, hdigit, Nat.sub_self,
    List.replicate_zero, List.nil_append, String.ofList_toList, Bool.false_eq_true]
  rfl

end Operations

/-! ## What rounding leaves alone -/

section Rounded

variable {x y : ℚ} {c : ℕ}

theorem RoundsTo.le_of_le {m : ℕ} (h : RoundsTo x m) (hc : (c : ℚ) ≤ x) : c ≤ m := by
  have hnear := abs_le.1 h.near
  have hlt : (c : ℚ) < m + 1 := by linarith
  exact Nat.lt_succ_iff.1 (by exact_mod_cast hlt)

theorem RoundsTo.ge_of_ge {m : ℕ} (h : RoundsTo x m) (hc : x ≤ c) : m ≤ c := by
  have hnear := abs_le.1 h.near
  have hlt : (m : ℚ) < c + 1 := by linarith
  exact Nat.lt_succ_iff.1 (by exact_mod_cast hlt)

theorem RoundsTo.eq_of_eq {m : ℕ} (h : RoundsTo x m) (hc : x = c) : m = c :=
  h.unique (.of_lt (by simp [hc]))

/-- The error is at most half of the last of the 53 bits. -/
theorem Rounded.error (h : Rounded x y) : |y - x| ≤ x / 2 ^ 53 := by
  obtain ⟨e, m, hlow, -, hround, rfl⟩ := h
  have hpos := two_zpow_pos e
  have hsplit : (m : ℚ) * 2 ^ e - x = (m - x / 2 ^ e) * 2 ^ e := by field_simp
  rw [hsplit, abs_mul, abs_of_pos hpos]
  have hhalf := mul_le_mul_of_nonneg_right hround.near hpos.le
  rw [le_div_iff₀ hpos] at hlow
  rw [le_div_iff₀ (by positivity)]
  linarith

/-- Each rounding adds to the error of what it rounds. -/
theorem Rounded.near {v δ : ℚ} (h : Rounded x y) (hv : 0 ≤ v) (hδ : δ ≤ 1)
    (hx : |x - v| ≤ δ * v) : |y - v| ≤ (δ + 1 / 2 ^ 52) * v := by
  have hsmall : δ * v ≤ 1 * v := mul_le_mul_of_nonneg_right hδ hv
  have hle : x ≤ 2 * v := by linarith [(abs_le.1 hx).2]
  calc |y - v| ≤ |y - x| + |x - v| := abs_sub_le y x v
    _ ≤ x / 2 ^ 53 + δ * v := add_le_add h.error hx
    _ ≤ (δ + 1 / 2 ^ 52) * v := by linarith

/-- Natural numbers of 53 bits are multiples of the last bit of what is not larger. -/
theorem exponent_nonpos {e : ℤ} (hlow : 2 ^ 52 ≤ x / 2 ^ e) (hx : x < 2 ^ 53) :
    ∃ k : ℕ, e = -k := by
  have he : e < 1 := by
    by_contra hge
    have hpow : (2 : ℚ) ^ (1 : ℤ) ≤ 2 ^ e := zpow_le_zpow_right₀ one_le_two (not_lt.1 hge)
    rw [le_div_iff₀ (two_zpow_pos _)] at hlow
    norm_num at hpow hlow hx
    linarith
  exact ⟨(-e).toNat, by omega⟩

theorem Rounded.le_of_le (h : Rounded x y) (hc : c < 2 ^ 53) (hle : (c : ℚ) ≤ x) : (c : ℚ) ≤ y := by
  obtain ⟨e, m, hlow, -, hround, rfl⟩ := h
  rcases le_or_gt 1 e with he | he
  · have hm : 2 ^ 52 ≤ m := hround.le_of_le (by exact_mod_cast hlow)
    have hpow : (2 : ℚ) ^ (1 : ℤ) ≤ 2 ^ e := zpow_le_zpow_right₀ one_le_two he
    have hm' : (2 : ℚ) ^ 52 ≤ m := by exact_mod_cast hm
    have hc' : (c : ℚ) < 2 ^ 53 := by exact_mod_cast hc
    calc (c : ℚ) ≤ 2 ^ 52 * 2 ^ (1 : ℤ) := by norm_num at hc' ⊢; linarith
      _ ≤ m * 2 ^ e := mul_le_mul hm' hpow (by positivity) (by positivity)
  · obtain ⟨k, rfl⟩ : ∃ k : ℕ, e = -k := ⟨(-e).toNat, by omega⟩
    have hpos : (0 : ℚ) < 2 ^ k := by positivity
    rw [zpow_neg, zpow_natCast, div_inv_eq_mul] at hround
    have hm : c * 2 ^ k ≤ m := hround.le_of_le (by push_cast; gcongr)
    rw [zpow_neg, zpow_natCast, ← div_eq_mul_inv, le_div_iff₀ hpos]
    exact_mod_cast hm

theorem Rounded.ge_of_ge (h : Rounded x y) (hc : c < 2 ^ 53) (hge : x ≤ c) : y ≤ c := by
  obtain ⟨e, m, hlow, -, hround, rfl⟩ := h
  obtain ⟨k, rfl⟩ := exponent_nonpos hlow (hge.trans_lt (by exact_mod_cast hc))
  have hpos : (0 : ℚ) < 2 ^ k := by positivity
  rw [zpow_neg, zpow_natCast, div_inv_eq_mul] at hround
  have hm : m ≤ c * 2 ^ k := hround.ge_of_ge (by push_cast; gcongr)
  rw [zpow_neg, zpow_natCast, ← div_eq_mul_inv, div_le_iff₀ hpos]
  exact_mod_cast hm

theorem Rounded.eq_nat (h : Rounded x y) (hc : c < 2 ^ 53) (hx : x = c) : y = c :=
  le_antisymm (h.ge_of_ge hc hx.le) (h.le_of_le hc hx.ge)

theorem hasValue_ofNat_of_lt (hone : 1 ≤ c) (hc : c < 2 ^ 53) : HasValue (ofNat c) c := by
  have hc' : (c : ℚ) < 2 ^ 53 := by exact_mod_cast hc
  obtain ⟨y, hy, hround⟩ := hasValue_ofNat hone (by linarith)
  exact hround.eq_nat hc rfl ▸ hy

/-- Halves of natural numbers need one bit more. -/
theorem Rounded.eq_half (h : Rounded x y) (hc : c < 2 ^ 53) (hx : x = c / 2) : y = c / 2 := by
  obtain ⟨e, m, hlow, -, hround, rfl⟩ := h
  have hsmall : x < 2 ^ 52 := by
    have hc' : (c : ℚ) < 2 ^ 53 := by exact_mod_cast hc
    rw [hx]
    linarith
  have he : e < 0 := by
    by_contra hge
    have hpow : (2 : ℚ) ^ (0 : ℤ) ≤ 2 ^ e := zpow_le_zpow_right₀ one_le_two (not_lt.1 hge)
    rw [le_div_iff₀ (two_zpow_pos _)] at hlow
    rw [zpow_zero] at hpow
    linarith
  obtain ⟨k, rfl⟩ : ∃ k : ℕ, e = -(k + 1 : ℕ) := ⟨(-e - 1).toNat, by omega⟩
  have hm : m = c * 2 ^ k := by
    refine hround.eq_of_eq ?_
    rw [hx, zpow_neg, zpow_natCast, div_inv_eq_mul, pow_succ]
    push_cast
    ring
  rw [hm, zpow_neg, zpow_natCast, pow_succ]
  push_cast
  field_simp

/-- The exponent of the tenfold is three or four more. -/
theorem exponent_tenfold {m : ℕ} {g : ℤ} (hlow : 2 ^ 52 ≤ m) (hhigh : m ≤ 2 ^ 53)
    (hlow' : 2 ^ 52 ≤ (10 * m : ℚ) / 2 ^ g) (hhigh' : (10 * m : ℚ) / 2 ^ g < 2 ^ 53) :
    g = 3 ∨ g = 4 := by
  have hm : (2 : ℚ) ^ 52 ≤ m := by exact_mod_cast hlow
  have hm' : (m : ℚ) ≤ 2 ^ 53 := by exact_mod_cast hhigh
  rw [le_div_iff₀ (two_zpow_pos _)] at hlow'
  rw [div_lt_iff₀ (two_zpow_pos _)] at hhigh'
  have hleast : 2 < g := by
    by_contra hle
    have hpow : (2 : ℚ) ^ g ≤ 4 :=
      (zpow_le_zpow_right₀ one_le_two (not_lt.1 hle)).trans_eq (by norm_num)
    linarith
  have hmost : g < 5 := by
    by_contra hge
    have hpow : 32 ≤ (2 : ℚ) ^ g :=
      (by norm_num : (32 : ℚ) = 2 ^ (5 : ℤ)).trans_le
        (zpow_le_zpow_right₀ one_le_two (not_lt.1 hge))
    linarith
  omega

/-- The tenfold of a twentieth that was rounded is rounded to the half: the first error is at most
two fifths of a bit, and so the half is one of the nearest numbers, with bits to spare. -/
theorem Rounded.tenfold {v w : ℚ} (hv : Rounded (c / 20) v) (hw : Rounded (v * 10) w)
    (hsmall : (c : ℚ) / 20 < 2 ^ 46) : w = c / 2 := by
  obtain ⟨e, m, hlow, hhigh, hm, rfl⟩ := hv
  obtain ⟨f, n, hlow', hhigh', hn, rfl⟩ := hw
  obtain ⟨j, rfl⟩ : ∃ j : ℕ, e = -(j + 7 : ℕ) := by
    have he : e < -6 := by
      by_contra hge
      have hpow : (2 : ℚ) ^ (-6 : ℤ) ≤ 2 ^ e := zpow_le_zpow_right₀ one_le_two (not_lt.1 hge)
      rw [le_div_iff₀ (two_zpow_pos _)] at hlow
      norm_num at hpow hlow hsmall
      linarith
    exact ⟨(-e - 7).toNat, by omega⟩
  -- The mantissa is near to a fifth of a whole number, and so no more than two fifths off it.
  have hfifth : (c : ℚ) / 20 / 2 ^ (-(j + 7 : ℕ) : ℤ) = 32 * (c * 2 ^ j : ℕ) / 5 := by
    rw [zpow_neg, zpow_natCast, div_inv_eq_mul, pow_add]
    push_cast
    ring
  have hscale : (c : ℚ) = (c * 2 ^ j : ℕ) * 2 ^ (-(j : ℤ)) := by
    rw [zpow_neg, zpow_natCast]
    push_cast
    field_simp
  rw [hfifth] at hlow hhigh hm
  rw [hscale]
  generalize c * 2 ^ j = b at hlow hhigh hm
  have hnear := abs_le.1 hm.near
  have hoff : -2 ≤ (5 * m - 32 * b : ℤ) ∧ (5 * m - 32 * b : ℤ) ≤ 2 := by
    have hlt : (-3 : ℚ) < (5 * m - 32 * b : ℤ) ∧ ((5 * m - 32 * b : ℤ) : ℚ) < 3 := by
      push_cast
      constructor <;> linarith
    have hint : -3 < (5 * m - 32 * b : ℤ) ∧ (5 * m - 32 * b : ℤ) < 3 := by exact_mod_cast hlt
    omega
  have hoff' : (-2 : ℚ) ≤ 5 * m - 32 * b ∧ (5 * m - 32 * b : ℚ) ≤ 2 := by exact_mod_cast hoff
  have hmLow : 2 ^ 52 ≤ m := hm.le_of_le (by exact_mod_cast hlow)
  have hmHigh : m ≤ 2 ^ 53 := hm.ge_of_ge (by push_cast; exact hhigh.le)
  obtain ⟨g, rfl⟩ : ∃ g, f = -(j + 7 : ℕ) + g := ⟨f + (j + 7 : ℕ), by omega⟩
  have hten : (m : ℚ) * 2 ^ (-(j + 7 : ℕ) : ℤ) * 10 / 2 ^ (-(j + 7 : ℕ) + g : ℤ) =
      10 * m / 2 ^ g := by
    rw [zpow_add₀ two_ne_zero]
    field_simp
  rw [hten] at hlow' hhigh' hn
  have hshift : (-(j + 7 : ℕ) : ℤ) = -j + -7 := by omega
  rw [hshift, zpow_add₀ two_ne_zero, zpow_add₀ two_ne_zero]
  rcases exponent_tenfold hmLow hmHigh hlow' hhigh' with rfl | rfl
  · have hround : RoundsTo (10 * m / 2 ^ (3 : ℤ)) (8 * b) := by
      refine ⟨?_, fun _ => Nat.even_mul.2 (.inl (by decide))⟩
      rw [abs_le]
      norm_num
      constructor <;> linarith
    rw [hn.unique hround]
    norm_num
    ring
  · have hround : RoundsTo (10 * m / 2 ^ (4 : ℤ)) (4 * b) := by
      refine ⟨?_, fun _ => Nat.even_mul.2 (.inl (by decide))⟩
      rw [abs_le]
      norm_num
      constructor <;> linarith
    rw [hn.unique hround]
    norm_num
    ring

end Rounded

end AppDeploy.Binary64
