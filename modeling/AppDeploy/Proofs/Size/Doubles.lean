import AppDeploy.Proofs.Size.Quantity

/-!
# Sizes in doubles

The text of a size is computed in doubles: the number of bytes is scaled to its unit (`Scaled`), and
the value there is put in tenths (`Tenths`), with a rounding at each step. The errors add up to so
little (`Scaled.near`, `Scaled.raised_near`) that sizes up to seventeen terabytes are told as in
exact arithmetic (`text_reading`). Values on the edge between two tenths are the ones that an error
of any size would spoil, and they are exact again after the tenfold (`Scaled.raised_eq`). What is
true of larger sizes too is the rough quantity of `size_told`.
-/

namespace AppDeploy.Size

open Binary64 (HasValue Rounded RoundsTo roundDiv roundsTo_roundDiv hasValue_ofNat
  hasValue_ofNat_of_lt)

variable {n : ℕ}

/-! ## The value in its unit -/

/-- The values of a number of bytes in greater and greater units: as long as it is not below a
thousand, it is divided by that and rounded. -/
inductive Scaled (n : ℕ) : ℕ → ℚ → Prop where
  | start {x : ℚ} (hx : Rounded n x) : Scaled n 0 x
  | next {k : ℕ} {x y : ℚ} (h : Scaled n k x) (hx : 1000 ≤ x) (hy : Rounded (x / 1000) y) :
      Scaled n (k + 1) y

namespace Scaled

variable {k c : ℕ} {x : ℚ}

theorem one_le (h : Scaled n k x) (hn : 1 ≤ n) : 1 ≤ x := by
  cases h with
  | start hx => exact_mod_cast hx.le_of_le (c := 1) (by decide) (by exact_mod_cast hn)
  | next h hx hy =>
    exact_mod_cast hy.le_of_le (c := 1) (by decide) (by push_cast; linarith)

/-- Each division adds to the error. -/
theorem near (h : Scaled n k x) (hk : k ≤ 6) :
    |x - n / 1000 ^ k| ≤ (k + 1) / 2 ^ 52 * (n / 1000 ^ k) := by
  induction h with
  | @start x hx =>
    have hstart : |x - n| ≤ (0 + 1 / 2 ^ 52) * n := hx.near (by positivity) zero_le_one (by simp)
    simpa using hstart
  | @next k x y h hx hy ih =>
    have hk' : (k : ℚ) ≤ 6 := by exact_mod_cast Nat.le_of_succ_le hk
    have hunit : x / 1000 - n / 1000 ^ (k + 1) = (x - n / 1000 ^ k) / 1000 := by
      rw [pow_succ]
      field_simp
    have hbefore : |x / 1000 - n / 1000 ^ (k + 1)| ≤ (k + 1) / 2 ^ 52 * (n / 1000 ^ (k + 1)) := by
      rw [hunit, abs_div, abs_of_pos (by norm_num : (0 : ℚ) < 1000), div_le_iff₀ (by norm_num)]
      refine (ih (Nat.le_of_succ_le hk)).trans_eq ?_
      field_simp
      ring
    refine (hy.near (by positivity) ?_ hbefore).trans_eq ?_
    · rw [div_le_one (by norm_num)]
      linarith
    · push_cast
      ring

/-- Division goes below no number that the exact value is not below. -/
theorem le_of_mul_le (h : Scaled n k x) (hn : n < 2 ^ 53) (hc : c * 1000 ^ k ≤ n) :
    (c : ℚ) ≤ x := by
  induction h generalizing c with
  | start hx => exact hx.le_of_le (by simpa using hc.trans_lt hn) (by simpa using hc)
  | @next k x y h hx hy ih =>
    have hthousand : ((c * 1000 : ℕ) : ℚ) ≤ x := ih (by rwa [mul_assoc, ← pow_succ'])
    have hsmall : c ≤ c * 1000 ^ (k + 1) := Nat.le_mul_of_pos_right c (by positivity)
    push_cast at hthousand
    exact hy.le_of_le (by omega) (by linarith)

/-- Nor is a value that is less than a number rounded up to it. -/
theorem lt_of_lt_mul (h : Scaled n k x) (hk : k ≤ 6) (hn : n < 2 ^ 44) (hc : n < c * 1000 ^ k) :
    x < c := by
  have hpos : (0 : ℚ) < 1000 ^ k := by positivity
  have hk' : (k : ℚ) ≤ 6 := by exact_mod_cast hk
  have hn' : (n : ℚ) < 2 ^ 44 := by exact_mod_cast hn
  have hnext : (n : ℚ) + 1 ≤ c * 1000 ^ k := by exact_mod_cast hc
  have herror := (abs_le.1 (h.near hk)).2
  have hsmall : ((k : ℚ) + 1) / 2 ^ 52 * n < 1 := by
    calc ((k : ℚ) + 1) / 2 ^ 52 * n ≤ 7 / 2 ^ 52 * n := by gcongr; linarith
      _ < 1 := by linarith
  have hscaled : x * 1000 ^ k ≤ n + (k + 1) / 2 ^ 52 * n := by
    calc x * 1000 ^ k ≤ (n / 1000 ^ k + (k + 1) / 2 ^ 52 * (n / 1000 ^ k)) * 1000 ^ k := by
          gcongr
          linarith
      _ = n + (k + 1) / 2 ^ 52 * n := by field_simp
  exact lt_of_mul_lt_mul_right (by linarith) hpos.le

/-- Numbers of whole units stay what they are. -/
theorem eq_of_eq_mul (h : Scaled n k x) (hn : n < 2 ^ 53) (hc : n = c * 1000 ^ k) : x = c := by
  induction h generalizing c with
  | start hx => exact hx.eq_nat (by simpa [hc] using hn) (by simp [hc])
  | @next k x y h hx hy ih =>
    have hthousand : x = (c * 1000 : ℕ) := ih (by rwa [mul_assoc, ← pow_succ'])
    have hsmall : c ≤ c * 1000 ^ (k + 1) := Nat.le_mul_of_pos_right c (by positivity)
    refine hy.eq_nat (by omega) ?_
    rw [hthousand]
    push_cast
    field_simp

end Scaled

/-- Scaling ends at the unit in which the value is below a thousand, or at the last one. -/
theorem scale_spec {v : Binary64} {us : List String} {k : ℕ} {x : ℚ} (hus : us ≠ [])
    (hv : HasValue v x) (h : Scaled n k x) (hlarge : x < 2 ^ 65) :
    ∃ j w y, j < us.length ∧ scale v us = (w, us.getD j "") ∧ HasValue w y ∧ Scaled n (k + j) y ∧
      (y < 1000 ∨ j + 1 = us.length) := by
  fun_induction scale v us generalizing k x with
  | case1 => exact absurd rfl hus
  | case2 v unit => exact ⟨0, v, x, by simp, rfl, hv, h, .inr rfl⟩
  | case3 v unit rest hrest hbelow =>
    refine ⟨0, v, x, by simp, rfl, hv, h, .inl ?_⟩
    exact_mod_cast (hv.isBelow 1000).1 hbelow
  | case4 v unit rest hrest hbelow ih =>
    have hx : 1000 ≤ x := by
      by_contra hlt
      exact hbelow ((hv.isBelow 1000).2 (by push_cast; exact not_le.1 hlt))
    obtain ⟨y, hy, hround⟩ := hv.div (hasValue_ofNat_of_lt (c := 1000) (by decide) (by decide))
      (by norm_num) (by push_cast; linarith) (by push_cast; linarith)
    push_cast at hround
    have herror := (abs_le.1 hround.error).2
    obtain ⟨j, w, z, hj, hscale, hw, hz, hend⟩ :=
      ih (by simpa using hrest) hy (.next h hx hround) (by linarith)
    refine ⟨j + 1, w, z, by simpa using hj, by simpa using hscale, hw, ?_, by simpa using hend⟩
    rwa [Nat.add_comm j 1, ← Nat.add_assoc]

/-! ## The text -/

/-- The tenths of a value, as they come about in doubles. -/
def Tenths (x : ℚ) (t : ℕ) : Prop :=
  ∃ w z, Rounded (x * 10) w ∧ Rounded (w + 1 / 2) z ∧ t = ⌊z⌋₊

theorem tenfold_bounds {x w : ℚ} (hw : Rounded (x * 10) w) (hlow : 1 ≤ x) (hhigh : x < 1000) :
    10 ≤ w ∧ w ≤ 10000 := by
  constructor
  · exact_mod_cast hw.le_of_le (c := 10) (by decide) (by push_cast; linarith)
  · exact_mod_cast hw.ge_of_ge (c := 10000) (by decide) (by push_cast; linarith)

theorem Tenths.bounds {x : ℚ} {t : ℕ} (h : Tenths x t) (hlow : 1 ≤ x) (hhigh : x < 1000) :
    10 ≤ t ∧ t ≤ 10000 := by
  obtain ⟨w, z, hw, hz, rfl⟩ := h
  obtain ⟨hleast, hmost⟩ := tenfold_bounds hw hlow hhigh
  have hz' : 10 ≤ z := by
    exact_mod_cast hz.le_of_le (c := 10) (by decide) (by push_cast; linarith)
  have herror := (abs_le.1 hz.error).2
  refine ⟨Nat.le_floor (by exact_mod_cast hz'), Nat.lt_succ_iff.1 ?_⟩
  rw [Nat.floor_lt (by linarith)]
  push_cast
  linarith

theorem hasValue_half : HasValue (.ofRatio false 1 2) (1 / 2) :=
  ⟨2 ^ 52, -53, by decide +kernel, by norm_num⟩

theorem inTenths_spec {v : Binary64} {x : ℚ} (hv : HasValue v x) (hlow : 1 ≤ x) (hhigh : x < 1000) :
    ∃ t y, Tenths x t ∧ HasValue (inTenths v) y ∧ Rounded (t / 10) y := by
  have hten := hasValue_ofNat_of_lt (c := 10) (by decide) (by decide)
  obtain ⟨w, hw, hround⟩ := hv.mul hten (by push_cast; linarith) (by push_cast; linarith)
  push_cast at hround
  obtain ⟨hleast, hmost⟩ := tenfold_bounds hround hlow hhigh
  obtain ⟨z, hz, hround'⟩ := hw.addMagnitudes hasValue_half (by linarith) (by linarith)
  have htenths : Tenths x ⌊z⌋₊ := ⟨w, z, hround, hround', rfl⟩
  obtain ⟨hlow', hhigh'⟩ := htenths.bounds hlow hhigh
  have ht : (10 : ℚ) ≤ (⌊z⌋₊ : ℕ) ∧ ((⌊z⌋₊ : ℕ) : ℚ) ≤ 10000 := by
    constructor <;> assumption_mod_cast
  obtain ⟨y, hy, hround''⟩ := (hasValue_ofNat_of_lt (c := ⌊z⌋₊) (by omega) (by omega)).div hten
    (by norm_num) (by push_cast; linarith) (by push_cast; linarith)
  refine ⟨⌊z⌋₊, y, htenths, ?_, by exact_mod_cast hround''⟩
  rw [inTenths, hz.floorNat]
  exact hy

/-- Rounding to whole units does not depend on the error of the double: a half is exact in doubles,
and other tenths are not near to one. -/
theorem roundsTo_tenths {y : ℚ} {t : ℕ} (hy : Rounded (t / 10) y) (ht : t ≤ 10000) :
    RoundsTo y (roundDiv t 10) := by
  have hround := roundsTo_roundDiv t (by decide : 0 < 10)
  by_cases hhalf : t % 10 = 5
  · have hexact : (t : ℚ) / 10 = (t / 5 : ℕ) / 2 := by
      have hfive : (t : ℚ) = 5 * (t / 5 : ℕ) := by
        exact_mod_cast (Nat.mul_div_cancel' (by omega : 5 ∣ t)).symm
      linarith
    rw [hy.eq_half (by omega) hexact, ← hexact]
    exact_mod_cast hround
  · have hfar : 10 * roundDiv t 10 ≤ t + 4 ∧ t ≤ 10 * roundDiv t 10 + 4 := by
      rcases roundDiv_ten t with h | h | h | h <;> omega
    have hfar' : 10 * (roundDiv t 10 : ℚ) ≤ t + 4 ∧ (t : ℚ) ≤ 10 * roundDiv t 10 + 4 := by
      exact_mod_cast hfar
    have ht' : (t : ℚ) ≤ 10000 := by exact_mod_cast ht
    have herror := abs_le.1 hy.error
    refine .of_lt ?_
    rw [abs_lt]
    constructor <;> linarith

/-- The double nearest to a number of tenths is written as the tenths are. -/
theorem fixed_tenths {d : Binary64} {y : ℚ} {t : ℕ} (hd : HasValue d y) (hy : Rounded (t / 10) y)
    (hhigh : t ≤ 10000) (power : ℕ) :
    d.fixed (if d.isBelow 10 then 1 else 0) ++ " " ++ units.getD power "" =
      (ofTenths t power).text := by
  have hhigh' : (t : ℚ) ≤ 10000 := by exact_mod_cast hhigh
  have herror := abs_le.1 hy.error
  by_cases htenths : t < 100
  · have htenths' : (t : ℚ) ≤ 99 := by exact_mod_cast Nat.lt_succ_iff.1 htenths
    have hbelow : d.isBelow 10 = true := (hd.isBelow 10).2 (by push_cast; linarith)
    obtain ⟨u, hu, htext⟩ := hd.fixed_one
    have hsame : u = t := by
      refine hu.unique (.of_lt ?_)
      rw [abs_lt]
      constructor <;> linarith
    rw [hbelow, if_pos rfl, htext, hsame, ofTenths, if_pos htenths]
    rfl
  · have hten : (10 : ℚ) ≤ y := by
      have ht : (100 : ℚ) ≤ t := by exact_mod_cast not_lt.1 htenths
      exact_mod_cast hy.le_of_le (c := 10) (by decide) (by push_cast; linarith)
    have hbelow : d.isBelow 10 = false := by
      rw [Bool.eq_false_iff, ne_eq, hd.isBelow]
      exact not_lt.2 (by exact_mod_cast hten)
    obtain ⟨u, hu, htext⟩ := hd.fixed_zero
    rw [hbelow, if_neg (by decide), htext, hu.unique (roundsTo_tenths hy hhigh), ofTenths,
      if_neg htenths]
    rfl

theorem text_of_lt : ∀ n < 10, text n = Quantity.text ⟨n, false, 0⟩ := by decide

/-- The text is that of the tenths of the value in its unit. -/
theorem text_spec (hlow : 10 ≤ n) (hn : n < 2 ^ 64) :
    ∃ k x t, k ≤ 6 ∧ Scaled n k x ∧ (x < 1000 ∨ k = 6) ∧ x < 1000 ∧ Tenths x t ∧
      text n = (ofTenths t k).text := by
  have hn' : (n : ℚ) < 2 ^ 64 := by exact_mod_cast hn
  obtain ⟨x, hx, hround⟩ := hasValue_ofNat (n := n) (by omega) (by linarith)
  have herror := (abs_le.1 hround.error).2
  obtain ⟨k, v, y, hk, hscale, hv, hy, hend⟩ :=
    scale_spec (by decide : units ≠ []) hx (.start hround) (by linarith)
  rw [zero_add] at hy
  have hk' : k ≤ 6 := Nat.lt_succ_iff.1 hk
  have hend' : y < 1000 ∨ k = 6 := hend.imp_right Nat.succ.inj
  have hbelow : y < 1000 := by
    rcases hend' with h | rfl
    · exact h
    · have hnear := (abs_le.1 (hy.near le_rfl)).2
      norm_num at hnear
      linarith
  obtain ⟨t, z, ht, hz, hround'⟩ := inTenths_spec hv (hy.one_le (by omega)) hbelow
  refine ⟨k, y, t, hk', hy, hend', hbelow, ht, ?_⟩
  rw [text, if_neg hlow.not_gt, hscale]
  exact fixed_tenths hz hround' (ht.bounds (hy.one_le (by omega)) hbelow).2 k

/-! ## What the text tells -/

section Telling

variable {k t : ℕ} {x w z : ℚ}

/-- The two roundings for the tenths add to the error again. -/
theorem Scaled.raised_near (h : Scaled n k x) (hk : k ≤ 6) (hw : Rounded (x * 10) w)
    (hz : Rounded (w + 1 / 2) z) :
    |z - (n / 1000 ^ k * 10 + 1 / 2)| ≤ 9 / 2 ^ 52 * (n / 1000 ^ k * 10 + 1 / 2) := by
  have hnear := h.near hk
  have hpos : (0 : ℚ) ≤ n / 1000 ^ k := by positivity
  generalize (n : ℚ) / 1000 ^ k = v at hnear hpos
  have hk' : ((k : ℚ) + 1) / 2 ^ 52 ≤ 7 / 2 ^ 52 := by
    have hle : (k : ℚ) ≤ 6 := by exact_mod_cast hk
    linarith
  have hseven : |x - v| ≤ 7 / 2 ^ 52 * v := hnear.trans (mul_le_mul_of_nonneg_right hk' hpos)
  have htenfold : |w - v * 10| ≤ (7 / 2 ^ 52 + 1 / 2 ^ 52) * (v * 10) := by
    refine hw.near (by linarith) (by norm_num) ?_
    rw [← sub_mul, abs_mul, abs_of_pos (by norm_num : (0 : ℚ) < 10)]
    linarith
  have hraised : |w + 1 / 2 - (v * 10 + 1 / 2)| ≤ 8 / 2 ^ 52 * (v * 10 + 1 / 2) := by
    rw [add_sub_add_right_eq_sub]
    linarith
  exact (hz.near (by linarith) (by norm_num) hraised).trans_eq (by ring)

/-- Up to seventeen terabytes the unit is the one in exact arithmetic. -/
theorem Scaled.pow_le (h : Scaled n k x) (hk : k ≤ 6) (hone : 1 ≤ n) (hn : n < 2 ^ 44) :
    1000 ^ k ≤ n := by
  cases h with
  | start _ => exact hone
  | @next k x y h hx _ =>
    by_contra hlt
    have hbelow := h.lt_of_lt_mul (c := 1000) (by omega) hn (by rw [← pow_succ']; omega)
    push_cast at hbelow
    linarith

theorem Scaled.eq_powerOf (h : Scaled n k x) (hk : k ≤ 6) (hone : 1 ≤ n) (hn : n < 2 ^ 44)
    (hend : x < 1000 ∨ k = 6) : k = powerOf n := by
  have hlog : k ≤ Nat.log 1000 n := Nat.le_log_of_pow_le (by decide) (h.pow_le hk hone hn)
  rw [powerOf]
  rcases hend with hbelow | rfl
  · have hlt : Nat.log 1000 n < k + 1 := by
      refine Nat.log_lt_of_lt_pow (by omega) ?_
      by_contra hge
      have hthousand := h.le_of_mul_le (c := 1000) (by omega) (by rw [← pow_succ']; omega)
      push_cast at hthousand
      linarith
    omega
  · omega

/-- A value that lies on the edge between two tenths is not moved by rounding: the last division
starts from a whole number, and the error it makes is gone with the next rounding. -/
theorem Scaled.raised_eq {s : ℕ} (h : Scaled n k x) (hn : n < 2 ^ 44)
    (hw : Rounded (x * 10) w) (hz : Rounded (w + 1 / 2) z)
    (hedge : s * (2 * 1000 ^ k) = 20 * n + 1000 ^ k) : z = s := by
  cases h with
  | start _ => omega
  | @next k y x h _ hx =>
    have hpos : 0 < 1000 ^ (k + 1) := by positivity
    have hs : s ≠ 0 := by
      rintro rfl
      omega
    obtain ⟨c, hc⟩ : ∃ c, 2 * s = c + 1 := ⟨2 * s - 1, by omega⟩
    have hwhole : n = c * 50 * 1000 ^ k := by
      have hscaled : 2 * s * 1000 ^ k = (c + 1) * 1000 ^ k := by rw [hc]
      rw [pow_succ] at hedge
      linarith
    have hy : y = (c * 50 : ℕ) := h.eq_of_eq_mul (by omega) hwhole
    have htwentieth : y / 1000 = c / 20 := by
      rw [hy]
      push_cast
      linarith
    have hsmall : c * 50 ≤ n := hwhole ▸ Nat.le_mul_of_pos_right _ (by positivity)
    have hsmall' : (c : ℚ) ≤ 2 ^ 44 := by exact_mod_cast (by omega : c ≤ 2 ^ 44)
    rw [htwentieth] at hx
    have hhalf : w = c / 2 := hx.tenfold hw (by linarith)
    refine hz.eq_nat (by omega) ?_
    have hc' : 2 * (s : ℚ) = c + 1 := by exact_mod_cast hc
    linarith

/-- Up to seventeen terabytes the tenths are those in exact arithmetic: the error is less than the
distance of a value to the next edge between two tenths. -/
theorem Scaled.eq_tenthsOf (h : Scaled n k x) (hk : k ≤ 6) (hn : n < 2 ^ 44) (hpow : 1000 ^ k ≤ n)
    (ht : Tenths x t) : t = tenthsOf (n / 1000 ^ k) := by
  obtain ⟨w, z, hw, hz, rfl⟩ := ht
  have hpos : (0 : ℚ) < 2 * 1000 ^ k := by positivity
  have hv : (0 : ℚ) ≤ n / 1000 ^ k := by positivity
  have hlow := (le_tenthsOf hv).1 le_rfl
  have hhigh := (tenthsOf_lt hv).1 (Nat.lt_succ_self _)
  have hnear := h.raised_near hk hw hz
  generalize tenthsOf (n / 1000 ^ k) = s at hlow hhigh
  have hexact : (n / 1000 ^ k * 10 + 1 / 2) * (2 * 1000 ^ k) = 20 * n + (1000 : ℚ) ^ k := by
    field_simp
    ring
  generalize (n : ℚ) / 1000 ^ k * 10 + 1 / 2 = v at hlow hhigh hnear hexact
  -- In units of half a byte both ends are whole numbers, and the error is less than one.
  have hlow' : s * (2 * 1000 ^ k) ≤ 20 * n + 1000 ^ k := by
    have hscaled := mul_le_mul_of_nonneg_right hlow hpos.le
    rw [hexact] at hscaled
    exact_mod_cast hscaled
  have hhigh' : 20 * n + 1000 ^ k < (s + 1) * (2 * 1000 ^ k) := by
    have hscaled := mul_lt_mul_of_pos_right hhigh hpos
    rw [hexact] at hscaled
    exact_mod_cast hscaled
  have herror : |z * (2 * 1000 ^ k) - (20 * n + 1000 ^ k)| < 1 := by
    have hpow' : (1000 : ℚ) ^ k ≤ n := by exact_mod_cast hpow
    have hn' : (n : ℚ) < 2 ^ 44 := by exact_mod_cast hn
    rw [← hexact, ← sub_mul, abs_mul, abs_of_pos hpos]
    have hscaled := mul_le_mul_of_nonneg_right hnear hpos.le
    rw [mul_assoc, hexact] at hscaled
    linarith
  obtain ⟨herrorLow, herrorHigh⟩ := abs_lt.1 herror
  have hbelow : z < s + 1 := by
    have hnext : (20 * n + 1000 ^ k + 1 : ℚ) ≤ (s + 1) * (2 * 1000 ^ k) := by exact_mod_cast hhigh'
    exact lt_of_mul_lt_mul_right (by linarith) hpos.le
  have habove : (s : ℚ) ≤ z := by
    rcases hlow'.eq_or_lt with hedge | hlt
    · exact (h.raised_eq hn hw hz hedge).ge
    · have hnext : (s * (2 * 1000 ^ k) + 1 : ℚ) ≤ 20 * n + 1000 ^ k := by exact_mod_cast hlt
      exact le_of_mul_le_mul_right (by linarith) hpos
  exact (Nat.floor_eq_iff (habove.trans' (Nat.cast_nonneg s))).2 ⟨habove, hbelow⟩

/-- Up to seventeen terabytes the text is that of the quantity in exact arithmetic. -/
theorem text_reading (hn : n < 2 ^ 44) : text n = (reading n).text := by
  rcases lt_or_ge n 10 with hlow | hlow
  · rw [text_of_lt n hlow, reading, if_pos hlow]
  obtain ⟨k, x, t, hk, h, hend, -, ht, htext⟩ := text_spec hlow (by omega)
  have hpow := h.pow_le hk (by omega) hn
  rw [htext, h.eq_tenthsOf hk hn hpow ht, h.eq_powerOf hk (by omega) hn hend, reading,
    if_neg hlow.not_gt, valueOf]

/-- The tenths told are off by half a tenth and by what the doubles are off. -/
theorem Scaled.tenths_near (h : Scaled n k x) (hk : k ≤ 6) (hone : 1 ≤ n) (ht : Tenths x t) :
    |(t : ℚ) / 10 - n / 1000 ^ k| ≤ 1 / 20 + n / 1000 ^ k / 2 ^ 48 := by
  obtain ⟨w, z, hw, hz, rfl⟩ := ht
  have hx := h.one_le hone
  have hnear := (abs_le.1 (h.near hk)).2
  have hraised := abs_le.1 (h.raised_near hk hw hz)
  have hpos : (0 : ℚ) ≤ n / 1000 ^ k := by positivity
  generalize (n : ℚ) / 1000 ^ k = v at hnear hraised hpos
  have hk' : ((k : ℚ) + 1) / 2 ^ 52 ≤ 1 := by
    have hle : (k : ℚ) ≤ 6 := by exact_mod_cast hk
    linarith
  have hhalf : 1 / 2 ≤ v := by
    have hle := mul_le_mul_of_nonneg_right hk' hpos
    linarith
  have hfloor := Nat.floor_le (by linarith : 0 ≤ z)
  have hfloor' := Nat.lt_floor_add_one z
  rw [abs_le]
  constructor <;> linarith

theorem rough_ofTenths (h : Scaled n k x) (hk : k ≤ 6) (hone : 1 ≤ n) (hbelow : x < 1000)
    (ht : Tenths x t) : (ofTenths t k).Rough n := by
  obtain ⟨hlow, hhigh⟩ := ht.bounds (h.one_le hone) hbelow
  have hnear := h.tenths_near hk hone ht
  have hbytes : (n : ℚ) / 1000 ^ k / 2 ^ 48 * 1000 ^ k = n / 2 ^ 48 := by field_simp
  rw [ofTenths]
  split_ifs with htenths
  · have hlow' : (10 : ℚ) ≤ t := by exact_mod_cast hlow
    have htenths' : (t : ℚ) < 100 := by exact_mod_cast htenths
    refine ⟨Nat.lt_succ_iff.2 hk, ?_, fun _ => ?_, ?_⟩
    · rw [Quantity.amount_tenths]
      linarith
    · rw [Quantity.amount_tenths]
      linarith
    · rw [Quantity.off_eq, Quantity.amount_tenths, Quantity.unit, if_pos rfl, ← hbytes,
        ← add_mul]
      exact mul_le_mul_of_nonneg_right hnear (by positivity)
  · have hwhole : 10 ≤ roundDiv t 10 ∧ roundDiv t 10 ≤ 1000 := by
      rcases roundDiv_ten t with h | h | h | h <;> omega
    have hround := (roundsTo_roundDiv t (by decide : 0 < 10)).near
    push_cast at hround
    generalize roundDiv t 10 = m at hwhole hround
    have hwhole' : (10 : ℚ) ≤ m ∧ (m : ℚ) ≤ 1000 := by exact_mod_cast hwhole
    have htriangle := abs_sub_le (m : ℚ) (t / 10) (n / 1000 ^ k)
    refine ⟨Nat.lt_succ_iff.2 hk, ?_, fun _ => ?_, ?_⟩
    · rw [Quantity.amount_whole]
      linarith
    · rw [Quantity.amount_whole]
      linarith
    · rw [Quantity.off_eq, Quantity.amount_whole, Quantity.unit, if_neg Bool.false_ne_true,
        ← hbytes, ← add_mul]
      exact mul_le_mul_of_nonneg_right (by linarith) (by positivity)

end Telling

/-! ## Sizes -/

/-- Up to seventeen terabytes a proper quantity is told exactly if the value does not slip. -/
theorem proper_told_iff (hn : n < 2 ^ 44) :
    (∃ q : Quantity, text n = q.text ∧ q.Proper n) ↔ ¬Slips n := by
  rw [← reading_proper_iff, text_reading hn]
  refine ⟨fun ⟨q, htext, hq⟩ => ?_, fun h => ⟨_, rfl, h⟩⟩
  rwa [Quantity.eq_of_text_eq (listed_reading n) hq.listed htext]

/-- What is true of the text of a size. -/
structure Told (n : ℕ) : Prop where
  /-- In exact arithmetic the quantity is a proper one if the value does not slip, and only then. -/
  proper_iff : (reading n).Proper n ↔ ¬Slips n
  /-- Up to seventeen terabytes doubles do not make a difference. -/
  agrees : n < 2 ^ 44 → text n = (reading n).text
  told_iff : n < 2 ^ 44 → ((∃ q : Quantity, text n = q.text ∧ q.Proper n) ↔ ¬Slips n)
  /-- A quantity is told that is not far off in any case. -/
  rough : ∃ q : Quantity, text n = q.text ∧ q.Rough n

/-- Every size of 64 bits is told as a quantity, up to seventeen terabytes as a proper one unless
its value is just below the next unit, or is rounded twice to the farther of its neighbours. -/
theorem size_told (n : ℕ) (hn : n < 2 ^ 64) : Told n := by
  refine ⟨reading_proper_iff n, text_reading, proper_told_iff, ?_⟩
  rcases lt_or_ge n 10 with hlow | hlow
  · obtain ⟨hlisted, hbelow, habove, hnear, _⟩ := proper_of_lt hlow
    refine ⟨_, text_of_lt n hlow, hlisted, hbelow.le, habove, hnear.trans ?_⟩
    have hpos : (0 : ℚ) ≤ n / 2 ^ 48 := by positivity
    rw [Quantity.place_whole, Quantity.unit, if_neg Bool.false_ne_true]
    linarith
  · obtain ⟨k, x, t, hk, h, -, hbelow, ht, htext⟩ := text_spec hlow hn
    exact ⟨_, htext, rough_ofTenths h hk (by omega) hbelow ht⟩

theorem example_told : text 82854982 = "83 MB" ∧ Told 82854982 :=
  ⟨by decide +kernel, size_told 82854982 (by decide)⟩

/-- Sizes are told as a thousand of a unit, and as the farther of two numbers. -/
theorem proper_size_not_told :
    (text 999950 = "1000 kB" ∧ ¬∃ q : Quantity, text 999950 = q.text ∧ q.Proper 999950) ∧
      text 11450 = "12 kB" ∧ ¬∃ q : Quantity, text 11450 = q.text ∧ q.Proper 11450 := by
  refine ⟨⟨by decide +kernel, ?_⟩, by decide +kernel, ?_⟩ <;>
    rw [proper_told_iff (by decide), not_not, Slips,
      valueOf_eq (k := 1) (by decide) (by decide) (by decide)]
  · exact .inl (by norm_num)
  · exact .inr ⟨11, by decide, .inl ⟨by decide, by norm_num, by norm_num⟩⟩

end AppDeploy.Size
