import AppDeploy.Proofs.Except
import AppDeploy.Proofs.Time.Span

/-!
# Texts that say no time at all

A text that is read as a span says no time at all exactly if it has no digit but zeros
(`ofText_eq_zero_iff`). With each character the reader counts something or it does not, and what
it has counted it keeps (`nothing_step`).
-/

namespace AppDeploy

namespace Span

/-! ## Numbers of units -/

theorem limited_eq_ok {n m : Nat} (h : limited n = .ok m) : m = n := by
  rw [limited] at h
  split at h
  · cases h
    rfl
  · cases h

theorem exactDiv_eq_zero {num den quotient : Nat} (h : exactDiv num den = .ok quotient) :
    quotient = 0 ↔ num = 0 := by
  rw [exactDiv] at h
  split at h
  case isFalse => cases h
  case isTrue hexact =>
    cases h
    constructor
    · intro hquotient
      have hnum := Nat.div_add_mod num den
      rw [hquotient, hexact] at hnum
      exact hnum.symm
    · intro hnum
      rw [hnum, Nat.zero_div]

theorem Unit.nanoseconds?_ne_zero {unit : Unit} {size : Nat} (h : unit.nanoseconds? = some size) :
    size ≠ 0 := by
  cases unit <;> cases h <;> decide

theorem Unit.seconds_ne_zero {unit : Unit} (h : unit.nanoseconds? = none) : unit.seconds ≠ 0 := by
  cases unit <;> cases h <;> decide

theorem wholeParts_eq_zero {unit : Unit} {n seconds nanoseconds : Nat}
    (h : wholeParts unit n = .ok (seconds, nanoseconds)) :
    seconds = 0 ∧ nanoseconds = 0 ↔ n = 0 := by
  rw [wholeParts] at h
  cases hsize : unit.nanoseconds? with
  | some size =>
    simp only [hsize] at h
    obtain ⟨product, hproduct, hparts⟩ := map_eq_ok.1 h
    cases hparts
    rw [limited_eq_ok hproduct, and_iff_right rfl, Nat.mul_eq_zero,
      or_iff_left (Unit.nanoseconds?_ne_zero hsize)]
  | none =>
    simp only [hsize] at h
    obtain ⟨product, hproduct, hparts⟩ := map_eq_ok.1 h
    cases hparts
    rw [limited_eq_ok hproduct, and_iff_left rfl, Nat.mul_eq_zero,
      or_iff_left (Unit.seconds_ne_zero hsize)]

theorem exact_eq_zero {f : Fraction} {size quotient : Nat} (hsize : size ≠ 0)
    (h : (limited (f.numerator * size) >>= fun num => exactDiv num f.denominator) = .ok quotient) :
    quotient = 0 ↔ f.numerator = 0 := by
  obtain ⟨num, hnum, hquotient⟩ := bind_eq_ok.1 h
  rw [exactDiv_eq_zero hquotient, limited_eq_ok hnum, Nat.mul_eq_zero, or_iff_left hsize]

theorem fractionParts_eq_zero {unit : Unit} {f : Fraction} {seconds nanoseconds : Nat}
    (h : fractionParts unit f = .ok (seconds, nanoseconds)) :
    seconds = 0 ∧ nanoseconds = 0 ↔ f.numerator = 0 := by
  cases unit with
  | nanosecond => cases h
  | microsecond | millisecond | second | minute =>
    obtain ⟨quotient, hquotient, hparts⟩ := map_eq_ok.1 h
    cases hparts
    simpa using exact_eq_zero (by decide) hquotient
  | hour | day | week | month | year =>
    obtain ⟨quotient, hquotient, hparts⟩ := map_eq_ok.1 h
    cases hparts
    simpa using exact_eq_zero (by decide) hquotient

theorem eq_zero_iff {d : Span} : d = .zero ↔ d.nanoseconds = 0 := by
  obtain ⟨n⟩ := d
  simp [zero]

theorem addParts_eq_zero {total d : Span} {seconds nanoseconds : Nat}
    (h : addParts total seconds nanoseconds = .ok d) :
    d = .zero ↔ total = .zero ∧ seconds = 0 ∧ nanoseconds = 0 := by
  obtain ⟨_, -, h⟩ := bind_eq_ok.1 h
  obtain ⟨_, -, h⟩ := bind_eq_ok.1 h
  obtain ⟨_, -, h⟩ := bind_eq_ok.1 h
  cases h
  rw [eq_zero_iff, eq_zero_iff]
  show total.nanoseconds + seconds * 1000000000 + nanoseconds = 0 ↔ _
  omega

/-- No number, and no fraction of one. -/
def NoUnits (n : Nat) (f : Option Fraction) : Prop :=
  n = 0 ∧ ∀ g, f = some g → g.numerator = 0

theorem addUnits_eq_zero {total d : Span} {n : Nat} {f : Option Fraction} {name : String}
    (h : addUnits total n f name = .ok d) : d = .zero ↔ total = .zero ∧ NoUnits n f := by
  rw [addUnits] at h
  cases hunit : spellings.lookup name with
  | none =>
    simp only [hunit] at h
    cases h
  | some unit =>
    simp only [hunit] at h
    obtain ⟨⟨seconds, nanoseconds⟩, hwhole, h⟩ := bind_eq_ok.1 h
    obtain ⟨total', htotal, h⟩ := bind_eq_ok.1 h
    have hn := wholeParts_eq_zero hwhole
    have htotal := addParts_eq_zero htotal
    cases f with
    | none =>
      cases h
      rw [htotal, hn, NoUnits]
      simp
    | some f =>
      obtain ⟨⟨seconds', nanoseconds'⟩, hfraction, h⟩ := bind_eq_ok.1 h
      rw [addParts_eq_zero h, fractionParts_eq_zero hfraction, htotal, hn, NoUnits]
      simp [and_assoc]

/-! ## Reading -/

/-- In this phase nothing has been counted that is not yet part of the total. -/
def Phase.Nothing : Phase → Prop
  | .before _ _ => True
  | .number n => n = 0
  | .fraction n f _ => NoUnits n (some f)
  | .unit n f _ => NoUnits n f

theorem digit_eq_zero {c : Char} (h : c.isDigit = true) : digit c = 0 ↔ c = '0' := by
  constructor
  · intro hzero
    simp only [Char.isDigit, Bool.and_eq_true, decide_eq_true_eq, ge_iff_le,
      UInt32.le_iff_toNat_le] at h
    have hlow : 48 ≤ c.toNat := h.1
    have hval : c.toNat = '0'.toNat := by
      show c.toNat = 48
      rw [digit] at hzero
      omega
    exact Char.toNat_inj.1 hval
  · rintro rfl
    rfl

/-- What a digit adds is nothing if it is a zero. -/
theorem nothing_step_digit {offset : Nat} {c : Char} {total total' : Span} {phase phase' : Phase}
    (hc : c.isDigit = true) (h : step offset c total phase = .ok (phase', total')) :
    phase'.Nothing ∧ total' = .zero ↔ (phase.Nothing ∧ total = .zero) ∧ c = '0' := by
  rw [← digit_eq_zero hc]
  cases phase with
  | before since first =>
    rw [step, if_pos hc] at h
    cases h
    simp [Phase.Nothing, and_comm]
  | number n =>
    rw [step, if_pos hc] at h
    obtain ⟨n', hn', h⟩ := bind_eq_ok.1 h
    cases h
    have hn : n' = 0 ↔ n = 0 ∧ digit c = 0 := by
      rw [limited_eq_ok hn']
      omega
    simp only [Phase.Nothing, hn]
    grind
  | fraction n f checked =>
    rw [step, if_pos hc] at h
    obtain ⟨denominator, -, h⟩ := bind_eq_ok.1 h
    obtain ⟨numerator, hnumerator, h⟩ := bind_eq_ok.1 h
    cases h
    have hf : numerator = 0 ↔ f.numerator = 0 ∧ digit c = 0 := by
      rw [limited_eq_ok hnumerator]
      omega
    simp only [Phase.Nothing, NoUnits, Option.some.injEq, forall_eq', hf]
    grind
  | unit n f name =>
    rw [step, if_pos hc] at h
    obtain ⟨_, hadd, h⟩ := bind_eq_ok.1 h
    cases h
    simp only [Phase.Nothing, addUnits_eq_zero hadd]
    grind

/-- No other character adds anything. -/
theorem nothing_step_other {offset : Nat} {c : Char} {total total' : Span} {phase phase' : Phase}
    (hc : c.isDigit ≠ true) (h : step offset c total phase = .ok (phase', total')) :
    phase'.Nothing ∧ total' = .zero ↔ phase.Nothing ∧ total = .zero := by
  cases phase with
  | before since first =>
    rw [step, if_neg hc] at h
    split at h
    · cases h
      rfl
    · cases h
  | number n =>
    rw [step, if_neg hc] at h
    split at h
    · cases h
      rfl
    · split at h
      · cases h
        simp [Phase.Nothing, NoUnits]
      · split at h
        · cases h
          simp [Phase.Nothing, NoUnits]
        · cases h
  | fraction n f checked =>
    rw [step, if_neg hc] at h
    split at h
    · cases h
      rfl
    · split at h
      · cases h
        rfl
      · cases h
  | unit n f name =>
    rw [step, if_neg hc] at h
    split at h
    · obtain ⟨_, hadd, h⟩ := bind_eq_ok.1 h
      cases h
      simp [Phase.Nothing, addUnits_eq_zero hadd, and_comm]
    · split at h
      · cases h
        rfl
      · cases h

theorem nothing_step {offset : Nat} {c : Char} {total total' : Span} {phase phase' : Phase}
    (h : step offset c total phase = .ok (phase', total')) :
    phase'.Nothing ∧ total' = .zero ↔
      (phase.Nothing ∧ total = .zero) ∧ (c.isDigit = true → c = '0') := by
  by_cases hc : c.isDigit = true
  · rw [nothing_step_digit hc h]
    simp [hc]
  · rw [nothing_step_other hc h]
    simp [hc]

theorem finish_eq_zero {total d : Span} {phase : Phase} (h : finish total phase = .ok d) :
    d = .zero ↔ phase.Nothing ∧ total = .zero := by
  cases phase with
  | before since first =>
    cases first with
    | true => cases h
    | false =>
      cases h
      simp [Phase.Nothing]
  | number n =>
    rw [finish] at h
    rw [addUnits_eq_zero h]
    simp [Phase.Nothing, NoUnits, and_comm]
  | fraction n f checked =>
    rw [finish] at h
    split at h
    · cases h
    · rw [addUnits_eq_zero h, and_comm]
      rfl
  | unit n f name =>
    rw [finish] at h
    rw [addUnits_eq_zero h, and_comm]
    rfl

theorem readFrom_eq_zero {cs : List Char} {offset : Nat} {phase : Phase} {total d : Span}
    (h : readFrom offset phase total cs = .ok d) :
    d = .zero ↔ (phase.Nothing ∧ total = .zero) ∧ ∀ c ∈ cs, c.isDigit = true → c = '0' := by
  induction cs generalizing offset phase total with
  | nil =>
    rw [finish_eq_zero h]
    simp
  | cons c rest ih =>
    obtain ⟨⟨phase', total'⟩, hstep, hrest⟩ := bind_eq_ok.1 h
    rw [ih hrest, nothing_step hstep, List.forall_mem_cons, and_assoc]

/-- What is read as a span says no time at all if it has no digit but zeros. -/
theorem ofText_eq_zero_iff {s : String} {d : Span} (h : ofText s = .ok d) :
    d = .zero ↔ ∀ c ∈ s.toList, c.isDigit = true → c = '0' := by
  rw [ofText] at h
  split at h
  case isTrue hlone =>
    cases h
    subst hlone
    simp
  case isFalse =>
    rw [readFrom_eq_zero h]
    simp [Phase.Nothing]

end Span

end AppDeploy
