import AppDeploy.Proofs.Heartbeat.Step
import Mathlib.Data.Nat.Count

/-!
# Histories of guards

In a history of operations a guard is told by the place where it was made, a hook by the place where
it was registered and a task by the place where it was started, however often their names come
again. What is held, what is dropped where, which hook was registered last and which task is over
can be read off the operations alone (`Holds`, `Drops`, `LastHook`, `Over`).
-/

namespace AppDeploy.Heartbeats

open Heartbeat

/-- What is done with guards and tasks, one operation after the other. At every moment only those
matter that have been done, so any list of operations is the beginning of a history. -/
abbrev History := Nat → Operation

/-- The guards and tasks after so many operations. -/
def after (ops : History) : Nat → Heartbeats
  | 0 => {}
  | n + 1 => ((after ops n).apply (ops n)).1

/-- What the operation at a place brings about. -/
def eventsAt (ops : History) (n : Nat) : List Event :=
  ((after ops n).apply (ops n)).2

/-- The hooks that the operation at a place runs. -/
def hooksAt (ops : History) (n : Nat) : List String :=
  (eventsAt ops n).filterMap Event.hook?

/-- The guard that was made at a place is held until another one: it was not dropped between. -/
structure Holds (ops : History) (id : String) (g n : Nat) : Prop where
  before : g < n
  made : (ops g).made? = some id
  kept : ∀ i, g < i → i < n → (ops i).freed? ≠ some id

/-- The guard that was made at a place is dropped at another one. -/
structure Drops (ops : History) (id : String) (g d : Nat) : Prop where
  held : Holds ops id g d
  freed : (ops d).freed? = some id

/-- A hook is registered at a place, on the guard that was made at another one. -/
structure Registers (ops : History) (id : String) (g k : Nat) (name : String) : Prop where
  held : Holds ops id g k
  registered : ops k = .setHook id name

/-- The hook that was registered last, before a place, on the guard that is held there. -/
structure LastHook (ops : History) (id : String) (g n k : Nat) (name : String) : Prop where
  later : g < k
  before : k < n
  registered : ops k = .setHook id name
  last : ∀ i, k < i → i < n → ∀ other, ops i ≠ .setHook id other

/-- No other hook has the name of the one that is registered at a place. -/
def SoleOfName (ops : History) (k : Nat) (name : String) : Prop :=
  ∀ i id, ops i = .setHook id name → i = k

/-- The task that was started at a place has not ended before another one. It has the number that
was next when it was started. -/
def Runs (ops : History) (g n : Nat) : Prop :=
  ((after ops n).tasks.lookup (after ops g).nextTask).isSome = true

/-- The turns that the tasks had between two places. -/
def turnsSince (ops : History) (g n : Nat) : Nat :=
  Nat.count (fun i => g < i ∧ ops i = .turn) n

/-- The guard that was made at a place was dropped before another one. -/
def Dropped (ops : History) (id : String) (g n : Nat) : Prop :=
  ∃ d < n, Drops ops id g d

/-- A task is over when it has had a turn since its guard was dropped, or the turn that it ends in
by itself. -/
def Over (ops : History) (id : String) (endless : Bool) (later g n : Nat) : Prop :=
  (∃ t < n, ops t = .turn ∧ Dropped ops id g t) ∨ (endless = false ∧ later < turnsSince ops g n)

variable {ops : History} {id name other : String} {g g' d d' k n later : Nat} {endless : Bool}

theorem Holds.unique (h : Holds ops id g n) (h' : Holds ops id g' n) : g = g' := by
  rcases Nat.lt_trichotomy g g' with hlt | heq | hgt
  · exact absurd (Operation.freed?_of_made? h'.made) (h.kept g' hlt h'.before)
  · exact heq
  · exact absurd (Operation.freed?_of_made? h.made) (h'.kept g hgt h.before)

theorem Holds.earlier (h : Holds ops id g n) (hk : g < k) (hn : k < n) : Holds ops id g k :=
  ⟨hk, h.made, fun i hi hik => h.kept i hi (hik.trans hn)⟩

/-- A guard is held after an operation if it is made by it, or was held before and is not dropped
by it. -/
theorem holds_succ : Holds ops id g (n + 1) ↔
    g = n ∧ (ops n).made? = some id ∨ Holds ops id g n ∧ (ops n).freed? ≠ some id := by
  constructor
  · intro h
    rcases Nat.lt_succ_iff_lt_or_eq.1 h.before with hlt | rfl
    · exact .inr ⟨⟨hlt, h.made, fun i hi hn => h.kept i hi (Nat.lt_succ_of_lt hn)⟩,
        h.kept n hlt (Nat.lt_succ_self n)⟩
    · exact .inl ⟨rfl, h.made⟩
  · rintro (⟨rfl, hmade⟩ | ⟨h, hfreed⟩)
    · exact ⟨Nat.lt_succ_self _, hmade, fun i hi hn => absurd (Nat.lt_succ_iff.1 hn) (by omega)⟩
    · refine ⟨Nat.lt_succ_of_lt h.before, h.made, fun i hi hn => ?_⟩
      rcases Nat.lt_succ_iff_lt_or_eq.1 hn with hlt | rfl
      · exact h.kept i hi hlt
      · exact hfreed

theorem lastHook_succ : LastHook ops id g (n + 1) k name ↔
    k = n ∧ g < n ∧ ops n = .setHook id name ∨
      LastHook ops id g n k name ∧ ∀ other, ops n ≠ .setHook id other := by
  constructor
  · intro h
    rcases Nat.lt_succ_iff_lt_or_eq.1 h.before with hlt | rfl
    · exact .inr ⟨⟨h.later, hlt, h.registered, fun i hi hn => h.last i hi (Nat.lt_succ_of_lt hn)⟩,
        h.last n hlt (Nat.lt_succ_self n)⟩
    · exact .inl ⟨rfl, h.later, h.registered⟩
  · rintro (⟨rfl, hlater, hset⟩ | ⟨h, hlast⟩)
    · exact ⟨hlater, Nat.lt_succ_self _, hset, fun i hi hn => absurd hi (by omega)⟩
    · refine ⟨h.later, Nat.lt_succ_of_lt h.before, h.registered, fun i hi hn => ?_⟩
      rcases Nat.lt_succ_iff_lt_or_eq.1 hn with hlt | rfl
      · exact h.last i hi hlt
      · exact hlast

/-- The hook that is registered at a place is let go with one guard, at one place. -/
theorem Drops.unique (h : Drops ops id g d) (hk : LastHook ops id g d k name)
    (h' : Drops ops other g' d') (hk' : LastHook ops other g' d' k name) : d = d' := by
  obtain rfl : id = other := by
    have heq := hk.registered.symm.trans hk'.registered
    cases heq
    rfl
  rcases Nat.lt_trichotomy d d' with hlt | heq | hgt
  · -- The guard that was made at `g'` is held from before `k`, and so at `d`.
    exact absurd h.freed (h'.held.kept d (hk'.later.trans hk.before) hlt)
  · exact heq
  · exact absurd h'.freed (h.held.kept d' (hk.later.trans hk'.before) hgt)

theorem dropped_succ : Dropped ops id g (n + 1) ↔ Dropped ops id g n ∨ Drops ops id g n := by
  constructor
  · rintro ⟨d, hd, h⟩
    rcases Nat.lt_succ_iff_lt_or_eq.1 hd with hlt | rfl
    · exact .inl ⟨d, hlt, h⟩
    · exact .inr h
  · rintro (⟨d, hd, h⟩ | h)
    · exact ⟨d, Nat.lt_succ_of_lt hd, h⟩
    · exact ⟨n, Nat.lt_succ_self n, h⟩

theorem turnsSince_succ (ops : History) (g n : Nat) :
    turnsSince ops g (n + 1) = turnsSince ops g n + if g < n ∧ ops n = .turn then 1 else 0 :=
  Nat.count_succ ..

theorem turnsSince_self (ops : History) (g : Nat) : turnsSince ops g (g + 1) = 0 := by
  rw [turnsSince, Nat.count_iff_forall_not]
  rintro i hi ⟨hg, -⟩
  omega

theorem not_dropped_self : ¬Dropped ops id g (g + 1) := by
  rintro ⟨d, hd, hdrops⟩
  exact absurd hdrops.held.before (by omega)

/-- A task is not over when it has just been started. -/
theorem not_over_self : ¬Over ops id endless later g (g + 1) := by
  rintro (⟨t, ht, -, d, hd, hdrops⟩ | ⟨-, hlater⟩)
  · exact absurd hdrops.held.before (by omega)
  · rw [turnsSince_self] at hlater
    exact Nat.not_lt_zero later hlater

/-- Only a turn can be the end of a task. -/
theorem over_succ (hg : g < n) : Over ops id endless later g (n + 1) ↔
    Over ops id endless later g n ∨
      ops n = .turn ∧ (Dropped ops id g n ∨ (endless = false ∧ turnsSince ops g n = later)) := by
  simp only [Over, turnsSince_succ, hg, true_and]
  constructor
  · rintro (⟨t, ht, hturn, hdropped⟩ | ⟨hfinite, hlater⟩)
    · rcases Nat.lt_succ_iff_lt_or_eq.1 ht with hlt | rfl
      · exact .inl (.inl ⟨t, hlt, hturn, hdropped⟩)
      · exact .inr ⟨hturn, .inl hdropped⟩
    · by_cases hold : later < turnsSince ops g n
      · exact .inl (.inr ⟨hfinite, hold⟩)
      · split at hlater
        · next hturn => exact .inr ⟨hturn, .inr ⟨hfinite, by omega⟩⟩
        · omega
  · rintro ((⟨t, ht, hover⟩ | ⟨hfinite, hlater⟩) | ⟨hturn, hdropped | ⟨hfinite, hlater⟩⟩)
    · exact .inl ⟨t, Nat.lt_succ_of_lt ht, hover⟩
    · exact .inr ⟨hfinite, by omega⟩
    · exact .inl ⟨n, Nat.lt_succ_self n, hturn, hdropped⟩
    · exact .inr ⟨hfinite, by rw [if_pos hturn]; omega⟩

/-- The endless task of a guard that is held is not over. -/
theorem not_over_of_holds (h : Holds ops id g n) : ¬Over ops id true later g n := by
  rintro (⟨t, ht, -, d, hd, hdrops⟩ | ⟨hfinite, -⟩)
  · exact h.kept d hdrops.held.before (hd.trans ht) hdrops.freed
  · cases hfinite

end AppDeploy.Heartbeats
