import AppDeploy.Proofs.Deploy.Watch
import Mathlib.Data.List.Range
import Mathlib.Order.Monotone.Basic
import Mathlib.Order.Nat

/-!
# The schedule of a watch

The answers to the polls of a watch fix when each of them begins and ends (`begins`, `ends`),
whether it is made or not. Since every poll takes the watch one interval further, there is a
last one (`exists_isLast`), long before the watch runs out of polls that it is allowed to make.
What a watch asks are the turns up to its last poll, and a last turn that decides how it ends
(`course_of_watch`).
-/

namespace AppDeploy.Schedule

open Watched (elapsed lasted pause)

/-- The answers to the polls of a watch, one after the other. -/
abbrev Answers := Nat → Timed (Except ApiError StatusReport)

variable {what : String} {subject : Watched} {pace : Pace} {answers : Answers} {i k count : Nat}

/-! ## Times -/

/-- When a poll begins, in nanoseconds: the first one at once, and every other one an interval
after the poll before it has begun, or when that poll has ended, whichever is later. -/
def begins (pace : Pace) (answers : Answers) : Nat → Nat
  | 0 => 0
  | i + 1 =>
    max (begins pace answers i + pace.interval.nanoseconds)
      (begins pace answers i + (answers i).took.nanoseconds)

/-- When a poll ends. -/
def ends (pace : Pace) (answers : Answers) (i : Nat) : Nat :=
  begins pace answers i + (answers i).took.nanoseconds

section Times

variable (pace : Pace) (answers : Answers)

theorem begins_le_ends (i : Nat) : begins pace answers i ≤ ends pace answers i :=
  Nat.le_add_right _ _

theorem ends_le_begins_succ (i : Nat) : ends pace answers i ≤ begins pace answers (i + 1) :=
  Nat.le_max_right _ _

theorem begins_add_interval_le (i : Nat) :
    begins pace answers i + pace.interval.nanoseconds ≤ begins pace answers (i + 1) :=
  Nat.le_max_left _ _

theorem begins_mono : Monotone (begins pace answers) :=
  monotone_nat_of_le_succ fun i =>
    (begins_le_ends pace answers i).trans (ends_le_begins_succ pace answers i)

theorem mul_interval_le_begins (i : Nat) :
    i * pace.interval.nanoseconds ≤ begins pace answers i := by
  induction i with
  | zero => simp
  | succ i ih =>
    have hnext := begins_add_interval_le pace answers i
    rw [Nat.succ_mul]
    omega

/-- The next poll of a watch begins when the schedule says so. -/
theorem next_begins (i : Nat) :
    pace.next ⟨begins pace answers i⟩ ⟨ends pace answers i⟩ = ⟨begins pace answers (i + 1)⟩ := by
  show (if begins pace answers i + pace.interval.nanoseconds ≤ ends pace answers i then
    ⟨ends pace answers i⟩ else ⟨begins pace answers i + pace.interval.nanoseconds⟩ : Span) = _
  split
  case isTrue h => exact congrArg Span.mk (Nat.max_eq_right h).symm
  case isFalse h => exact congrArg Span.mk (Nat.max_eq_left (Nat.le_of_not_le h)).symm

end Times

/-! ## A watch that is answered -/

/-- A world that answers one poll after the other. -/
def answering (answers : Answers) : World Status Nat where
  answer
    | .report _, i => (answers i, i + 1)
    | .wait _, i => ((), i)

/-- What a plan asks when the polls from one on are answered, and what it comes to. -/
def answered {α : Type} (answers : Answers) (p : Plan Status α) (i : Nat) :
    List (Exchange Status) × α :=
  (exchanges (Plan.run (answering answers) p i).1, (Plan.run (answering answers) p i).2.1)

section Answered

variable {β : Type}

theorem answered_report_bind (f : Timed (Except ApiError StatusReport) → Plan Status β) (i : Nat) :
    answered answers (Plan.request (S := Status) (.report subject) >>= f) i =
      (subject.poll (answers i) :: (answered answers (f (answers i)) (i + 1)).1,
        (answered answers (f (answers i)) (i + 1)).2) := rfl

theorem answered_wait_bind (span : Span) (f : Unit → Plan Status β) (i : Nat) :
    answered answers (Plan.request (S := Status) (.wait span) >>= f) i =
      (pause span :: (answered answers (f ()) i).1, (answered answers (f ()) i).2) := rfl

end Answered

/-- A watch under a name, with polls for the reports on something. -/
def watch (what : String) (subject : Watched) (pace : Pace) :
    Plan Status (Except WatchError Unit) :=
  Plan.watch what pace (fun span => Plan.request (S := Status) (.wait span))
    (Plan.request (S := Status) (.report subject))

/-- What an app is watched for is watched under its own name. -/
theorem watch_name (subject : Watched) (pace : Pace) :
    watch subject.name subject pace = subject.watch pace := rfl

/-- What a watch asks when its polls are answered, and what it comes to. -/
def course (what : String) (subject : Watched) (pace : Pace) (answers : Answers) :
    List (Exchange Status) × Except WatchError Unit :=
  answered answers (watch what subject pace) 0

/-- What a watch asks from a poll on, so many polls at most, and what it comes to. -/
def courseFrom (what : String) (subject : Watched) (pace : Pace) (answers : Answers)
    (count i : Nat) : List (Exchange Status) × Except WatchError Unit :=
  answered answers
    (Plan.watchFrom what pace (fun span => Plan.request (S := Status) (.wait span))
      (Plan.request (S := Status) (.report subject)) count ⟨begins pace answers i⟩) i

theorem course_eq_courseFrom (h : 0 < pace.interval.nanoseconds) :
    course what subject pace answers = courseFrom what subject pace answers pace.pollLimit 0 := by
  have hne : pace.interval ≠ .zero := by
    intro hzero
    rw [hzero] at h
    exact absurd h (by decide)
  rw [course, watch, Plan.watch, if_neg hne]
  rfl

/-- One turn of a watch, and what comes after it. -/
theorem courseFrom_succ (count i : Nat) :
    courseFrom what subject pace answers (count + 1) i =
      if pace.timeout.nanoseconds < ends pace answers i then
        ([subject.poll (answers i)], .error (.timedOut what pace.timeout))
      else match watchEnd? what (answers i).value with
        | some result => ([subject.poll (answers i)], result)
        | none =>
          if pace.timeout.nanoseconds < begins pace answers (i + 1) then
            ([subject.poll (answers i), pause ⟨pace.timeout.nanoseconds - ends pace answers i⟩],
              .error (.timedOut what pace.timeout))
          else
            (subject.poll (answers i) ::
                pause ⟨begins pace answers (i + 1) - ends pace answers i⟩ ::
                (courseFrom what subject pace answers count (i + 1)).1,
              (courseFrom what subject pace answers count (i + 1)).2) := by
  have hends : (⟨begins pace answers i⟩ : Span) + (answers i).took = ⟨ends pace answers i⟩ := rfl
  rw [courseFrom, Plan.watchFrom, answered_report_bind, hends]
  simp only [next_begins]
  by_cases hlate : pace.timeout < ⟨ends pace answers i⟩
  · rw [if_pos hlate]
    exact (if_pos hlate).symm
  · rw [if_neg hlate]
    refine .trans ?_ (if_neg hlate).symm
    cases watchEnd? what (answers i).value with
    | some result => rfl
    | none =>
      simp only
      by_cases hnext : pace.timeout < ⟨begins pace answers (i + 1)⟩
      · rw [if_pos hnext]
        exact (if_pos hnext).symm
      · rw [if_neg hnext, answered_wait_bind, next_begins]
        exact (if_neg hnext).symm

/-! ## The last poll -/

/-- The turns of a watch before a poll. -/
def turns (subject : Watched) (pace : Pace) (answers : Answers) : Nat → List (Exchange Status)
  | 0 => []
  | k + 1 => turns subject pace answers k ++
      [subject.poll (answers k), pause ⟨begins pace answers (k + 1) - ends pace answers k⟩]

/-- The poll that no other follows. -/
structure IsLast (what : String) (pace : Pace) (answers : Answers) (k : Nat) : Prop where
  /-- It is made. -/
  begins_le : begins pace answers k ≤ pace.timeout.nanoseconds
  /-- The polls before it have not ended the watch. -/
  goesOn : ∀ i < k, watchEnd? what (answers i).value = none
  /-- It ends the watch, or there is no time left for another poll. -/
  last : watchEnd? what (answers k).value ≠ none ∨
    pace.timeout.nanoseconds < begins pace answers (k + 1)

theorem exists_isLast (h : 0 < pace.interval.nanoseconds) (what : String) (answers : Answers) :
    ∃ k, IsLast what pace answers k ∧ k < pace.pollLimit := by
  -- There is no time for a poll at the limit, so that one before it is the last.
  have hlimit : pace.timeout.nanoseconds < begins pace answers pace.pollLimit := by
    have htime := Nat.lt_mul_div_succ pace.timeout.nanoseconds h
    have hbegins := mul_interval_le_begins pace answers pace.pollLimit
    rw [Nat.mul_comm] at hbegins
    exact Nat.lt_of_lt_of_le htime hbegins
  have hex : ∃ k, watchEnd? what (answers k).value ≠ none ∨
      pace.timeout.nanoseconds < begins pace answers (k + 1) :=
    ⟨pace.timeout.nanoseconds / pace.interval.nanoseconds, .inr hlimit⟩
  classical
  refine ⟨Nat.find hex, ⟨?_, ?_, Nat.find_spec hex⟩, ?_⟩
  · cases hk : Nat.find hex with
    | zero => exact Nat.zero_le _
    | succ k =>
      have hmin := Nat.find_min hex (show k < Nat.find hex by omega)
      exact Nat.not_lt.1 fun hlt => hmin (.inr hlt)
  · intro i hi
    have hmin := Nat.find_min hex hi
    exact Decidable.byContradiction fun hend => hmin (.inl hend)
  · exact Nat.lt_succ_of_le (Nat.find_min' hex (.inr hlimit))

/-- The last turn of a watch, and what the watch comes to. -/
inductive LastTurn (what : String) (subject : Watched) (pace : Pace) (answers : Answers) (k : Nat) :
    List (Exchange Status) → Except WatchError Unit → Prop where
  /-- The last poll is still under way when the time is up. -/
  | givenUp (h : pace.timeout.nanoseconds < ends pace answers k) :
      LastTurn what subject pace answers k [subject.poll (answers k)]
        (.error (.timedOut what pace.timeout))
  | ended {result : Except WatchError Unit} (h : ends pace answers k ≤ pace.timeout.nanoseconds)
      (hend : watchEnd? what (answers k).value = some result) :
      LastTurn what subject pace answers k [subject.poll (answers k)] result
  /-- The time is up before there is another poll. -/
  | expired (h : ends pace answers k ≤ pace.timeout.nanoseconds)
      (hend : watchEnd? what (answers k).value = none)
      (hnext : pace.timeout.nanoseconds < begins pace answers (k + 1)) :
      LastTurn what subject pace answers k
        [subject.poll (answers k), pause ⟨pace.timeout.nanoseconds - ends pace answers k⟩]
        (.error (.timedOut what pace.timeout))

theorem lastTurn_of_isLast (h : IsLast what pace answers k) (count : Nat) :
    LastTurn what subject pace answers k (courseFrom what subject pace answers (count + 1) k).1
      (courseFrom what subject pace answers (count + 1) k).2 := by
  rw [courseFrom_succ]
  by_cases hlate : pace.timeout.nanoseconds < ends pace answers k
  · rw [if_pos hlate]
    exact .givenUp hlate
  · rw [if_neg hlate]
    cases hend : watchEnd? what (answers k).value with
    | some result => exact .ended (Nat.not_lt.1 hlate) hend
    | none =>
      have hnext := h.last.resolve_left fun hne => hne hend
      simp only
      rw [if_pos hnext]
      exact .expired (Nat.not_lt.1 hlate) hend hnext

-- The induction is on the turns that are made; each uses up one of the polls that are allowed.
theorem courseFrom_zero (hgoesOn : ∀ i < k, watchEnd? what (answers i).value = none)
    (htime : begins pace answers k ≤ pace.timeout.nanoseconds) (count : Nat) :
    courseFrom what subject pace answers (k + count) 0 =
      (turns subject pace answers k ++ (courseFrom what subject pace answers count k).1,
        (courseFrom what subject pace answers count k).2) := by
  induction k generalizing count with
  | zero => rw [Nat.zero_add, turns, List.nil_append]
  | succ k ih =>
    have hends := ends_le_begins_succ pace answers k
    have hbegins := begins_le_ends pace answers k
    have hturn : courseFrom what subject pace answers (count + 1) k =
        (subject.poll (answers k) ::
            pause ⟨begins pace answers (k + 1) - ends pace answers k⟩ ::
            (courseFrom what subject pace answers count (k + 1)).1,
          (courseFrom what subject pace answers count (k + 1)).2) := by
      rw [courseFrom_succ, if_neg (by omega), hgoesOn k (Nat.lt_succ_self k)]
      exact if_neg (Nat.not_lt.2 htime)
    have hbefore := ih (fun i hi => hgoesOn i (Nat.lt_succ_of_lt hi)) (by omega) (count + 1)
    rw [Nat.succ_add_eq_add_succ, hbefore, hturn, turns, List.append_assoc]
    rfl

/-- A watch makes the turns before its last poll, and then its last turn. -/
theorem course_of_watch (h : 0 < pace.interval.nanoseconds) (what : String) (subject : Watched)
    (answers : Answers) :
    ∃ k lastTurn result, IsLast what pace answers k ∧ k < pace.pollLimit ∧
      LastTurn what subject pace answers k lastTurn result ∧
      course what subject pace answers = (turns subject pace answers k ++ lastTurn, result) := by
  obtain ⟨k, hlast, hk⟩ := exists_isLast h what answers
  obtain ⟨count, hcount⟩ : ∃ count, pace.pollLimit = k + (count + 1) :=
    ⟨pace.pollLimit - k - 1, by omega⟩
  refine ⟨k, _, _, hlast, hk, lastTurn_of_isLast hlast count, ?_⟩
  rw [course_eq_courseFrom h, hcount]
  exact courseFrom_zero hlast.goesOn hlast.begins_le (count + 1)

end AppDeploy.Schedule
