import AppDeploy.Proofs.Deploy.Schedule

/-!
# Watches in time

A watch comes to what the first answer says that tells the end of what is watched, if there is
such an answer by the time that the watch has, and otherwise it is timed out
(`watch_ends_with_first_terminal`). Meanwhile it keeps its pace, however long its polls take
(`watch_keeps_pace`).
-/

namespace AppDeploy

namespace Watched

/-! ## The times of polls -/

/-- When each poll among some exchanges begins and ends, if these are made one after the other
from a time on. -/
def pollTimes : Nat → List (Exchange Status) → List (Nat × Nat)
  | _, [] => []
  | now, ⟨.report _, answer⟩ :: rest =>
    (now, now + answer.took.nanoseconds) :: pollTimes (now + answer.took.nanoseconds) rest
  | now, ⟨.wait span, _⟩ :: rest => pollTimes (now + span.nanoseconds) rest

theorem elapsed_append (before after : List (Exchange Status)) :
    elapsed (before ++ after) = elapsed before + elapsed after := by
  induction before with
  | nil => rw [List.nil_append, elapsed, Nat.zero_add]
  | cons x rest ih => rw [List.cons_append, elapsed, elapsed, ih, Nat.add_assoc]

theorem pollTimes_append (now : Nat) (before after : List (Exchange Status)) :
    pollTimes now (before ++ after) =
      pollTimes now before ++ pollTimes (now + elapsed before) after := by
  induction before generalizing now with
  | nil => rfl
  | cons x rest ih =>
    obtain ⟨q, answer⟩ := x
    cases q with
    | report subject =>
      simp only [List.cons_append, pollTimes, ih, elapsed, lasted, Nat.add_assoc]
    | wait span => simp only [List.cons_append, pollTimes, ih, elapsed, lasted, Nat.add_assoc]

/-! ## Answers that end a watch -/

/-- An answer that ends a watch, and what the watch comes to. -/
inductive Terminal (what : String) :
    Except ApiError StatusReport → Except WatchError Unit → Prop where
  | succeeded {report : StatusReport} (h : report.progress = .succeeded) :
      Terminal what (.ok report) (.ok ())
  /-- A failure is told with its message, or else with the status as it was reported. -/
  | failed {report : StatusReport} {reason : String} (h : report.progress = .failed reason) :
      Terminal what (.ok report) (.error (.failed what (report.message.getD report.status)))
  | unknown (e : ApiError) : Terminal what (.error e) (.error (.api what e))

theorem reason_of_progress {report : StatusReport} {reason : String}
    (h : report.progress = .failed reason) : reason = report.message.getD report.status := by
  rw [StatusReport.progress] at h
  split at h
  · cases h
  · split at h
    · cases h
      rfl
    · cases h

theorem watchEnd?_eq_some_iff {what : String} {answer : Except ApiError StatusReport}
    {result : Except WatchError Unit} :
    watchEnd? what answer = some result ↔ Terminal what answer result := by
  constructor
  · intro h
    cases answer with
    | error e =>
      cases h
      exact .unknown e
    | ok report =>
      cases hprogress : report.progress with
      | inFlight status => simp [watchEnd?, hprogress] at h
      | succeeded =>
        simp only [watchEnd?, hprogress, Option.some.injEq] at h
        subst h
        exact .succeeded hprogress
      | failed reason =>
        simp only [watchEnd?, hprogress, Option.some.injEq] at h
        subst h
        rw [reason_of_progress hprogress]
        exact .failed hprogress
  · intro h
    cases h with
    | succeeded h => simp only [watchEnd?, h]
    | failed h => simp only [watchEnd?, h, reason_of_progress h]
    | unknown e => rfl

theorem watchEnd?_eq_none_iff {what : String} {answer : Except ApiError StatusReport} :
    watchEnd? what answer = none ↔ ∀ result, ¬Terminal what answer result := by
  simp only [← watchEnd?_eq_some_iff, Option.eq_none_iff_forall_ne_some, ne_eq]

end Watched

namespace Schedule

open Watched (elapsed lasted pause pollTimes Terminal)

variable {what : String} {subject : Watched} {pace : Pace} {answers : Answers} {k : Nat}
  {lastTurn : List (Exchange Status)} {result : Except WatchError Unit}

/-! ## The times of a watch -/

/-- When a poll begins and ends. -/
def times (pace : Pace) (answers : Answers) (i : Nat) : Nat × Nat :=
  (begins pace answers i, ends pace answers i)

theorem elapsed_turns (k : Nat) :
    elapsed (turns subject pace answers k) = begins pace answers k := by
  induction k with
  | zero => rfl
  | succ k ih =>
    have hnext := ends_le_begins_succ pace answers k
    rw [turns, Watched.elapsed_append, ih]
    simp only [elapsed, lasted, Watched.poll, pause]
    rw [ends] at hnext ⊢
    omega

theorem elapsed_turns_poll (k : Nat) :
    elapsed (turns subject pace answers k ++ [subject.poll (answers k)]) = ends pace answers k := by
  rw [Watched.elapsed_append, elapsed_turns]
  rfl

theorem pollTimes_turns (k : Nat) :
    pollTimes 0 (turns subject pace answers k) = (List.range k).map (times pace answers) := by
  induction k with
  | zero => rfl
  | succ k ih =>
    rw [turns, Watched.pollTimes_append, ih, Nat.zero_add, elapsed_turns, List.range_succ,
      List.map_append]
    rfl

theorem pollTimes_lastTurn (h : LastTurn what subject pace answers k lastTurn result) :
    pollTimes (begins pace answers k) lastTurn = [times pace answers k] := by
  cases h with
  | givenUp => rfl
  | ended => rfl
  | expired => rfl

/-- The polls of a watch are made when the schedule says so, up to the last one. -/
theorem pollTimes_eq (h : LastTurn what subject pace answers k lastTurn result) :
    pollTimes 0 (turns subject pace answers k ++ lastTurn) =
      (List.range (k + 1)).map (times pace answers) := by
  rw [Watched.pollTimes_append, pollTimes_turns, Nat.zero_add, elapsed_turns,
    pollTimes_lastTurn h, List.range_succ, List.map_append]
  rfl

/-! ## The first answer that ends a watch -/

/-- The first answer that ends a watch, and what the watch then comes to. -/
structure FirstTerminal (what : String) (answers : Answers) (n : Nat)
    (result : Except WatchError Unit) : Prop where
  terminal : Terminal what (answers n).value result
  first : ∀ i < n, ∀ other, ¬Terminal what (answers i).value other

theorem eq_of_firstTerminal {n : Nat} (hfirst : FirstTerminal what answers n result)
    (htime : ends pace answers n ≤ pace.timeout.nanoseconds)
    (hlast : IsLast what pace answers k) : k = n := by
  refine Nat.le_antisymm (Nat.not_lt.1 fun hlt => ?_) (Nat.not_lt.1 fun hlt => ?_)
  · have hnone := hlast.goesOn n hlt
    exact Watched.watchEnd?_eq_none_iff.1 hnone _ hfirst.terminal
  · -- A poll before it does not end the watch, and leaves time for the next one.
    have hnone := Watched.watchEnd?_eq_none_iff.2 (hfirst.first k hlt)
    have hnext := hlast.last.resolve_left fun hne => hne hnone
    have hmono : begins pace answers (k + 1) ≤ begins pace answers n := begins_mono pace answers hlt
    have hends := begins_le_ends pace answers n
    omega

theorem firstTerminal_of_isLast (hlast : IsLast what pace answers k)
    (hend : watchEnd? what (answers k).value = some result) :
    FirstTerminal what answers k result where
  terminal := Watched.watchEnd?_eq_some_iff.1 hend
  first i hi := Watched.watchEnd?_eq_none_iff.1 (hlast.goesOn i hi)

/-- A watch comes to what the first answer says that ends it, if that answer is there in time, and
makes no poll after it. Otherwise it is timed out: reports on what is under way never end it. -/
theorem watch_ends_with_first_terminal (what : String) (subject : Watched)
    (hinterval : 0 < pace.interval.nanoseconds) (answers : Answers) :
    (∀ n result, FirstTerminal what answers n result →
      ends pace answers n ≤ pace.timeout.nanoseconds →
      (course what subject pace answers).2 = result ∧
        pollTimes 0 (course what subject pace answers).1 =
          (List.range (n + 1)).map (times pace answers)) ∧
    ((∀ n result, FirstTerminal what answers n result →
        pace.timeout.nanoseconds < ends pace answers n) →
      (course what subject pace answers).2 = .error (.timedOut what pace.timeout)) := by
  obtain ⟨k, lastTurn, outcome, hlast, -, hturn, hcourse⟩ :=
    course_of_watch hinterval what subject answers
  rw [hcourse]
  constructor
  · intro n result hfirst htime
    obtain rfl := eq_of_firstTerminal hfirst htime hlast
    refine ⟨?_, pollTimes_eq hturn⟩
    have hend := Watched.watchEnd?_eq_some_iff.2 hfirst.terminal
    cases hturn with
    | givenUp h => exact absurd htime (Nat.not_le.2 h)
    | ended _ hend' => exact Option.some.inj (hend'.symm.trans hend)
    | expired _ hnone => cases hnone.symm.trans hend
  · intro hlate
    cases hturn with
    | givenUp => rfl
    | ended htime hend =>
      have h := hlate k _ (firstTerminal_of_isLast hlast hend)
      exact absurd htime (Nat.not_le.2 h)
    | expired => rfl

namespace Example

def rollout : Watched := .rollout ⟨"queue", by decide +kernel⟩ ⟨"ro_1"⟩

def steadyPace : Pace := ⟨.ofSeconds 2, .ofSeconds 62⟩

/-- The first poll takes longer than the interval, and the last one ends just when the time is
up. -/
def slowAnswers : Answers
  | 0 => ⟨.ok ⟨"running", none⟩, .ofSeconds 3⟩
  | 1 => ⟨.ok ⟨"Waiting for capacity", some "no machines"⟩, .ofSeconds 1⟩
  | _ => ⟨.ok ⟨"Succeeded", none⟩, .ofSeconds 57⟩

/-- Nothing ever ends. -/
def endlessAnswers : Answers := fun _ => ⟨.ok ⟨"running", none⟩, .ofSeconds 1⟩

theorem firstTerminal_slowAnswers : FirstTerminal "rollout" slowAnswers 2 (.ok ()) where
  terminal := .succeeded (by decide)
  first i hi := by
    rw [← Watched.watchEnd?_eq_none_iff]
    match i, hi with
    | 0, _ => decide
    | 1, _ => decide

theorem not_firstTerminal_endlessAnswers (n : Nat) (result : Except WatchError Unit) :
    ¬FirstTerminal "rollout" endlessAnswers n result := by
  intro h
  have hnone : watchEnd? "rollout" (endlessAnswers n).value = none := by
    show watchEnd? "rollout" (.ok ⟨"running", none⟩) = none
    decide
  exact Watched.watchEnd?_eq_none_iff.1 hnone _ h.terminal

end Example

theorem example_ends_with_first_terminal :
    (course "rollout" Example.rollout Example.steadyPace Example.slowAnswers).2 = .ok () ∧
    pollTimes 0 (course "rollout" Example.rollout Example.steadyPace Example.slowAnswers).1 =
      [(0, 3000000000), (3000000000, 4000000000), (5000000000, 62000000000)] ∧
    (course "rollout" Example.rollout Example.steadyPace Example.endlessAnswers).2 =
      .error (.timedOut "rollout" (.ofSeconds 62)) := by
  have hpace : 0 < Example.steadyPace.interval.nanoseconds := by decide
  have hslow := (watch_ends_with_first_terminal "rollout" Example.rollout hpace
    Example.slowAnswers).1 2 (.ok ()) Example.firstTerminal_slowAnswers (by decide)
  refine ⟨hslow.1, hslow.2, ?_⟩
  refine (watch_ends_with_first_terminal "rollout" Example.rollout hpace
    Example.endlessAnswers).2 ?_
  intro n result h
  exact absurd h (Example.not_firstTerminal_endlessAnswers n result)

/-! ## The pace of a watch -/

/-- What a watch asked for is over when its time is up. -/
inductive Returned (what : String) (subject : Watched) (timeout : Span) :
    List (Exchange Status) → Except WatchError Unit → Prop where
  | answered {asked : List (Exchange Status)} {result : Except WatchError Unit}
      (h : elapsed asked ≤ timeout.nanoseconds) : Returned what subject timeout asked result
  /-- The last poll was still under way at that time, and was given up then. -/
  | givenUp {before : List (Exchange Status)} {answer : Timed (Except ApiError StatusReport)}
      (hbefore : elapsed before ≤ timeout.nanoseconds)
      (h : timeout.nanoseconds < elapsed before + answer.took.nanoseconds) :
      Returned what subject timeout (before ++ [subject.poll answer])
        (.error (.timedOut what timeout))

/-- A watch polls steadily, and no longer than it may. -/
structure KeepsPace (what : String) (subject : Watched) (pace : Pace)
    (asked : List (Exchange Status)) (result : Except WatchError Unit) : Prop where
  /-- The first poll begins at once. -/
  atOnce : (pollTimes 0 asked).head?.map Prod.fst = some 0
  /-- A poll begins when the one before it is over, and an interval has passed since that one
  began. -/
  apart : (pollTimes 0 asked).IsChain fun before poll =>
    before.2 ≤ poll.1 ∧ before.1 + pace.interval.nanoseconds ≤ poll.1
  /-- No poll begins after the time is up. -/
  inTime : ∀ poll ∈ pollTimes 0 asked, poll.1 ≤ pace.timeout.nanoseconds
  /-- Nothing is asked after an answer that ends the watch. -/
  untilEnd : ∀ seen answer, (⟨.report seen, answer⟩ : Exchange Status) ∈ asked.dropLast →
    ∀ other, ¬Terminal what answer.value other
  bounded : (pollTimes 0 asked).length ≤
    pace.timeout.nanoseconds / pace.interval.nanoseconds + 1
  returned : Returned what subject pace.timeout asked result
  /-- The watch is not timed out before the time is up. -/
  patient : result = .error (.timedOut what pace.timeout) →
    pace.timeout.nanoseconds ≤ elapsed asked

theorem not_terminal_of_mem_turns (hlast : IsLast what pace answers k) {seen : Watched}
    {answer : Timed (Except ApiError StatusReport)}
    (h : (⟨.report seen, answer⟩ : Exchange Status) ∈ turns subject pace answers k) :
    ∀ other, ¬Terminal what answer.value other := by
  have hgoesOn := hlast.goesOn
  clear hlast
  induction k with
  | zero => cases h
  | succ k ih =>
    rw [turns] at h
    rcases List.mem_append.1 h with h | h
    · exact ih h fun i hi => hgoesOn i (Nat.lt_succ_of_lt hi)
    · simp only [Watched.poll, pause, List.mem_cons, List.not_mem_nil, or_false] at h
      rcases h with h | h
      · cases h
        exact Watched.watchEnd?_eq_none_iff.1 (hgoesOn k (Nat.lt_succ_self k))
      · cases h

theorem not_terminal_of_mem_dropLast (hlast : IsLast what pace answers k)
    (h : LastTurn what subject pace answers k lastTurn result) {seen : Watched}
    {answer : Timed (Except ApiError StatusReport)}
    (hmem : (⟨.report seen, answer⟩ : Exchange Status) ∈
      (turns subject pace answers k ++ lastTurn).dropLast) :
    ∀ other, ¬Terminal what answer.value other := by
  cases h with
  | givenUp =>
    rw [List.dropLast_concat] at hmem
    exact not_terminal_of_mem_turns hlast hmem
  | ended =>
    rw [List.dropLast_concat] at hmem
    exact not_terminal_of_mem_turns hlast hmem
  | expired _ hend =>
    rw [List.dropLast_append_of_ne_nil (by simp)] at hmem
    rcases List.mem_append.1 hmem with hmem | hmem
    · exact not_terminal_of_mem_turns hlast hmem
    · cases List.mem_singleton.1 hmem
      exact Watched.watchEnd?_eq_none_iff.1 hend

theorem elapsed_of_expired (h : ends pace answers k ≤ pace.timeout.nanoseconds) :
    elapsed (turns subject pace answers k ++
      [subject.poll (answers k), pause ⟨pace.timeout.nanoseconds - ends pace answers k⟩]) =
      pace.timeout.nanoseconds := by
  rw [List.append_cons, Watched.elapsed_append, elapsed_turns_poll]
  simp only [elapsed, lasted, pause]
  omega

theorem returned_of_lastTurn (hlast : IsLast what pace answers k)
    (h : LastTurn what subject pace answers k lastTurn result) :
    Returned what subject pace.timeout (turns subject pace answers k ++ lastTurn) result := by
  cases h with
  | givenUp h =>
    refine .givenUp ?_ ?_
    · rw [elapsed_turns]
      exact hlast.begins_le
    · rw [elapsed_turns]
      exact h
  | ended h => exact .answered ((elapsed_turns_poll k).trans_le h)
  | expired h => exact .answered (elapsed_of_expired h).le

/-- No answer says that a watch is timed out. -/
theorem timeout_le_elapsed (h : LastTurn what subject pace answers k lastTurn result)
    (hresult : result = .error (.timedOut what pace.timeout)) :
    pace.timeout.nanoseconds ≤ elapsed (turns subject pace answers k ++ lastTurn) := by
  cases h with
  | givenUp h => exact h.le.trans_eq (elapsed_turns_poll k).symm
  | ended _ hend =>
    subst hresult
    generalize (answers k).value = answer at hend
    cases Watched.watchEnd?_eq_some_iff.1 hend
  | expired h => exact (elapsed_of_expired h).ge

/-- A watch keeps its pace, however long its polls take. -/
theorem watch_keeps_pace (what : String) (subject : Watched)
    (hinterval : 0 < pace.interval.nanoseconds) (answers : Answers) :
    KeepsPace what subject pace (course what subject pace answers).1
      (course what subject pace answers).2 := by
  obtain ⟨k, lastTurn, outcome, hlast, hk, hturn, hcourse⟩ :=
    course_of_watch hinterval what subject answers
  rw [hcourse]
  refine ⟨?_, ?_, ?_, ?_, ?_, ?_, ?_⟩
  · rw [pollTimes_eq hturn, List.range_succ_eq_map]
    rfl
  · rw [pollTimes_eq hturn, List.isChain_map, List.isChain_range_succ]
    intro i _
    exact ⟨ends_le_begins_succ pace answers i, begins_add_interval_le pace answers i⟩
  · rw [pollTimes_eq hturn, List.forall_mem_map]
    intro i hi
    have hle : i ≤ k := Nat.lt_succ_iff.1 (List.mem_range.1 hi)
    exact (begins_mono pace answers hle).trans hlast.begins_le
  · intro seen answer hmem
    exact not_terminal_of_mem_dropLast hlast hturn hmem
  · rw [pollTimes_eq hturn, List.length_map, List.length_range]
    exact hk
  · exact returned_of_lastTurn hlast hturn
  · exact timeout_le_elapsed hturn

theorem example_keeps_pace :
    KeepsPace "rollout" Example.rollout Example.steadyPace
      (course "rollout" Example.rollout Example.steadyPace Example.slowAnswers).1
      (course "rollout" Example.rollout Example.steadyPace Example.slowAnswers).2 :=
  watch_keeps_pace "rollout" Example.rollout (by decide) Example.slowAnswers

end Schedule

end AppDeploy
