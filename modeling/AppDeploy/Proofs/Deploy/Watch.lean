import AppDeploy.Deploy.Watch
import AppDeploy.Proofs.Plan.Runs

/-!
# Watches, run by run

`Watching` says turn by turn what a watch asks and how it ends, and `runs_watch` that these
are its runs. A watch that ends well has asked for the reports on one thing only, was told of
its success last and of nothing before, and all that within its time (`Seen`).
-/

namespace AppDeploy

/-! ## Time -/

namespace Span

@[simp] theorem nanoseconds_add (a b : Span) :
    (a + b).nanoseconds = a.nanoseconds + b.nanoseconds := rfl

@[simp] theorem nanoseconds_sub (a b : Span) :
    (a - b).nanoseconds = a.nanoseconds - b.nanoseconds := rfl

theorem not_lt {a b : Span} : ¬a < b ↔ b.nanoseconds ≤ a.nanoseconds :=
  Nat.not_lt

end Span

/-- A poll begins when the one before it has ended. -/
theorem Pace.finish_le_next (p : Pace) (start finish : Span) :
    finish.nanoseconds ≤ (p.next start finish).nanoseconds := by
  show finish.nanoseconds ≤ (if start + p.interval ≤ finish then finish else _).nanoseconds
  split
  case isTrue => exact Nat.le_refl _
  case isFalse h => exact Nat.le_of_lt (Nat.not_le.1 h)

namespace Watched

variable {subject : Watched} {pace : Pace} {count : Nat} {start : Span}
  {asked : List (Exchange Status)} {result : Except WatchError Unit}

/-! ## Turns -/

/-- A poll for the reports on something. -/
def poll (subject : Watched) (answer : Timed (Except ApiError StatusReport)) : Exchange Status :=
  ⟨.report subject, answer⟩

/-- Time that passes. -/
def pause (span : Span) : Exchange Status :=
  ⟨.wait span, ()⟩

/-- The polls of a watch from a time on that has passed since it began. -/
inductive Watching (subject : Watched) (pace : Pace) :
    Nat → Span → List (Exchange Status) → Except WatchError Unit → Prop where
  | exhausted (start : Span) :
      Watching subject pace 0 start [] (.error (.timedOut subject.name pace.timeout))
  | late {count : Nat} {start : Span} {answer : Timed (Except ApiError StatusReport)}
      (h : pace.timeout < start + answer.took) :
      Watching subject pace (count + 1) start [subject.poll answer]
        (.error (.timedOut subject.name pace.timeout))
  | ended {count : Nat} {start : Span} {answer : Timed (Except ApiError StatusReport)}
      {result : Except WatchError Unit} (h : ¬pace.timeout < start + answer.took)
      (hend : watchEnd? subject.name answer.value = some result) :
      Watching subject pace (count + 1) start [subject.poll answer] result
  | expired {count : Nat} {start : Span} {answer : Timed (Except ApiError StatusReport)}
      (h : ¬pace.timeout < start + answer.took)
      (hend : watchEnd? subject.name answer.value = none)
      (hnext : pace.timeout < pace.next start (start + answer.took)) :
      Watching subject pace (count + 1) start
        [subject.poll answer, pause (pace.timeout - (start + answer.took))]
        (.error (.timedOut subject.name pace.timeout))
  | again {count : Nat} {start : Span} {answer : Timed (Except ApiError StatusReport)}
      {rest : List (Exchange Status)} {result : Except WatchError Unit}
      (h : ¬pace.timeout < start + answer.took)
      (hend : watchEnd? subject.name answer.value = none)
      (hnext : ¬pace.timeout < pace.next start (start + answer.took))
      (hrest : Watching subject pace count (pace.next start (start + answer.took)) rest result) :
      Watching subject pace (count + 1) start
        (subject.poll answer ::
          pause (pace.next start (start + answer.took) - (start + answer.took)) :: rest) result

/-- The polls of a watch, so many at most. -/
def watchFrom (subject : Watched) (pace : Pace) (count : Nat) (start : Span) :
    Plan Status (Except WatchError Unit) :=
  Plan.watchFrom subject.name pace (fun span => Plan.request (S := Status) (.wait span))
    (Plan.request (S := Status) (.report subject)) count start

theorem runs_watchFrom :
    Plan.Runs (subject.watchFrom pace count start) asked result ↔
      Watching subject pace count start asked result := by
  induction count generalizing start asked with
  | zero =>
    rw [watchFrom, Plan.watchFrom, Plan.runs_done]
    constructor
    · intro hrun
      obtain ⟨rfl, rfl⟩ := hrun
      exact .exhausted start
    · intro h
      cases h
      exact ⟨rfl, rfl⟩
  | succ count ih =>
    rw [watchFrom, Plan.watchFrom, Plan.runs_request_bind]
    constructor
    · intro hrun
      obtain ⟨answer, rest, h, rfl⟩ := hrun
      by_cases hlate : pace.timeout < start + answer.took
      · rw [if_pos hlate] at h
        obtain ⟨rfl, rfl⟩ := Plan.runs_done.1 h
        exact .late hlate
      · rw [if_neg hlate] at h
        cases hend : watchEnd? subject.name answer.value with
        | some result' =>
          simp only [hend] at h
          obtain ⟨rfl, rfl⟩ := Plan.runs_done.1 h
          exact .ended hlate hend
        | none =>
          simp only [hend] at h
          by_cases hnext : pace.timeout < pace.next start (start + answer.took)
          · rw [if_pos hnext] at h
            obtain ⟨-, _, hdone, rfl⟩ := Plan.runs_request_bind.1 h
            obtain ⟨rfl, rfl⟩ := Plan.runs_done.1 hdone
            exact .expired hlate hend hnext
          · rw [if_neg hnext] at h
            obtain ⟨-, rest, hrest, rfl⟩ := Plan.runs_request_bind.1 h
            exact .again hlate hend hnext (ih.1 hrest)
    · intro h
      cases h with
      | @late _ _ answer hlate =>
        refine ⟨answer, [], ?_, rfl⟩
        rw [if_pos hlate]
        exact .done _
      | @ended _ _ answer _ hlate hend =>
        refine ⟨answer, [], ?_, rfl⟩
        rw [if_neg hlate]
        simp only [hend]
        exact .done _
      | @expired _ _ answer hlate hend hnext =>
        refine ⟨answer, [_], ?_, rfl⟩
        rw [if_neg hlate]
        simp only [hend]
        rw [if_pos hnext]
        exact Plan.runs_request_bind.2 ⟨(), [], .done _, rfl⟩
      | @again _ _ answer rest _ hlate hend hnext hrest =>
        refine ⟨answer, _ :: rest, ?_, rfl⟩
        rw [if_neg hlate]
        simp only [hend]
        rw [if_neg hnext]
        exact Plan.runs_request_bind.2 ⟨(), rest, ih.2 hrest, rfl⟩

theorem runs_watch :
    Plan.Runs (subject.watch pace) asked result ↔
      (pace.interval = .zero ∧ asked = [] ∧ result = .error .noInterval) ∨
      (pace.interval ≠ .zero ∧ Watching subject pace pace.pollLimit .zero asked result) := by
  rw [watch, Plan.watch]
  by_cases h : pace.interval = .zero
  · rw [if_pos h, Plan.runs_done]
    simp [h]
  · rw [if_neg h]
    simp only [h, false_and, ne_eq, not_false_eq_true, true_and, false_or]
    exact runs_watchFrom

/-! ## What is seen -/

/-- How long an exchange takes, in nanoseconds. -/
def lasted : Exchange Status → Nat
  | ⟨.report _, answer⟩ => answer.took.nanoseconds
  | ⟨.wait span, _⟩ => span.nanoseconds

/-- How long some exchanges take, one after the other. -/
def elapsed : List (Exchange Status) → Nat
  | [] => 0
  | x :: rest => lasted x + elapsed rest

/-- A turn of a watch that has not seen the end: a report on what is under way, or a pause. -/
inductive Waits (subject : Watched) : Exchange Status → Prop where
  | report {report : StatusReport} {status : String} (h : report.progress = .inFlight status)
      (took : Span) : Waits subject (subject.poll ⟨.ok report, took⟩)
  | pause (span : Span) : Waits subject (pause span)

/-- A turn of a watch that does not fail: there is a report, or a pause. -/
inductive Heard (subject : Watched) : Exchange Status → Prop where
  | report (report : StatusReport) (took : Span) : Heard subject (subject.poll ⟨.ok report, took⟩)
  | pause (span : Span) : Heard subject (pause span)

/-- Some exchanges come to the success of something: all of them are about it, the last is
the report of its success, and all those before it found it under way. -/
inductive Succeeds (subject : Watched) : List (Exchange Status) → Prop where
  | intro {waiting : List (Exchange Status)} {report : StatusReport} (took : Span)
      (hwaiting : ∀ x ∈ waiting, Waits subject x) (h : report.progress = .succeeded) :
      Succeeds subject (waiting ++ [subject.poll ⟨.ok report, took⟩])

/-- The success of something has been seen in time. -/
structure Seen (subject : Watched) (pace : Pace) (asked : List (Exchange Status)) : Prop where
  succeeds : Succeeds subject asked
  inTime : elapsed asked ≤ pace.timeout.nanoseconds

theorem heard_of_succeeds (h : Succeeds subject asked) : ∀ x ∈ asked, Heard subject x := by
  cases h with
  | @intro waiting report took hwaiting =>
    intro x hx
    rcases List.mem_append.1 hx with hx | hx
    · cases hwaiting x hx with
      | report _ took => exact .report _ took
      | pause span => exact .pause span
    · obtain rfl := List.mem_singleton.1 hx
      exact .report report took

theorem succeeds_poll {report : StatusReport} (took : Span) (h : report.progress = .succeeded) :
    Succeeds subject [subject.poll ⟨.ok report, took⟩] := by
  show Succeeds subject ([] ++ [subject.poll ⟨.ok report, took⟩])
  exact .intro took (List.forall_mem_nil _) h

theorem succeeds_cons {x : Exchange Status} (hx : Waits subject x) (h : Succeeds subject asked) :
    Succeeds subject (x :: asked) := by
  cases h with
  | intro took hwaiting hreport =>
    exact .intro took (List.forall_mem_cons.2 ⟨hx, hwaiting⟩) hreport

/-- A watch ends well with a report of success only. -/
theorem watchEnd?_ok {what : String} {answer : Except ApiError StatusReport}
    (h : watchEnd? what answer = some (.ok ())) :
    ∃ report, answer = .ok report ∧ report.progress = .succeeded := by
  cases answer with
  | error e => cases h
  | ok report =>
    cases hprogress : report.progress with
    | inFlight status => simp [watchEnd?, hprogress] at h
    | succeeded => exact ⟨report, rfl, hprogress⟩
    | failed reason => simp [watchEnd?, hprogress] at h

/-- A watch goes on only while there is something under way. -/
theorem watchEnd?_none {what : String} {answer : Except ApiError StatusReport}
    (h : watchEnd? what answer = none) :
    ∃ report status, answer = .ok report ∧ report.progress = .inFlight status := by
  cases answer with
  | error e => cases h
  | ok report =>
    cases hprogress : report.progress with
    | inFlight status => exact ⟨report, status, rfl, hprogress⟩
    | succeeded => simp [watchEnd?, hprogress] at h
    | failed reason => simp [watchEnd?, hprogress] at h

-- The induction is on the turns: each one keeps that the time which has passed before it and
-- the exchanges from it on fit into the time of the watch together.
theorem seen_of_watching (h : Watching subject pace count start asked (.ok ())) :
    Succeeds subject asked ∧ start.nanoseconds + elapsed asked ≤ pace.timeout.nanoseconds := by
  generalize hresult : Except.ok () = result at h
  induction h with
  | exhausted => cases hresult
  | late => cases hresult
  | expired => cases hresult
  | @ended _ start answer _ hlate hend =>
    subst hresult
    obtain ⟨report, hreport, hprogress⟩ := watchEnd?_ok hend
    obtain ⟨_, took⟩ := answer
    cases hreport
    have htime := Span.not_lt.1 hlate
    refine ⟨succeeds_poll took hprogress, ?_⟩
    simp [elapsed, lasted, poll] at htime ⊢
    omega
  | @again _ start answer rest _ hlate hend hnext _ ih =>
    obtain ⟨report, status, hreport, hprogress⟩ := watchEnd?_none hend
    obtain ⟨_, took⟩ := answer
    cases hreport
    obtain ⟨hsucceeds, htime⟩ := ih hresult
    have hfinish := pace.finish_le_next start (start + took)
    refine ⟨succeeds_cons (.report hprogress took) (succeeds_cons (.pause _) hsucceeds), ?_⟩
    simp [elapsed, lasted, poll, pause] at htime hfinish ⊢
    omega

theorem seen_of_watch (h : Plan.Runs (subject.watch pace) asked (.ok ())) :
    Seen subject pace asked := by
  rcases runs_watch.1 h with ⟨-, -, hresult⟩ | ⟨-, hwatching⟩
  · cases hresult
  · obtain ⟨hsucceeds, htime⟩ := seen_of_watching hwatching
    refine ⟨hsucceeds, ?_⟩
    simpa [Span.zero] using htime

end Watched

end AppDeploy
