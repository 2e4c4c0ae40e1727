import AppDeploy.Proofs.ControlPlane.Client
import AppDeploy.Proofs.Except
import AppDeploy.Proofs.Time.Zero

/-!
# Settings to watch with

Settings are loaded whatever interval they name between polls, even none at all. That happens
exactly if the variable for it is written without any digit but zeros, and then no watch can
begin; with every other interval there is a pace to watch at.

A watch that cannot begin ends with `WatchError.noInterval`. This is no error of the program, which
stops on the spot when its timer is given a period of zero.
-/

namespace AppDeploy

namespace Watched

variable {subject : Watched} {pace : Pace} {count : Nat} {start : Span}
  {asked : List (Exchange Status)} {result : Except WatchError Unit}

/-- A watch that has begun does not fail for want of an interval. -/
theorem ne_noInterval_of_watching (h : Watching subject pace count start asked result) :
    result ≠ .error .noInterval := by
  induction h with
  | exhausted => simp
  | late => simp
  | expired => simp
  | again _ _ _ _ ih => exact ih
  | @ended _ _ answer result _ hend =>
    rintro rfl
    cases hanswer : answer.value with
    | error e => simp [hanswer, watchEnd?] at hend
    | ok report =>
      cases hprogress : report.progress <;> simp [hanswer, watchEnd?, hprogress] at hend

theorem eq_noInterval_iff (h : Plan.Runs (subject.watch pace) asked result) :
    (result = .error .noInterval ↔ pace.interval = .zero) ∧
      (pace.interval = .zero → asked = []) := by
  rcases runs_watch.1 h with ⟨hinterval, rfl, rfl⟩ | ⟨hinterval, hwatching⟩
  · simp [hinterval]
  · simp [hinterval, ne_noInterval_of_watching hwatching]

end Watched

namespace Settings

variable {env : Environment} {s : Settings}

/-- A span of time in a variable is none at all if that is what its text says. -/
theorem spanOf_eq_zero_iff {name : String} {absent d : Span} (h : spanOf env name absent = .ok d)
    (habsent : absent ≠ .zero) :
    d = .zero ↔
      ∃ text, env.filled? name = some text ∧ ∀ c ∈ text.toList, c.isDigit = true → c = '0' := by
  rw [spanOf] at h
  cases hfilled : env.filled? name with
  | none =>
    simp only [hfilled] at h
    cases h
    simp [habsent]
  | some text =>
    simp only [hfilled] at h
    cases hread : Span.ofText text with
    | error e =>
      rw [hread] at h
      cases h
    | ok read =>
      rw [hread] at h
      cases h
      rw [Span.ofText_eq_zero_iff hread]
      simp

theorem spanOf_of_ofEnvironment (h : ofEnvironment env = .ok s) :
    spanOf env "HANGAR_POLL_INTERVAL" defaultPollInterval = .ok s.pollInterval := by
  rw [ofEnvironment] at h
  cases htoken : env.filled? "HANGAR_ACCESS_TOKEN" with
  | none =>
    simp only [htoken] at h
    cases h
  | some accessToken =>
    simp only [htoken] at h
    obtain ⟨pollInterval, hpoll, h⟩ := bind_eq_ok.1 h
    obtain ⟨watchTimeout, -, h⟩ := bind_eq_ok.1 h
    cases h
    exact hpoll

theorem pace_of_ofSettings {c : ControlPlane} (h : ControlPlane.ofSettings s = .ok c) :
    c.pace = ⟨s.pollInterval, s.watchTimeout⟩ := by
  rw [ControlPlane.ofSettings] at h
  split at h
  · cases h
    rfl
  · cases h

/-- The settings that are loaded have an interval between polls, unless it is written with zeros
only. Every watch that is set about with them fails for want of an interval if they have none,
before anything is asked, and otherwise it does not. -/
theorem interval_of_ofEnvironment (h : ofEnvironment env = .ok s) :
    (s.pollInterval = .zero ↔ ∃ text, env.filled? "HANGAR_POLL_INTERVAL" = some text ∧
      ∀ c ∈ text.toList, c.isDigit = true → c = '0') ∧
    ∀ c, ControlPlane.ofSettings s = .ok c → ∀ (subject : Watched) trace result,
      Plan.Runs (c.watch subject) trace result →
      (result = .error .noInterval ↔ s.pollInterval = .zero) ∧
        (s.pollInterval = .zero → trace = []) := by
  refine ⟨spanOf_eq_zero_iff (spanOf_of_ofEnvironment h) (by decide), ?_⟩
  intro c hc subject trace result hrun
  obtain ⟨asked, hwatch, hcarried⟩ := Plan.runs_through.1 hrun
  rw [pace_of_ofSettings hc] at hwatch
  obtain ⟨hresult, hasked⟩ := Watched.eq_noInterval_iff hwatch
  refine ⟨hresult, ?_⟩
  intro hzero
  obtain rfl := hasked hzero
  cases hcarried
  rfl

namespace Example

/-- Settings without an interval between polls. -/
def restless : Settings where
  apiUrl := defaultApiUrl
  accessToken := "token"
  registry := defaultRegistry
  remoteBuilder := none
  pollInterval := .zero
  watchTimeout := defaultWatchTimeout

/-- The environment that has them. -/
def restlessEnvironment : Environment :=
  .ofList [("HANGAR_ACCESS_TOKEN", "token"), ("HANGAR_POLL_INTERVAL", "0s")]

theorem ofEnvironment_restless : ofEnvironment restlessEnvironment = .ok restless := by
  decide

end Example

theorem example_interval :
    (Example.restless.pollInterval = .zero ↔ ∃ text,
      Example.restlessEnvironment.filled? "HANGAR_POLL_INTERVAL" = some text ∧
      ∀ c ∈ text.toList, c.isDigit = true → c = '0') ∧
    ∀ c, ControlPlane.ofSettings Example.restless = .ok c → ∀ (subject : Watched) trace result,
      Plan.Runs (c.watch subject) trace result →
      (result = .error .noInterval ↔ Example.restless.pollInterval = .zero) ∧
        (Example.restless.pollInterval = .zero → trace = []) :=
  interval_of_ofEnvironment Example.ofEnvironment_restless

/-- Settings that are loaded can lack an interval. -/
theorem interval_may_be_lacking :
    ¬∀ env s, ofEnvironment env = .ok s → s.pollInterval ≠ .zero := by
  intro hall
  exact hall _ _ Example.ofEnvironment_restless rfl

end Settings

end AppDeploy
