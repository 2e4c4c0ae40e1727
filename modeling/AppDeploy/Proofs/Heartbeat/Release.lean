import AppDeploy.Proofs.Heartbeat.History

/-!
# Guards release exactly once

At every moment of a history the guards and tasks are those that the history tells: the guard that
is held has the hook that was registered last on it (`guard_after`), and a task is there until it is
over (`task_after`). So a guard runs one hook at its drop, the last one, and what becomes of a task
is up to its own guard and itself (`guards_release_once`).
-/

namespace AppDeploy.Heartbeats

open Heartbeat

/-- Guards run their hooks when they are dropped and at no other time, and end their own tasks. -/
structure ReleaseOnce (ops : History) : Prop where
  /-- At its drop a guard runs the hook that was registered last on it, and runs it once. -/
  released : ∀ id g d k name, Drops ops id g d → LastHook ops id g d k name →
    hooksAt ops d = [name]
  /-- A guard without a hook runs none. -/
  bare : ∀ id g d, Drops ops id g d → (∀ k name, ¬LastHook ops id g d k name) →
    hooksAt ops d = []
  /-- Where no guard is dropped, no hook is run. -/
  otherwise : ∀ d, (∀ id g, ¬Drops ops id g d) → hooksAt ops d = []
  /-- A hook, told by a name that no other has, is not run twice. -/
  once : ∀ k name, SoleOfName ops k name → ∀ d d', name ∈ hooksAt ops d → name ∈ hooksAt ops d' →
    d = d'
  /-- A hook that was replaced is never run. -/
  replaced : ∀ id g k k' name other, Registers ops id g k name → Registers ops id g k' other →
    k < k' → SoleOfName ops k name → ∀ d, name ∉ hooksAt ops d
  /-- A task runs until it is over. -/
  runs : ∀ id endless later g n, ops g = .holdTask id endless later → g < n →
    (Runs ops g n ↔ ¬Over ops id endless later g n)
  /-- A task ends in a turn, because its own guard was dropped or because its own time has come. -/
  apart : ∀ id endless later g n, ops g = .holdTask id endless later → g < n →
    Runs ops g n → ¬Runs ops g (n + 1) →
    ops n = .turn ∧ (Dropped ops id g n ∨ (endless = false ∧ turnsSince ops g n = later))
  /-- The task of a guard that was dropped has ended after the next turn. -/
  stopped : ∀ id endless later g d t n, ops g = .holdTask id endless later → Drops ops id g d →
    d < t → ops t = .turn → t < n → ¬Runs ops g n
  /-- A guard that is held is active as long as its task runs. -/
  active : ∀ id g n, Holds ops id g n → ∃ guard, (after ops n).guards.get? id = some guard ∧
    ((after ops n).isActive guard = true ↔ (ops g).starts = true ∧ Runs ops g n)
  /-- The endless task of a guard that is held stays active. -/
  stays : ∀ id later g n, ops g = .holdTask id true later → Holds ops id g n →
    ∃ guard, (after ops n).guards.get? id = some guard ∧ (after ops n).isActive guard = true
  /-- The end of a task is told when it ends. -/
  told : ∀ id n, .taskEnded id ∈ eventsAt ops n ↔
    ∃ endless later g, ops g = .holdTask id endless later ∧ g < n ∧
      Runs ops g n ∧ ¬Runs ops g (n + 1)

variable {ops : History} {id name other : String} {g g' d d' k k' n m later : Nat} {endless : Bool}

/-! ## Guards -/

/-- The guard that is held has its own task and the hook that was registered last on it. -/
theorem guard_after (h : Holds ops id g n) : ∃ guard, (after ops n).guards.get? id = some guard ∧
    guard.task = (if (ops g).starts then some (after ops g).nextTask else none) ∧
      ∀ name, guard.hook = some name ↔ ∃ k, LastHook ops id g n k name := by
  induction n with
  | zero => exact absurd h.before (Nat.not_lt_zero g)
  | succ n ih =>
    rcases holds_succ.1 h with ⟨rfl, hmade⟩ | ⟨hheld, hfreed⟩
    · refine ⟨_, get?_apply_of_made hmade, rfl, fun name => ?_⟩
      refine iff_of_false nofun fun ⟨k, hk⟩ => ?_
      exact absurd hk.before (Nat.not_lt.2 hk.later)
    · obtain ⟨guard, hguard, htask, hhook⟩ := ih hheld
      by_cases hset : ∃ name, ops n = .setHook id name
      · obtain ⟨name, hname⟩ := hset
        refine ⟨{ guard with hook := some name }, ?_, htask, fun other => ?_⟩
        · show ((after ops n).apply (ops n)).1.guards.get? id = _
          rw [hname]
          exact (get?_setHook ..).trans (by rw [if_pos rfl, hguard]; rfl)
        · simp [lastHook_succ, hheld.before, hname]
      · rw [not_exists] at hset
        refine ⟨guard, (get?_apply hfreed hset).trans hguard, htask, fun name => ?_⟩
        simp [lastHook_succ, hset, hhook]

/-- What is held was made at a place. -/
theorem exists_holds {guard : Guard} (h : (after ops n).guards.get? id = some guard) :
    ∃ g, Holds ops id g n := by
  induction n generalizing guard with
  | zero => cases h
  | succ n ih =>
    by_cases hmade : (ops n).made? = some id
    · exact ⟨n, holds_succ.2 (.inl ⟨rfl, hmade⟩)⟩
    by_cases hfreed : (ops n).freed? = some id
    · cases h.symm.trans (get?_apply_of_freed hfreed hmade)
    have hbefore : (after ops n).guards.get? id ≠ none := by
      intro hnone
      by_cases hset : ∃ name, ops n = .setHook id name
      · obtain ⟨name, hname⟩ := hset
        rw [after, hname] at h
        have hmap := h.symm.trans (get?_setHook (after ops n) id id name)
        rw [if_pos rfl, hnone] at hmap
        cases hmap
      · rw [not_exists] at hset
        cases h.symm.trans ((get?_apply hfreed hset).trans hnone)
    obtain ⟨old, hold⟩ := Option.ne_none_iff_exists'.1 hbefore
    obtain ⟨g, hg⟩ := ih hold
    exact ⟨g, holds_succ.2 (.inr ⟨hg, hfreed⟩)⟩

/-! ## Hooks -/

theorem hooksAt_eq (ops : History) (n : Nat) :
    hooksAt ops n = ((ops n).freed?.bind (after ops n).hookOf?).toList :=
  hooks_apply ..

theorem hooksAt_of_drops (h : Drops ops id g d) (hk : LastHook ops id g d k name) :
    hooksAt ops d = [name] := by
  obtain ⟨guard, hguard, -, hhook⟩ := guard_after h.held
  have hname : (after ops d).hookOf? id = some name := by
    rw [hookOf?, hguard]
    exact (hhook name).2 ⟨k, hk⟩
  rw [hooksAt_eq, h.freed, Option.bind_some, hname]
  rfl

/-- A hook that is run was registered last on a guard that is dropped. -/
theorem of_mem_hooksAt (h : name ∈ hooksAt ops d) :
    ∃ id g k, Drops ops id g d ∧ LastHook ops id g d k name := by
  rw [hooksAt_eq, Option.mem_toList, Option.bind_eq_some_iff] at h
  obtain ⟨id, hfreed, hname⟩ := h
  obtain ⟨guard, hguard, hhook⟩ := Option.bind_eq_some_iff.1 hname
  obtain ⟨g, hg⟩ := exists_holds hguard
  obtain ⟨held, hheld, -, hlast⟩ := guard_after hg
  obtain rfl : guard = held := Option.some.inj (hguard.symm.trans hheld)
  obtain ⟨k, hk⟩ := (hlast name).1 hhook
  exact ⟨id, g, k, ⟨hg, hfreed⟩, hk⟩

/-- A hook that is followed by another one on the same guard is not the last one at its drop. -/
theorem not_lastHook_of_replaced (hk' : Registers ops id g k' other) (hlt : k < k')
    (hd : Drops ops id g d) : ¬LastHook ops id g d k name := by
  intro hlast
  rcases Nat.lt_trichotomy k' d with hbefore | rfl | hafter
  · exact hlast.last k' hlt hbefore other hk'.registered
  · cases hk'.registered ▸ hd.freed
  · exact hk'.held.kept d hd.held.before hafter hd.freed

/-! ## Tasks -/

theorem numbered_after (ops : History) (n : Nat) : Numbered (after ops n) := by
  induction n with
  | zero => exact ⟨.nil, nofun⟩
  | succ n ih => exact numbered_apply ih (ops n)

theorem lookup_after_turn (hturn : ops n = .turn) (m : Nat) :
    (after ops (n + 1)).tasks.lookup m =
      if m ∈ (after ops n).due then ((after ops n).tasks.lookup m).bind next?
      else (after ops n).tasks.lookup m := by
  rw [after, hturn]
  exact lookup_turn (numbered_after ops n) m

theorem nextTask_mono (ops : History) : Monotone fun n => (after ops n).nextTask := by
  refine monotone_nat_of_le_succ fun n => ?_
  rw [after, nextTask_apply]
  split <;> omega

theorem nextTask_lt (hstarts : (ops g).starts = true) (h : g < n) :
    (after ops g).nextTask < (after ops n).nextTask := by
  have hnext : (after ops (g + 1)).nextTask = (after ops g).nextTask + 1 := by
    rw [after, nextTask_apply, if_pos hstarts]
  have hmono : (after ops (g + 1)).nextTask ≤ (after ops n).nextTask := nextTask_mono ops h
  omega

/-- Tasks that are started at different places have different numbers. -/
theorem eq_of_nextTask_eq (hg : (ops g).starts = true) (hg' : (ops g').starts = true)
    (h : (after ops g).nextTask = (after ops g').nextTask) : g = g' := by
  rcases Nat.lt_trichotomy g g' with hlt | heq | hgt
  · exact absurd h (Nat.ne_of_lt (nextTask_lt hg hlt))
  · exact heq
  · exact absurd h.symm (Nat.ne_of_lt (nextTask_lt hg' hgt))

theorem taskOf?_eq_some (h : (after ops n).taskOf? id = some m) :
    ∃ g, Holds ops id g n ∧ (ops g).starts = true ∧ (after ops g).nextTask = m := by
  obtain ⟨guard, hguard, htask⟩ := Option.bind_eq_some_iff.1 h
  obtain ⟨g, hg⟩ := exists_holds hguard
  obtain ⟨held, hheld, hown, -⟩ := guard_after hg
  obtain rfl : guard = held := Option.some.inj (hguard.symm.trans hheld)
  rw [hown] at htask
  split at htask
  · next hstarts => exact ⟨g, hg, hstarts, Option.some.inj htask⟩
  · cases htask

/-- A task is stopped when its own guard is dropped, and at no other time. -/
theorem stopped?_iff (hg : ops g = .holdTask id endless later) :
    (after ops n).stopped? (ops n) = some (after ops g).nextTask ↔ Drops ops id g n := by
  have hstarts : (ops g).starts = true := hg ▸ rfl
  constructor
  · intro h
    obtain ⟨key, hfreed, htask⟩ := Option.bind_eq_some_iff.1 h
    obtain ⟨g', hheld, hstarts', hnumber⟩ := taskOf?_eq_some htask
    obtain rfl := eq_of_nextTask_eq hstarts' hstarts hnumber
    have hmade : (ops g').made? = some id := hg ▸ rfl
    obtain rfl : key = id := Option.some.inj (hheld.made.symm.trans hmade)
    exact ⟨hheld, hfreed⟩
  · intro h
    obtain ⟨guard, hguard, htask, -⟩ := guard_after h.held
    rw [stopped?, h.freed, Option.bind_some, taskOf?, hguard, Option.bind_some, htask,
      if_pos hstarts]

/-- How the task that was started at a place stands, as long as it is not over. -/
structure Stands (ops : History) (id : String) (endless : Bool) (later g n : Nat) (task : Job) :
    Prop where
  found : (after ops n).tasks.lookup (after ops g).nextTask = some task
  guard : task.guard = id
  left : task.left = if endless then none else some (later - turnsSince ops g n)
  stopped : task.stopped = true ↔ Dropped ops id g n
  due : task.stopped = true ∨ task.left.isSome = true → (after ops g).nextTask ∈ (after ops n).due

/-- A task that is started. -/
theorem stands_self (hg : ops g = .holdTask id endless later) :
    Stands ops id endless later g (g + 1)
      { guard := id, left := if endless then none else some later } := by
  have hfree : (after ops g).taskOf? id ≠ some (after ops g).nextTask := by
    intro htask
    obtain ⟨g', hheld, hstarts, hnumber⟩ := taskOf?_eq_some htask
    exact absurd hnumber (Nat.ne_of_lt (nextTask_lt hstarts hheld.before))
  obtain ⟨hfound, hdue⟩ := lookup_apply_nextTask (numbered_after ops g) hfree endless later
  rw [← hg] at hfound hdue
  refine ⟨hfound, rfl, ?_, iff_of_false nofun not_dropped_self, fun _ => hdue⟩
  rw [turnsSince_self]
  rfl

/-- Outside of a turn, a task is at most stopped. -/
theorem Stands.of_other {task : Job} (hs : Stands ops id endless later g n task)
    (hg : ops g = .holdTask id endless later) (hlt : g < n) (hturn : ops n ≠ .turn) :
    ∃ next, Stands ops id endless later g (n + 1) next := by
  have hbelow := nextTask_lt (hg ▸ rfl : (ops g).starts = true) hlt
  have hsame : turnsSince ops g (n + 1) = turnsSince ops g n := by
    rw [turnsSince_succ, if_neg fun hand => hturn hand.2]
    rfl
  refine ⟨stopIf (decide ((after ops n).stopped? (ops n) = some (after ops g).nextTask)) task,
    ?_, hs.guard, ?_, ?_, fun hwaits => (mem_due_apply hturn hbelow).2 ?_⟩
  · rw [after, lookup_apply hturn hbelow, hs.found]
    rfl
  · rw [hsame]
    exact hs.left
  · simp [stopIf, stopped?_iff hg, hs.stopped, dropped_succ, or_comm]
  · by_cases hstop : (after ops n).stopped? (ops n) = some (after ops g).nextTask
    · exact .inr ⟨hstop, hs.found ▸ rfl⟩
    · rw [decide_eq_false hstop] at hwaits
      exact .inl (hs.due hwaits)

/-- In a turn, a task that has not been stopped goes on, unless its time has come. -/
theorem Stands.of_turn {task : Job} (hs : Stands ops id endless later g n task)
    (hlt : g < n) (hturn : ops n = .turn) (hkept : ¬Dropped ops id g n)
    (htime : endless = false → turnsSince ops g n < later) :
    ∃ next, Stands ops id endless later g (n + 1) next := by
  have hgoes : task.stopped = false := by
    rw [← Bool.not_eq_true, hs.stopped]
    exact hkept
  have hkept' : ¬Dropped ops id g (n + 1) := by
    rw [dropped_succ, not_or]
    exact ⟨hkept, fun hdrops => by cases hturn ▸ hdrops.freed⟩
  have hfound := lookup_after_turn hturn (after ops g).nextTask
  rw [hs.found, Option.bind_some] at hfound
  cases endless with
  | true =>
    have hnext := next?_of_endless hgoes hs.left
    refine ⟨task, ?_, hs.guard, hs.left, iff_of_false (by simp [hgoes]) hkept', ?_⟩
    · rw [hfound, hnext, ite_self]
    · rw [hgoes, hs.left]
      exact fun hwaits => hwaits.elim nofun nofun
  | false =>
    have hwait : later - turnsSince ops g n = later - turnsSince ops g (n + 1) + 1 := by
      have hcount : turnsSince ops g (n + 1) = turnsSince ops g n + 1 := by
        rw [turnsSince_succ, if_pos ⟨hlt, hturn⟩]
      have hmore := htime rfl
      omega
    have hleft : task.left = some (later - turnsSince ops g (n + 1) + 1) := by
      rw [hs.left, ← hwait]
      rfl
    have hdue := hs.due (.inr (hleft ▸ rfl))
    have hnext := next?_of_succ hgoes hleft
    refine ⟨{ task with left := some (later - turnsSince ops g (n + 1)) }, ?_, hs.guard, rfl,
      iff_of_false (by simp [hgoes]) hkept', fun _ => ?_⟩
    · rw [hfound, if_pos hdue, hnext]
    · rw [after, hturn]
      exact mem_due_turn.2 ⟨hdue, _, by rw [hs.found, Option.bind_some, hnext], rfl⟩

/-- A task that is stopped, or whose time has come, ends in a turn. -/
theorem Stands.lookup_of_turn {task : Job} (hs : Stands ops id endless later g n task)
    (hturn : ops n = .turn)
    (hends : Dropped ops id g n ∨ (endless = false ∧ turnsSince ops g n = later)) :
    (after ops (n + 1)).tasks.lookup (after ops g).nextTask = none := by
  have hnext : (after ops g).nextTask ∈ (after ops n).due ∧ next? task = none := by
    rcases hends with hdropped | ⟨rfl, hcount⟩
    · have hstopped := hs.stopped.2 hdropped
      exact ⟨hs.due (.inl hstopped), next?_of_stopped hstopped⟩
    · have hleft : task.left = some 0 := by
        rw [hs.left, hcount, Nat.sub_self]
        rfl
      exact ⟨hs.due (.inr (hleft ▸ rfl)), next?_of_zero hleft⟩
  rw [lookup_after_turn hturn, if_pos hnext.1, hs.found, Option.bind_some, hnext.2]

/-- A task is there until it is over. -/
theorem task_after (hg : ops g = .holdTask id endless later) (h : g < n) :
    Over ops id endless later g n ∧
        (after ops n).tasks.lookup (after ops g).nextTask = none ∨
      ¬Over ops id endless later g n ∧ ∃ task, Stands ops id endless later g n task := by
  induction n, h using Nat.le_induction with
  | base => exact .inr ⟨not_over_self, _, stands_self hg⟩
  | succ n hlt ih =>
    have hover : Over ops id endless later g (n + 1) ↔ _ := over_succ hlt
    rcases ih with ⟨hended, hnone⟩ | ⟨hgoes, task, hs⟩
    · refine .inl ⟨hover.2 (.inl hended), ?_⟩
      by_cases hturn : ops n = .turn
      · rw [lookup_after_turn hturn, hnone, Option.bind_none, ite_self]
      · rw [after, lookup_apply hturn (nextTask_lt (hg ▸ rfl) hlt), hnone]
        rfl
    · by_cases hturn : ops n = .turn
      · by_cases hends : Dropped ops id g n ∨ (endless = false ∧ turnsSince ops g n = later)
        · exact .inl ⟨hover.2 (.inr ⟨hturn, hends⟩), hs.lookup_of_turn hturn hends⟩
        · refine .inr ⟨fun hnow => (hover.1 hnow).elim hgoes fun hand => hends hand.2, ?_⟩
          rw [not_or, not_and] at hends
          refine hs.of_turn hlt hturn hends.1 fun hfinite => ?_
          have hne := hends.2 hfinite
          have hnot : ¬later < turnsSince ops g n := fun hlater => hgoes (.inr ⟨hfinite, hlater⟩)
          omega
      · refine .inr ⟨fun hnow => (hover.1 hnow).elim hgoes fun hand => hturn hand.1, ?_⟩
        exact hs.of_other hg hlt hturn

theorem runs_iff (hg : ops g = .holdTask id endless later) (h : g < n) :
    Runs ops g n ↔ ¬Over ops id endless later g n := by
  rw [Runs]
  rcases task_after hg h with ⟨hover, hnone⟩ | ⟨hgoes, task, hs⟩
  · rw [hnone]
    exact iff_of_false nofun (not_not_intro hover)
  · rw [hs.found]
    exact iff_of_true rfl hgoes

theorem isActive_iff (h : Holds ops id g n) : ∃ guard,
    (after ops n).guards.get? id = some guard ∧
      ((after ops n).isActive guard = true ↔ (ops g).starts = true ∧ Runs ops g n) := by
  obtain ⟨guard, hguard, htask, -⟩ := guard_after h
  refine ⟨guard, hguard, ?_⟩
  rw [isActive, htask]
  split
  · next m hm =>
    split at hm
    · next hstarts =>
      obtain rfl := Option.some.inj hm
      exact (and_iff_right hstarts).symm
    · cases hm
  · next hm =>
    split at hm
    · cases hm
    · next hidle => exact iff_of_false nofun fun hand => hidle hand.1

/-- A task that is there after an operation, and was not started by it, was there before it. -/
theorem exists_before {task : Job} (hold : m < (after ops n).nextTask)
    (h : (after ops (n + 1)).tasks.lookup m = some task) :
    ∃ old, (after ops n).tasks.lookup m = some old ∧ old.guard = task.guard := by
  by_cases hturn : ops n = .turn
  · rw [lookup_after_turn hturn] at h
    split at h
    · obtain ⟨old, hfound, hnext⟩ := Option.bind_eq_some_iff.1 h
      exact ⟨old, hfound, (guard_of_next? hnext).symm⟩
    · exact ⟨task, h, rfl⟩
  · rw [after, lookup_apply hturn hold] at h
    obtain ⟨old, hfound, rfl⟩ := Option.map_eq_some_iff.1 h
    exact ⟨old, hfound, rfl⟩

/-- What is among the tasks was started at a place. -/
theorem exists_started {task : Job} (h : (after ops n).tasks.lookup m = some task) :
    ∃ endless later g, ops g = .holdTask task.guard endless later ∧ g < n ∧
      (after ops g).nextTask = m := by
  induction n generalizing task with
  | zero => cases h
  | succ n ih =>
    have hbelow : m < (after ops (n + 1)).nextTask := by
      refine Nat.lt_of_not_le fun hle => ?_
      cases h.symm.trans ((numbered_after ops (n + 1)).lookup_of_le hle)
    by_cases hnew : m = (after ops n).nextTask
    · obtain ⟨id, endless, later, hg⟩ : ∃ id endless later, ops n = .holdTask id endless later := by
        rw [after, nextTask_apply, hnew] at hbelow
        cases hop : ops n with
        | holdTask id endless later => exact ⟨id, endless, later, rfl⟩
        | _ => exact absurd hbelow (by simp [hop, Operation.starts])
      have hfound := (stands_self hg).found
      rw [← hnew, h] at hfound
      obtain rfl := Option.some.inj hfound
      exact ⟨endless, later, n, hg, Nat.lt_succ_self n, hnew.symm⟩
    · have hold : m < (after ops n).nextTask := by
        rw [after, nextTask_apply] at hbelow
        split at hbelow <;> omega
      obtain ⟨old, hfound, hguard⟩ := exists_before hold h
      obtain ⟨endless, later, g, hg, hlt, hnumber⟩ := ih hfound
      exact ⟨endless, later, g, hguard ▸ hg, Nat.lt_succ_of_lt hlt, hnumber⟩

/-- The end of a task is told in the turn that it ends in. -/
theorem told_iff : .taskEnded id ∈ eventsAt ops n ↔
    ∃ endless later g, ops g = .holdTask id endless later ∧ g < n ∧
      Runs ops g n ∧ ¬Runs ops g (n + 1) := by
  rw [eventsAt, taskEnded_mem_apply]
  constructor
  · rintro ⟨hturn, m, hdue, task, hfound, hnext, rfl⟩
    obtain ⟨endless, later, g, hg, hlt, rfl⟩ := exists_started hfound
    refine ⟨endless, later, g, hg, hlt, by rw [Runs, hfound]; rfl, ?_⟩
    rw [Runs, lookup_after_turn hturn, if_pos hdue, hfound, Option.bind_some, hnext]
    exact nofun
  · rintro ⟨endless, later, g, hg, hlt, hruns, hends⟩
    obtain ⟨-, hnone⟩ | ⟨hgoes, task, hs⟩ := task_after hg hlt
    · rw [Runs, hnone] at hruns
      cases hruns
    have hturn : ops n = .turn := by
      rw [runs_iff hg (Nat.lt_succ_of_lt hlt), not_not, over_succ hlt] at hends
      exact (hends.resolve_left hgoes).1
    rw [Runs, lookup_after_turn hturn, hs.found, Option.bind_some] at hends
    split at hends
    · next hdue => exact ⟨hturn, _, hdue, task, hs.found, by simpa using hends, hs.guard⟩
    · exact absurd rfl hends

/-- Guards run the hook that was registered last on them at their drop, once, and no hook is run at
any other time; a task ends when its own guard was dropped or its own time has come. -/
theorem guards_release_once (ops : History) : ReleaseOnce ops where
  released _ _ _ _ _ hd hk := hooksAt_of_drops hd hk
  bare id g d hd hnone := by
    refine List.eq_nil_iff_forall_not_mem.2 fun name hname => ?_
    obtain ⟨id', g', k, hd', hk⟩ := of_mem_hooksAt hname
    obtain rfl : id' = id := Option.some.inj (hd'.freed.symm.trans hd.freed)
    obtain rfl := hd'.held.unique hd.held
    exact hnone k name hk
  otherwise d hnone := by
    refine List.eq_nil_iff_forall_not_mem.2 fun name hname => ?_
    obtain ⟨id, g, k, hd, -⟩ := of_mem_hooksAt hname
    exact hnone id g hd
  once k name hsole d d' hname hname' := by
    obtain ⟨id, g, i, hd, hk⟩ := of_mem_hooksAt hname
    obtain ⟨id', g', i', hd', hk'⟩ := of_mem_hooksAt hname'
    obtain rfl := hsole i id hk.registered
    obtain rfl := hsole i' id' hk'.registered
    exact hd.unique hk hd' hk'
  replaced id g k k' name other hk hk' hlt hsole d hname := by
    obtain ⟨id', g', i, hd, hlast⟩ := of_mem_hooksAt hname
    obtain rfl := hsole i id' hlast.registered
    obtain rfl : id' = id := by
      have heq := hlast.registered.symm.trans hk.registered
      cases heq
      rfl
    obtain rfl := (hd.held.earlier hlast.later hlast.before).unique hk.held
    exact not_lastHook_of_replaced hk' hlt hd hlast
  runs _ _ _ _ _ hg h := runs_iff hg h
  apart id endless later g n hg h hruns hends := by
    rw [runs_iff hg h] at hruns
    rw [runs_iff hg (Nat.lt_succ_of_lt h), not_not, over_succ h] at hends
    exact hends.resolve_left hruns
  stopped id endless later g d t n hg hd hdt hturn htn := by
    rw [runs_iff hg (hd.held.before.trans (hdt.trans htn)), not_not]
    exact .inl ⟨t, htn, hturn, d, hdt, hd⟩
  active _ _ _ hheld := isActive_iff hheld
  stays id later g n hg hheld := by
    obtain ⟨guard, hguard, hactive⟩ := isActive_iff hheld
    have hruns : Runs ops g n := (runs_iff hg hheld.before).2 (not_over_of_holds hheld)
    exact ⟨guard, hguard, hactive.2 ⟨hg ▸ rfl, hruns⟩⟩
  told _ _ := told_iff

/-- A guard whose hook is replaced gives way to one with a task under the same name. -/
example : (List.range 8).map (eventsAt fun n =>
    [.holdIdle "a", .setHook "a" "x", .setHook "a" "y", .holdTask "a" true, .turn,
      .setHook "a" "z", .drop "a", .turn].getD n .turn) =
    [[], [], [], [.hookRan "y"], [], [], [.hookRan "z"], [.taskEnded "a"]] := by
  decide +kernel

end AppDeploy.Heartbeats
