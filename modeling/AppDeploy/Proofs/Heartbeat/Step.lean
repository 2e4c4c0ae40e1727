import AppDeploy.Heartbeat
import AppDeploy.Proofs.Table

/-!
# One operation on guards and tasks

An operation drops at most one guard (`Operation.freed?`), and this is what can be seen of it: the
hook of that guard is run (`hooks_apply`), and its task, found by its number, is stopped
(`lookup_apply`). Other guards and tasks stay as they are. Tasks end in a turn only, each by what
is left of it (`lookup_turn`).
-/

namespace AppDeploy

namespace Heartbeat

/-- The name that an operation makes a guard under. -/
def Operation.made? : Operation → Option String
  | .holdIdle id => some id
  | .holdTask id _ _ => some id
  | .setHook _ _ => none
  | .drop _ => none
  | .turn => none

/-- The name whose guard an operation drops, if one is held: it is dropped by itself, or for the
one that is made in its place. -/
def Operation.freed? : Operation → Option String
  | .drop id => some id
  | op => op.made?

/-- Whether an operation starts a task. -/
def Operation.starts : Operation → Bool
  | .holdTask _ _ _ => true
  | _ => false

theorem Operation.freed?_of_made? {op : Operation} {id : String} (h : op.made? = some id) :
    op.freed? = some id := by
  cases op with
  | drop other => cases h
  | _ => exact h

/-- The hook that was run. -/
def Event.hook? : Event → Option String
  | .hookRan name => some name
  | .taskEnded _ => none

end Heartbeat

namespace Heartbeats

open Heartbeat

variable {h : Heartbeats} {op : Operation} {id key name : String} {guard : Guard} {task : Job}
  {m n later : Nat} {endless : Bool}

/-- The hook of the guard of a name. -/
def hookOf? (h : Heartbeats) (id : String) : Option String :=
  (h.guards.get? id).bind (·.hook)

/-- The number of the task of the guard of a name. -/
def taskOf? (h : Heartbeats) (id : String) : Option Nat :=
  (h.guards.get? id).bind (·.task)

/-- The number of the task that an operation stops. -/
def stopped? (h : Heartbeats) (op : Operation) : Option Nat :=
  op.freed?.bind h.taskOf?

/-! ## Guards and hooks -/

theorem guards_stop (h : Heartbeats) (n : Nat) : (h.stop n).guards = h.guards := by
  rw [stop]
  split <;> rfl

theorem get?_drop (h : Heartbeats) (id key : String) :
    (h.drop id).1.guards.get? key = if key = id then none else h.guards.get? key := by
  rw [drop]
  split
  · next hnone =>
    split
    · next heq => exact heq ▸ hnone
    · rfl
  · next guard _ =>
    rw [← Table.get?_erase]
    cases guard.task with
    | none => rfl
    | some n => rw [guards_stop]

theorem get?_hold (h : Heartbeats) (id key : String) (guard : Guard) :
    (h.hold id guard).1.guards.get? key = if key = id then some guard else h.guards.get? key := by
  show ((h.drop id).1.guards.insert id guard).get? key = _
  rw [Table.get?_insert, get?_drop]
  split <;> rfl

theorem get?_setHook (h : Heartbeats) (id key name : String) :
    (h.setHook id name).guards.get? key =
      if key = id then (h.guards.get? id).map fun guard => { guard with hook := some name }
      else h.guards.get? key := by
  rw [setHook]
  split
  · next guard hguard => exact hguard ▸ Table.get?_insert ..
  · next hnone =>
    split
    · next heq =>
      rw [heq, hnone]
      rfl
    · rfl

/-- A guard stays as it is if it is not dropped and no hook is registered on it. -/
theorem get?_apply (hfreed : op.freed? ≠ some id) (hhook : ∀ name, op ≠ .setHook id name) :
    (h.apply op).1.guards.get? id = h.guards.get? id := by
  cases op with
  | holdIdle other =>
    have hne : id ≠ other := fun heq => hfreed (congrArg some heq.symm)
    exact (get?_hold ..).trans (if_neg hne)
  | holdTask other endless later =>
    have hne : id ≠ other := fun heq => hfreed (congrArg some heq.symm)
    exact (get?_hold ..).trans (if_neg hne)
  | setHook other name =>
    have hne : id ≠ other := fun heq => hhook name (heq ▸ rfl)
    exact (get?_setHook ..).trans (if_neg hne)
  | drop other =>
    have hne : id ≠ other := fun heq => hfreed (congrArg some heq.symm)
    exact (get?_drop ..).trans (if_neg hne)
  | turn => rfl

/-- A guard that is made has a task of its own, or none, and no hook. -/
theorem get?_apply_of_made (hmade : op.made? = some id) :
    (h.apply op).1.guards.get? id =
      some { task := if op.starts then some h.nextTask else none } := by
  cases op with
  | holdIdle other => exact (get?_hold ..).trans (if_pos (Option.some.inj hmade).symm)
  | holdTask other endless later =>
    exact (get?_hold ..).trans (if_pos (Option.some.inj hmade).symm)
  | setHook other name => cases hmade
  | drop other => cases hmade
  | turn => cases hmade

/-- A guard that is dropped, and not replaced, is held no more. -/
theorem get?_apply_of_freed (hfreed : op.freed? = some id) (hmade : op.made? ≠ some id) :
    (h.apply op).1.guards.get? id = none := by
  cases op with
  | holdIdle other => exact absurd hfreed hmade
  | holdTask other endless later => exact absurd hfreed hmade
  | setHook other name => cases hfreed
  | drop other => exact (get?_drop ..).trans (if_pos (Option.some.inj hfreed).symm)
  | turn => cases hfreed

theorem events_drop (h : Heartbeats) (id : String) :
    (h.drop id).2 = (h.hookOf? id).toList.map .hookRan := by
  rw [drop, hookOf?]
  cases h.guards.get? id <;> rfl

/-- The hook of the guard that is dropped is run, and no other. -/
theorem hooks_apply (h : Heartbeats) (op : Operation) :
    (h.apply op).2.filterMap Event.hook? = (op.freed?.bind h.hookOf?).toList := by
  have hdrop : ∀ (h : Heartbeats) id,
      (h.drop id).2.filterMap Event.hook? = (h.hookOf? id).toList := by
    intro h id
    rw [events_drop]
    cases h.hookOf? id <;> rfl
  cases op with
  | holdIdle id => exact hdrop h id
  | holdTask id endless later => exact hdrop (h.start id endless later) id
  | setHook id name => rfl
  | drop id => exact hdrop h id
  | turn =>
    refine List.filterMap_eq_nil_iff.2 fun event hevent => ?_
    obtain ⟨n, -, hn⟩ := List.mem_filterMap.1 hevent
    obtain ⟨task, -, rfl⟩ := Option.map_eq_some_iff.1 hn
    rfl

/-! ## Tasks -/

/-- A task that is stopped under a condition. -/
def stopIf (stops : Bool) (task : Job) : Job :=
  { task with stopped := stops || task.stopped }

theorem lookup_markStopped (tasks : List (Nat × Job)) (n m : Nat) :
    (markStopped n tasks).lookup m = (tasks.lookup m).map (stopIf (m == n)) := by
  induction tasks with
  | nil => rfl
  | cons entry rest ih =>
    obtain ⟨k, task⟩ := entry
    rw [markStopped]
    by_cases hk : k = n <;> by_cases hm : m = k
    · subst hk hm
      simp [stopIf]
    · subst hk
      have hne : (m == k) = false := by simpa using hm
      rw [if_pos rfl, List.lookup_cons, List.lookup_cons, hne]
      cases rest.lookup m <;> rfl
    · subst hm
      have hne : (m == n) = false := by simpa using hk
      rw [if_neg hk, List.lookup_cons_self, List.lookup_cons_self, hne]
      rfl
    · have hne : (m == k) = false := by simpa using hm
      rw [if_neg hk, List.lookup_cons, List.lookup_cons, hne, ih]

theorem numbers_markStopped (tasks : List (Nat × Job)) (n : Nat) :
    (markStopped n tasks).map Prod.fst = tasks.map Prod.fst := by
  induction tasks with
  | nil => rfl
  | cons entry rest ih =>
    rw [markStopped]
    split
    · rfl
    · rw [List.map_cons, ih, List.map_cons]

theorem map_stopIf_false (found : Option Job) : found.map (stopIf false) = found := by
  cases found <;> rfl

theorem lookup_stop (h : Heartbeats) (n m : Nat) :
    (h.stop n).tasks.lookup m = (h.tasks.lookup m).map (stopIf (m == n)) := by
  rw [stop]
  split
  · next hended =>
    by_cases hm : m = n
    · subst hm
      rw [Option.isNone_iff_eq_none.1 hended]
      rfl
    · have hne : (m == n) = false := by simpa using hm
      rw [hne, map_stopIf_false]
  · exact lookup_markStopped h.tasks n m

theorem mem_due_stop :
    m ∈ (h.stop n).due ↔ m ∈ h.due ∨ m = n ∧ (h.tasks.lookup n).isSome = true := by
  rw [stop]
  split
  · next hended => simp [Option.isNone_iff_eq_none.1 hended]
  · next hthere =>
    have hsome : (h.tasks.lookup n).isSome = true := by
      simpa [Option.isSome_iff_ne_none] using hthere
    show m ∈ (if h.due.contains n then h.due else h.due ++ [n]) ↔ _
    split
    · next hdue =>
      have hmem : n ∈ h.due := by simpa using hdue
      exact ⟨.inl, fun hm => hm.elim id fun hn => hn.1 ▸ hmem⟩
    · simp [hsome]

theorem nextTask_stop (h : Heartbeats) (n : Nat) : (h.stop n).nextTask = h.nextTask := by
  rw [stop]
  split <;> rfl

theorem numbers_stop (h : Heartbeats) (n : Nat) :
    (h.stop n).tasks.map Prod.fst = h.tasks.map Prod.fst := by
  rw [stop]
  split
  · rfl
  · exact numbers_markStopped h.tasks n

/-- But for the guards, all that a drop does is to stop the task of the guard, if it has one. -/
theorem exists_drop_eq (h : Heartbeats) (id : String) : ∃ guards, (h.drop id).1 =
    match h.taskOf? id with
    | some n => stop { h with guards } n
    | none => { h with guards } := by
  rw [drop, taskOf?]
  obtain _ | ⟨_ | n, hook⟩ := h.guards.get? id
  · exact ⟨h.guards, rfl⟩
  · exact ⟨h.guards.erase id, rfl⟩
  · exact ⟨h.guards.erase id, rfl⟩

/-- The task of a guard that is dropped is stopped. -/
theorem lookup_drop (h : Heartbeats) (id : String) (m : Nat) :
    (h.drop id).1.tasks.lookup m =
      (h.tasks.lookup m).map (stopIf (decide (h.taskOf? id = some m))) := by
  obtain ⟨guards, heq⟩ := exists_drop_eq h id
  rw [heq]
  cases h.taskOf? id with
  | none => exact (map_stopIf_false _).symm
  | some n =>
    have hsame : decide (some n = some m) = (m == n) := by simp [eq_comm, Bool.beq_eq_decide_eq]
    exact (lookup_stop _ n m).trans (hsame ▸ rfl)

theorem mem_due_drop :
    m ∈ (h.drop id).1.due ↔
      m ∈ h.due ∨ h.taskOf? id = some m ∧ (h.tasks.lookup m).isSome = true := by
  obtain ⟨guards, heq⟩ := exists_drop_eq h id
  rw [heq]
  cases h.taskOf? id with
  | none => simp
  | some n =>
    refine mem_due_stop.trans (or_congr Iff.rfl ?_)
    constructor
    · rintro ⟨rfl, hsome⟩
      exact ⟨rfl, hsome⟩
    · rintro ⟨hm, hsome⟩
      obtain rfl : n = m := Option.some.inj hm
      exact ⟨rfl, hsome⟩

theorem numbers_drop (h : Heartbeats) (id : String) :
    (h.drop id).1.tasks.map Prod.fst = h.tasks.map Prod.fst := by
  obtain ⟨guards, heq⟩ := exists_drop_eq h id
  rw [heq]
  cases h.taskOf? id with
  | none => rfl
  | some n => exact numbers_stop _ n

theorem nextTask_drop (h : Heartbeats) (id : String) : (h.drop id).1.nextTask = h.nextTask := by
  obtain ⟨guards, heq⟩ := exists_drop_eq h id
  rw [heq]
  cases h.taskOf? id with
  | none => rfl
  | some n => exact nextTask_stop _ n

theorem tasks_setHook (h : Heartbeats) (id name : String) :
    (h.setHook id name).tasks = h.tasks ∧ (h.setHook id name).due = h.due ∧
      (h.setHook id name).nextTask = h.nextTask := by
  rw [setHook]
  split <;> exact ⟨rfl, rfl, rfl⟩

theorem nextTask_apply (h : Heartbeats) (op : Operation) :
    (h.apply op).1.nextTask = if op.starts then h.nextTask + 1 else h.nextTask := by
  cases op with
  | holdIdle id => exact nextTask_drop h id
  | holdTask id endless later => exact nextTask_drop (h.start id endless later) id
  | setHook id name => exact (tasks_setHook h id name).2.2
  | drop id => exact nextTask_drop h id
  | turn => rfl

/-- A task is numbered once, when it is started. -/
structure Numbered (h : Heartbeats) : Prop where
  nodup : (h.tasks.map Prod.fst).Nodup
  below : ∀ n ∈ h.tasks.map Prod.fst, n < h.nextTask

theorem Numbered.lookup_of_le (hn : Numbered h) (hm : h.nextTask ≤ m) :
    h.tasks.lookup m = none := by
  refine List.lookup_eq_none_iff.2 fun entry hentry => ?_
  have hlt := hn.below entry.1 (List.mem_map_of_mem hentry)
  simpa using (Nat.ne_of_lt (Nat.lt_of_lt_of_le hlt hm)).symm

theorem Numbered.drop (hn : Numbered h) (id : String) : Numbered (h.drop id).1 where
  nodup := numbers_drop h id ▸ hn.nodup
  below := by
    rw [numbers_drop, nextTask_drop]
    exact hn.below

theorem Numbered.start (hn : Numbered h) (id : String) (endless : Bool) (later : Nat) :
    Numbered (h.start id endless later) := by
  have hnumbers : (h.start id endless later).tasks.map Prod.fst =
      h.tasks.map Prod.fst ++ [h.nextTask] := List.map_append
  constructor
  · rw [hnumbers]
    have hsingle : [h.nextTask].Nodup := List.nodup_cons.2 ⟨List.not_mem_nil, .nil⟩
    refine List.nodup_append.2 ⟨hn.nodup, hsingle, fun n hmem m hm => ?_⟩
    rw [List.mem_singleton.1 hm]
    exact Nat.ne_of_lt (hn.below n hmem)
  · intro n hmem
    rw [hnumbers, List.mem_append, List.mem_singleton] at hmem
    rcases hmem with hold | rfl
    · exact Nat.lt_succ_of_lt (hn.below n hold)
    · exact Nat.lt_succ_self _

/-- The numbers of the tasks that are left are among those before. -/
theorem numbers_filterMap (f : Nat → Job → Option Job) (tasks : List (Nat × Job)) :
    ((tasks.filterMap fun (n, task) => (f n task).map (n, ·)).map Prod.fst).Sublist
      (tasks.map Prod.fst) := by
  induction tasks with
  | nil => exact .slnil
  | cons entry rest ih =>
    obtain ⟨n, task⟩ := entry
    cases hleft : f n task with
    | none => simpa [List.filterMap_cons, hleft] using ih.cons n
    | some left => simpa [List.filterMap_cons, hleft] using ih.cons_cons n

theorem lookup_filterMap (f : Nat → Job → Option Job) {tasks : List (Nat × Job)}
    (hnodup : (tasks.map Prod.fst).Nodup) (m : Nat) :
    (tasks.filterMap fun (n, task) => (f n task).map (n, ·)).lookup m =
      (tasks.lookup m).bind (f m) := by
  induction tasks with
  | nil => rfl
  | cons entry rest ih =>
    obtain ⟨n, task⟩ := entry
    obtain ⟨hnot, hrest⟩ := List.nodup_cons.1 hnodup
    by_cases hm : m = n
    · subst hm
      rw [List.lookup_cons_self]
      cases hleft : f m task with
      | some left => simp [hleft]
      | none =>
        -- The number does not come again.
        have hnone : rest.lookup m = none := List.lookup_eq_none_iff.2 fun entry hentry => by
          have hne : m ≠ entry.1 := fun heq =>
            hnot (List.mem_map.2 ⟨entry, hentry, heq.symm⟩)
          simpa using hne
        simp [hleft, ih hrest, hnone]
    · have hne : (m == n) = false := by simpa using hm
      rw [List.lookup_cons, hne, ← ih hrest]
      cases hleft : f n task with
      | none => simp [hleft]
      | some left => simp [hleft, List.lookup_cons, hne]

theorem Numbered.turn (hn : Numbered h) : Numbered h.turn.1 where
  nodup := (numbers_filterMap h.afterTurn? h.tasks).nodup hn.nodup
  below n hmem := hn.below n ((numbers_filterMap h.afterTurn? h.tasks).subset hmem)

theorem numbered_apply (hn : Numbered h) (op : Operation) : Numbered (h.apply op).1 := by
  cases op with
  | holdIdle id => exact ⟨(hn.drop id).nodup, (hn.drop id).below⟩
  | holdTask id endless later =>
    have hstarted := (hn.start id endless later).drop id
    exact ⟨hstarted.nodup, hstarted.below⟩
  | setHook id name =>
    obtain ⟨htasks, -, hnext⟩ := tasks_setHook h id name
    exact ⟨htasks ▸ hn.nodup, fun n hmem => hnext ▸ hn.below n (htasks ▸ hmem)⟩
  | drop id => exact hn.drop id
  | turn => exact hn.turn

/-! ## What becomes of a task -/

theorem next?_of_stopped (hstopped : task.stopped = true) : next? task = none :=
  if_pos hstopped

theorem next?_of_zero (hleft : task.left = some 0) : next? task = none := by
  rw [next?, hleft]
  exact ite_self _

theorem next?_of_endless (hstopped : task.stopped = false) (hleft : task.left = none) :
    next? task = some task := by
  rw [next?, hstopped, hleft]
  rfl

theorem next?_of_succ (hstopped : task.stopped = false) (hleft : task.left = some (n + 1)) :
    next? task = some { task with left := some n } := by
  rw [next?, hleft, hstopped]
  rfl

theorem guard_of_next? {left : Job} (h : next? task = some left) : left.guard = task.guard := by
  rw [next?] at h
  split at h
  · cases h
  split at h <;> cases h <;> rfl

theorem lookup_start (id : String) (endless : Bool) (later : Nat) (hm : m < h.nextTask) :
    (h.start id endless later).tasks.lookup m = h.tasks.lookup m := by
  have hne : (m == h.nextTask) = false := by simpa using Nat.ne_of_lt hm
  show (h.tasks ++ [_]).lookup m = _
  rw [List.lookup_append, List.lookup_cons, hne]
  exact Option.or_none

/-- Outside of a turn, nothing happens to a task but that it is stopped. -/
theorem lookup_apply (hturn : op ≠ .turn) (hm : m < h.nextTask) :
    (h.apply op).1.tasks.lookup m =
      (h.tasks.lookup m).map (stopIf (decide (h.stopped? op = some m))) := by
  cases op with
  | holdIdle id => exact lookup_drop h id m
  | holdTask id endless later =>
    have hdrop := lookup_drop (h.start id endless later) id m
    rwa [lookup_start id endless later hm] at hdrop
  | setHook id name =>
    show (h.setHook id name).tasks.lookup m = _
    rw [(tasks_setHook h id name).1]
    exact (map_stopIf_false _).symm
  | drop id => exact lookup_drop h id m
  | turn => exact absurd rfl hturn

theorem mem_due_apply (hturn : op ≠ .turn) (hm : m < h.nextTask) :
    m ∈ (h.apply op).1.due ↔
      m ∈ h.due ∨ h.stopped? op = some m ∧ (h.tasks.lookup m).isSome = true := by
  cases op with
  | holdIdle id => exact mem_due_drop
  | holdTask id endless later =>
    have hdue : m ∈ (h.start id endless later).due ↔ m ∈ h.due := by
      show m ∈ h.due ++ [h.nextTask] ↔ _
      simp [Nat.ne_of_lt hm]
    refine mem_due_drop.trans ?_
    rw [lookup_start id endless later hm, hdue]
    rfl
  | setHook id name =>
    show m ∈ (h.setHook id name).due ↔ _
    rw [(tasks_setHook h id name).2.1]
    simp [stopped?, Operation.freed?, Operation.made?]
  | drop id => exact mem_due_drop
  | turn => exact absurd rfl hturn

/-- A task that is started waits for its first turn. -/
theorem lookup_apply_nextTask (hn : Numbered h) (hfree : h.taskOf? id ≠ some h.nextTask)
    (endless : Bool) (later : Nat) :
    (h.apply (.holdTask id endless later)).1.tasks.lookup h.nextTask =
        some { guard := id, left := if endless then none else some later } ∧
      h.nextTask ∈ (h.apply (.holdTask id endless later)).1.due := by
  constructor
  · show ((h.start id endless later).drop id).1.tasks.lookup h.nextTask = _
    have hsame : (h.start id endless later).taskOf? id = h.taskOf? id := rfl
    rw [lookup_drop, hsame, decide_eq_false hfree, map_stopIf_false]
    show (h.tasks ++ [_]).lookup h.nextTask = _
    rw [List.lookup_append, hn.lookup_of_le (Nat.le_refl _), List.lookup_cons_self]
    rfl
  · exact mem_due_drop.2 (.inl (List.mem_append_right _ (List.mem_singleton_self _)))

/-- In a turn, a task that has something to do is what is left of it. -/
theorem lookup_turn (hn : Numbered h) (m : Nat) :
    h.turn.1.tasks.lookup m =
      if m ∈ h.due then (h.tasks.lookup m).bind next? else h.tasks.lookup m := by
  refine (lookup_filterMap h.afterTurn? hn.nodup m).trans ?_
  by_cases hdue : m ∈ h.due <;> cases h.tasks.lookup m <;> simp [afterTurn?, hdue]

theorem mem_due_turn :
    m ∈ h.turn.1.due ↔
      m ∈ h.due ∧ ∃ task, (h.tasks.lookup m).bind next? = some task ∧ task.left.isSome = true := by
  show m ∈ h.due.filter _ ↔ _
  rw [List.mem_filter, Option.any_eq_true]

/-- The end of a task is told in the turn that it ends in. -/
theorem taskEnded_mem_apply :
    .taskEnded id ∈ (h.apply op).2 ↔
      op = .turn ∧ ∃ m ∈ h.due, ∃ task, h.tasks.lookup m = some task ∧ next? task = none ∧
        task.guard = id := by
  have hdrop : ∀ (h : Heartbeats) key, .taskEnded id ∉ (h.drop key).2 := by
    intro h key hmem
    rw [events_drop] at hmem
    obtain ⟨name, -, hname⟩ := List.mem_map.1 hmem
    cases hname
  cases op with
  | holdIdle key => exact iff_of_false (hdrop h key) (fun hand => nomatch hand.1)
  | holdTask key endless later =>
    exact iff_of_false (hdrop (h.start key endless later) key) (fun hand => nomatch hand.1)
  | setHook key name => exact iff_of_false List.not_mem_nil (fun hand => nomatch hand.1)
  | drop key => exact iff_of_false (hdrop h key) (fun hand => nomatch hand.1)
  | turn =>
    rw [and_iff_right rfl]
    show Event.taskEnded id ∈ h.due.filterMap _ ↔ _
    simp only [List.mem_filterMap, Option.map_eq_some_iff, Option.filter_eq_some_iff,
      Option.isNone_iff_eq_none, Event.taskEnded.injEq, and_assoc]

end Heartbeats

end AppDeploy
