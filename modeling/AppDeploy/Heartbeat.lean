import AppDeploy.Table

/-! Signs of life during a build.

A guard stands for one heartbeat. While it is held, its task may run in the background;
when it is dropped, the task is stopped and the guard's hook, if it has one, is run. Tasks go
on, and end, when they get their turn: one that is stopped ends in its next turn, and one that
is not endless after some turns of its own. -/
namespace AppDeploy

/-- A background task. -/
structure Heartbeat.Job where
  /-- The guard that it was started with. -/
  guard : String
  /-- The turns that it takes before the one that it ends in; none for an endless task. -/
  left : Option Nat
  stopped : Bool := false
deriving DecidableEq, Repr

structure Heartbeat.Guard where
  /-- The number of the task. -/
  task : Option Nat := none
  hook : Option String := none
deriving DecidableEq, Repr

/-- The guards that are held and the tasks that run. -/
structure Heartbeats where
  guards : Table Heartbeat.Guard := .empty
  /-- The tasks that have not ended, by their numbers. -/
  tasks : List (Nat × Heartbeat.Job) := []
  /-- The tasks that will do something in their next turn, in order. -/
  due : List Nat := []
  nextTask : Nat := 0
deriving DecidableEq, Repr

inductive Heartbeat.Event where
  | hookRan (name : String)
  | taskEnded (guard : String)
deriving DecidableEq, Repr

/-- What can be done with guards and tasks. -/
inductive Heartbeat.Operation where
  | holdIdle (id : String)
  /-- A task that is not endless ends in its first turn, or so many turns later. -/
  | holdTask (id : String) (endless : Bool) (later : Nat := 0)
  | setHook (id name : String)
  | drop (id : String)
  | turn
deriving DecidableEq, Repr

namespace Heartbeats

open Heartbeat

/-- Marks a task as stopped. -/
def markStopped (n : Nat) : List (Nat × Job) → List (Nat × Job)
  | [] => []
  | (m, task) :: rest =>
    if m = n then (m, { task with stopped := true }) :: rest
    else (m, task) :: markStopped n rest

/-- Stops a task; one that has ended stays as it is. -/
def stop (h : Heartbeats) (n : Nat) : Heartbeats :=
  if (h.tasks.lookup n).isNone then h
  else
    { h with
      tasks := markStopped n h.tasks
      due := if h.due.contains n then h.due else h.due ++ [n] }

/-- Drops a guard, if it is held. -/
def drop (h : Heartbeats) (id : String) : Heartbeats × List Event :=
  match h.guards.get? id with
  | none => (h, [])
  | some guard =>
    let h := { h with guards := h.guards.erase id }
    let h := match guard.task with
      | some n => h.stop n
      | none => h
    (h, guard.hook.toList.map .hookRan)

/-- Puts a guard in the place of the one that was held by its name. -/
def hold (h : Heartbeats) (id : String) (guard : Guard) : Heartbeats × List Event :=
  let (h, events) := h.drop id
  ({ h with guards := h.guards.insert id guard }, events)

/-- A guard without a task. -/
def holdIdle (h : Heartbeats) (id : String) : Heartbeats × List Event :=
  h.hold id {}

/-- Starts a task for a guard of a name. -/
def start (h : Heartbeats) (id : String) (endless : Bool) (later : Nat) : Heartbeats :=
  { h with
    tasks := h.tasks ++
      [(h.nextTask, { guard := id, left := if endless then none else some later })]
    due := h.due ++ [h.nextTask]
    nextTask := h.nextTask + 1 }

/-- A guard with a task that is started for it. -/
def holdTask (h : Heartbeats) (id : String) (endless : Bool) (later : Nat) :
    Heartbeats × List Event :=
  (h.start id endless later).hold id { task := some h.nextTask }

/-- Gives a guard a hook, in the place of any it had. -/
def setHook (h : Heartbeats) (id name : String) : Heartbeats :=
  match h.guards.get? id with
  | some guard => { h with guards := h.guards.insert id { guard with hook := some name } }
  | none => h

/-- What is left of a task after its turn; nothing, if it ends in it. -/
def next? (task : Job) : Option Job :=
  if task.stopped then none
  else match task.left with
    | none => some task
    | some 0 => none
    | some (n + 1) => some { task with left := some n }

/-- What is left of a task of a number when the tasks have had their turn; only those that are due
do something in it. -/
def afterTurn? (h : Heartbeats) (n : Nat) (task : Job) : Option Job :=
  if h.due.contains n then next? task else some task

/-- Lets the tasks have their turn. Afterwards an endless task has nothing to do, unless it is
stopped. -/
def turn (h : Heartbeats) : Heartbeats × List Event :=
  ({ h with
      tasks := h.tasks.filterMap fun (n, task) => (h.afterTurn? n task).map (n, ·)
      due := h.due.filter fun n => ((h.tasks.lookup n).bind next?).any (·.left.isSome) },
    h.due.filterMap fun n =>
      ((h.tasks.lookup n).filter fun task => (next? task).isNone).map fun task =>
        .taskEnded task.guard)

/-- Does one operation. -/
def apply (h : Heartbeats) : Operation → Heartbeats × List Event
  | .holdIdle id => h.holdIdle id
  | .holdTask id endless later => h.holdTask id endless later
  | .setHook id name => (h.setHook id name, [])
  | .drop id => h.drop id
  | .turn => h.turn

/-- Whether the task of a guard is still running. -/
def isActive (h : Heartbeats) (guard : Guard) : Bool :=
  match guard.task with
  | some n => (h.tasks.lookup n).isSome
  | none => false

end Heartbeats

end AppDeploy
