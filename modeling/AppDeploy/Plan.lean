import AppDeploy.Advisory

/-! Plans: what is done, in which order, when every answer from outside is still open.

A plan is a tree. At each node it is done, notes something, or asks a service, and has one
branch for every answer it may get. So one plan holds all of its runs: a world that answers
picks one of them (`Plan.run`), and a plan for the requests of one service turns a plan
over that service into one over another (`Plan.through`). -/
namespace AppDeploy

/-- Something that can be asked: its requests, and what each is answered with. -/
structure Service where
  Request : Type
  Answer : Request → Type

/-- What is done and asked, up to a result. -/
inductive Plan (S : Service) (α : Type) : Type where
  | done (a : α)
  | note (n : Note) (next : Plan S α)
  | ask (q : S.Request) (next : S.Answer q → Plan S α)

/-- One thing that happened in a run. -/
inductive Event (S : Service) where
  | noted (n : Note)
  | asked (q : S.Request) (a : S.Answer q)

/-- Something that answers the requests of a service. -/
structure World (S : Service) (ω : Type) where
  answer : (q : S.Request) → ω → S.Answer q × ω

namespace Plan

variable {S T : Service} {α β ω : Type}

/-- A plan, and then one that depends on its result. -/
def bind : Plan S α → (α → Plan S β) → Plan S β
  | done a, f => f a
  | note n next, f => note n (bind next f)
  | ask q next, f => ask q fun a => bind (next a) f

instance : Monad (Plan S) where
  pure := done
  bind := bind

@[simp] theorem bind_done (a : α) (f : α → Plan S β) : (done a : Plan S α).bind f = f a := rfl

@[simp] theorem bind_note (n : Note) (p : Plan S α) (f : α → Plan S β) :
    (note n p).bind f = note n (p.bind f) := rfl

@[simp] theorem bind_ask (q : S.Request) (next : S.Answer q → Plan S α) (f : α → Plan S β) :
    (ask q next).bind f = ask q fun a => (next a).bind f := rfl

theorem bind_pure (p : Plan S α) : p.bind done = p := by
  induction p with
  | done a => rfl
  | note n next ih => rw [bind_note, ih]
  | ask q next ih => rw [bind_ask]; congr; funext a; exact ih a

theorem bind_assoc {γ : Type} (p : Plan S α) (f : α → Plan S β) (g : β → Plan S γ) :
    (p.bind f).bind g = p.bind fun a => (f a).bind g := by
  induction p with
  | done a => rfl
  | note n next ih => rw [bind_note, bind_note, bind_note, ih]
  | ask q next ih =>
    rw [bind_ask, bind_ask, bind_ask]
    congr
    funext a
    exact ih a

instance : LawfulMonad (Plan S) := LawfulMonad.mk' _
  bind_pure (fun _ _ => rfl) bind_assoc

/-- Asks a service. -/
def request (q : S.Request) : Plan S (S.Answer q) :=
  ask q done

/-- Notes some things, one after the other. -/
def notes : List Note → Plan S Unit
  | [] => done ()
  | n :: rest => note n (notes rest)

/-- Prints some lines. -/
def print (lines : List Line) : Plan S Unit :=
  notes (lines.map .printed)

/-- A plan in which every request to a service is carried out by another plan. -/
def through (carry : (q : S.Request) → Plan T (S.Answer q)) : Plan S α → Plan T α
  | done a => done a
  | note n next => note n (through carry next)
  | ask q next => (carry q).bind fun a => through carry (next a)

/-- The run of a plan that a world picks: what happened, the result, and the world after
it. -/
def run (w : World S ω) : Plan S α → ω → List (Event S) × α × ω
  | done a, state => ([], a, state)
  | note n next, state =>
    let (events, a, state) := run w next state
    (.noted n :: events, a, state)
  | ask q next, state =>
    let (answer, state) := w.answer q state
    let (events, a, state) := run w (next answer) state
    (.asked q answer :: events, a, state)

/-- A run that ends without a result once the world has stopped it. The request at which
that happens gets no answer. -/
def runUntil (stopped : ω → Bool) (w : World S ω) : Plan S α → ω → List (Event S) × Option α × ω
  | done a, state => ([], some a, state)
  | note n next, state =>
    let (events, a, state) := runUntil stopped w next state
    (.noted n :: events, a, state)
  | ask q next, state =>
    let (answer, state) := w.answer q state
    if stopped state then ([], none, state)
    else
      let (events, a, state) := runUntil stopped w (next answer) state
      (.asked q answer :: events, a, state)

end Plan

namespace Event

variable {S : Service}

def note? : Event S → Option Note
  | .noted n => some n
  | .asked _ _ => none

def request? : Event S → Option S.Request
  | .noted _ => none
  | .asked q _ => some q

end Event

/-- A plan that can fail. -/
abbrev Task (S : Service) (ε α : Type) := ExceptT ε (Plan S) α

namespace Task

variable {S : Service} {ε ε' α : Type}

/-- Goes on with what a plan has found, or fails for the reason it gives. -/
def attempt (wrap : ε' → ε) (p : Plan S (Except ε' α)) : Task S ε α :=
  ExceptT.mk (p.bind fun found => .done (found.mapError wrap))

/-- Goes on with a value, or fails for the reason given. -/
def fromExcept (wrap : ε' → ε) (found : Except ε' α) : Task S ε α :=
  ExceptT.mk (.done (found.mapError wrap))

/-- Notes some things. -/
def notes (ns : List Note) : Task S ε Unit :=
  ExceptT.lift (Plan.notes ns)

/-- Prints some lines. -/
def print (lines : List Line) : Task S ε Unit :=
  ExceptT.lift (Plan.print lines)

end Task

end AppDeploy
