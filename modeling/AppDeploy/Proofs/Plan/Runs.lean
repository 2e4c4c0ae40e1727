import AppDeploy.Plan

/-!
# The runs of a plan

A world picks one run of a plan. `Plan.Runs` describes them all: which exchanges a plan can
make, in order, and the result it then comes to. Notes leave no exchange behind. The lemmas
take a plan apart along its construction, so that what a composed plan does follows from
what its parts do (`Plan.runs_bind`, `Task.runs_bind`, `Plan.runs_through`); the run that a
world picks is one of them (`Plan.runs_run`).
-/

namespace AppDeploy

/-- A request with its answer. -/
structure Exchange (S : Service) where
  request : S.Request
  answer : S.Answer request

namespace Event

variable {S : Service}

def exchange? : Event S → Option (Exchange S)
  | .noted _ => none
  | .asked q a => some ⟨q, a⟩

end Event

/-- What was asked, and what was answered. -/
def exchanges {S : Service} (events : List (Event S)) : List (Exchange S) :=
  events.filterMap Event.exchange?

namespace Plan

variable {S T : Service} {α β ω : Type}

/-- A plan can be answered in such a way that it makes these exchanges and has this
result. -/
inductive Runs : Plan S α → List (Exchange S) → α → Prop where
  | done (a : α) : Runs (.done a) [] a
  | note {n : Note} {next : Plan S α} {trace : List (Exchange S)} {a : α}
      (h : Runs next trace a) : Runs (.note n next) trace a
  | ask {q : S.Request} {next : S.Answer q → Plan S α} {trace : List (Exchange S)} {a : α}
      (answer : S.Answer q) (h : Runs (next answer) trace a) :
      Runs (.ask q next) (⟨q, answer⟩ :: trace) a

/-- The run that a world picks is a run. -/
theorem runs_run (w : World S ω) (p : Plan S α) (state : ω) :
    Runs p (exchanges (run w p state).1) (run w p state).2.1 := by
  -- At each request the world takes one branch of the tree, and that is a run of the branch.
  induction p generalizing state with
  | done a => exact .done a
  | note n next ih => exact .note (ih state)
  | ask q next ih => exact .ask _ (ih _ _)

theorem runs_done {a b : α} {trace : List (Exchange S)} :
    Runs (.done a) trace b ↔ trace = [] ∧ b = a := by
  constructor
  · intro h
    cases h
    exact ⟨rfl, rfl⟩
  · intro hrun
    obtain ⟨rfl, rfl⟩ := hrun
    exact .done b

theorem runs_note {n : Note} {next : Plan S α} {trace : List (Exchange S)} {a : α} :
    Runs (.note n next) trace a ↔ Runs next trace a := by
  constructor
  · intro h
    cases h with
    | note h => exact h
  · exact .note

theorem runs_ask {q : S.Request} {next : S.Answer q → Plan S α} {trace : List (Exchange S)}
    {a : α} :
    Runs (.ask q next) trace a ↔
      ∃ answer rest, Runs (next answer) rest a ∧ trace = ⟨q, answer⟩ :: rest := by
  constructor
  · intro h
    cases h with
    | ask answer h => exact ⟨answer, _, h, rfl⟩
  · intro hrun
    obtain ⟨answer, rest, h, rfl⟩ := hrun
    exact .ask answer h

-- The type of an answer is not looked at, since a service spells it out for each request.
theorem runs_request {q : S.Request} {trace : List (Exchange S)} {a : S.Answer q} :
    @Runs S (no_index (S.Answer q)) (request q) trace a ↔ trace = [⟨q, a⟩] := by
  rw [request, runs_ask]
  constructor
  · intro hrun
    obtain ⟨answer, rest, h, rfl⟩ := hrun
    obtain ⟨rfl, rfl⟩ := runs_done.1 h
    rfl
  · intro hrun
    obtain rfl := hrun
    exact ⟨a, [], .done a, rfl⟩

theorem runs_request_bind {q : S.Request} {f : S.Answer q → Plan S β}
    {trace : List (Exchange S)} {b : β} :
    Runs (request q >>= f) trace b ↔
      ∃ answer rest, Runs (f answer) rest b ∧ trace = ⟨q, answer⟩ :: rest :=
  runs_ask

/-- A run of one plan after another is a run of the first and then one of the second. -/
theorem runs_bind {p : Plan S α} {f : α → Plan S β} {trace : List (Exchange S)} {b : β} :
    Runs (p.bind f) trace b ↔
      ∃ first a rest, Runs p first a ∧ Runs (f a) rest b ∧ trace = first ++ rest := by
  -- The tree of the first plan is walked down; the second one begins at its leaves.
  induction p generalizing trace with
  | done a =>
    rw [bind_done]
    constructor
    · intro h
      exact ⟨[], a, trace, .done a, h, rfl⟩
    · intro hrun
      obtain ⟨first, a', rest, ha, h, rfl⟩ := hrun
      obtain ⟨rfl, rfl⟩ := runs_done.1 ha
      exact h
  | note n next ih => simp only [bind_note, runs_note, ih]
  | ask q next ih =>
    simp only [bind_ask, runs_ask, ih]
    constructor
    · intro hrun
      obtain ⟨answer, _, ⟨first, a, rest, ha, h, rfl⟩, rfl⟩ := hrun
      exact ⟨⟨q, answer⟩ :: first, a, rest, ⟨answer, first, ha, rfl⟩, h, rfl⟩
    · intro hrun
      obtain ⟨_, a, rest, ⟨answer, first, ha, rfl⟩, h, rfl⟩ := hrun
      exact ⟨answer, first ++ rest, ⟨first, a, rest, ha, h, rfl⟩, rfl⟩

theorem runs_map {p : Plan S α} {f : α → β} {trace : List (Exchange S)} {b : β} :
    Runs (p.bind fun a => .done (f a)) trace b ↔ ∃ a, Runs p trace a ∧ b = f a := by
  rw [runs_bind]
  constructor
  · intro hrun
    obtain ⟨first, a, rest, hp, h, rfl⟩ := hrun
    obtain ⟨rfl, rfl⟩ := runs_done.1 h
    exact ⟨a, by rwa [List.append_nil], rfl⟩
  · intro hrun
    obtain ⟨a, hp, rfl⟩ := hrun
    exact ⟨trace, a, [], hp, .done _, (List.append_nil _).symm⟩

theorem runs_notes {ns : List Note} {trace : List (Exchange S)} {u : Unit} :
    Runs (notes ns) trace u ↔ trace = [] := by
  induction ns with
  | nil => rw [notes, runs_done, and_iff_left rfl]
  | cons n rest ih => rw [notes, runs_note, ih]

/-! ## Plans that are carried out by other plans -/

/-- Some exchanges, and the exchanges with another service by which they are carried
out. -/
inductive Carried (carry : (q : S.Request) → Plan T (S.Answer q)) :
    List (Exchange S) → List (Exchange T) → Prop where
  | nil : Carried carry [] []
  | cons {q : S.Request} {answer : S.Answer q} {first rest : List (Exchange T)}
      {later : List (Exchange S)} (h : Runs (carry q) first answer)
      (hlater : Carried carry later rest) : Carried carry (⟨q, answer⟩ :: later) (first ++ rest)

variable {carry : (q : S.Request) → Plan T (S.Answer q)}

theorem runs_through {p : Plan S α} {trace : List (Exchange T)} {a : α} :
    Runs (through carry p) trace a ↔ ∃ asked, Runs p asked a ∧ Carried carry asked trace := by
  -- Each request is replaced by a plan, and the exchanges of that plan come in its place.
  induction p generalizing trace with
  | done b =>
    rw [through, runs_done]
    constructor
    · intro hrun
      obtain ⟨rfl, rfl⟩ := hrun
      exact ⟨[], .done a, .nil⟩
    · intro hrun
      obtain ⟨asked, h, hcarried⟩ := hrun
      obtain ⟨rfl, rfl⟩ := runs_done.1 h
      cases hcarried
      exact ⟨rfl, rfl⟩
  | note n next ih => simp only [through, runs_note, ih]
  | ask q next ih =>
    simp only [through, runs_bind, runs_ask, ih]
    constructor
    · intro hrun
      obtain ⟨first, answer, rest, hq, ⟨asked, h, hcarried⟩, rfl⟩ := hrun
      exact ⟨⟨q, answer⟩ :: asked, ⟨answer, asked, h, rfl⟩, .cons hq hcarried⟩
    · intro hrun
      obtain ⟨_, ⟨answer, asked, h, rfl⟩, hcarried⟩ := hrun
      cases hcarried with
      | cons hq hlater => exact ⟨_, answer, _, hq, ⟨asked, h, hlater⟩, rfl⟩

theorem carried_append {before after : List (Exchange S)} {trace : List (Exchange T)} :
    Carried carry (before ++ after) trace ↔
      ∃ first rest, Carried carry before first ∧ Carried carry after rest ∧
        trace = first ++ rest := by
  induction before generalizing trace with
  | nil =>
    constructor
    · intro h
      exact ⟨[], trace, .nil, h, rfl⟩
    · intro hrun
      obtain ⟨first, rest, hfirst, h, rfl⟩ := hrun
      cases hfirst
      exact h
  | cons x before ih =>
    constructor
    · intro h
      cases h with
      | cons hq hlater =>
        obtain ⟨first, rest, hbefore, hafter, rfl⟩ := ih.1 hlater
        exact ⟨_, rest, .cons hq hbefore, hafter, (List.append_assoc ..).symm⟩
    · intro hrun
      obtain ⟨_, rest, hbefore, hafter, rfl⟩ := hrun
      cases hbefore with
      | cons hq hlater =>
        rw [List.append_assoc]
        exact .cons hq (ih.2 ⟨_, rest, hlater, hafter, rfl⟩)

theorem carried_cons {x : Exchange S} {later : List (Exchange S)} {trace : List (Exchange T)} :
    Carried carry (x :: later) trace ↔
      ∃ first rest, Runs (carry x.request) first x.answer ∧ Carried carry later rest ∧
        trace = first ++ rest := by
  constructor
  · intro h
    cases h with
    | cons hq hlater => exact ⟨_, _, hq, hlater, rfl⟩
  · intro hrun
    obtain ⟨first, rest, hq, hlater, rfl⟩ := hrun
    exact .cons hq hlater

theorem carried_singleton {x : Exchange S} {trace : List (Exchange T)} :
    Carried carry [x] trace ↔ Runs (carry x.request) trace x.answer := by
  rw [carried_cons]
  constructor
  · intro hrun
    obtain ⟨first, _, hx, hnone, rfl⟩ := hrun
    cases hnone
    rwa [List.append_nil]
  · intro hx
    exact ⟨trace, [], hx, .nil, (List.append_nil _).symm⟩

/-- Requests that are passed on as they are leave the same exchanges behind. -/
theorem carried_map {of : Exchange S → Exchange T} {asked : List (Exchange S)}
    {trace : List (Exchange T)}
    (h : ∀ x ∈ asked, ∀ first, Runs (carry x.request) first x.answer ↔ first = [of x]) :
    Carried carry asked trace ↔ trace = asked.map of := by
  induction asked generalizing trace with
  | nil =>
    constructor
    · intro hcarried
      cases hcarried
      rfl
    · intro hrun
      obtain rfl := hrun
      exact .nil
  | cons x rest ih =>
    obtain ⟨hx, hrest⟩ := List.forall_mem_cons.1 h
    simp only [carried_cons, hx, ih hrest]
    constructor
    · intro hrun
      obtain ⟨_, _, rfl, rfl, rfl⟩ := hrun
      rfl
    · intro hrun
      obtain rfl := hrun
      exact ⟨_, _, rfl, rfl, rfl⟩

/-! ### The laws of carrying out -/

theorem request_through (q : S.Request) : (request q).through carry = carry q :=
  bind_pure (carry q)

theorem through_bind (p : Plan S α) (f : α → Plan S β) :
    (p.bind f).through carry = (p.through carry).bind fun a => (f a).through carry := by
  induction p with
  | done a => rfl
  | note n next ih => rw [bind_note, through, ih, through, bind_note]
  | ask q next ih =>
    rw [bind_ask, through, through, bind_assoc]
    congr
    funext answer
    exact ih answer

/-- Requests that are only passed on change nothing. -/
theorem through_request (p : Plan S α) : p.through request = p := by
  induction p with
  | done a => rfl
  | note n next ih => rw [through, ih]
  | ask q next ih =>
    rw [through, request, bind_ask]
    congr
    funext answer
    exact ih answer

/-- Plans that carry out requests can be carried out in turn. -/
theorem through_through {U : Service} {carry' : (q : T.Request) → Plan U (T.Answer q)}
    (p : Plan S α) :
    (p.through carry).through carry' = p.through fun q => (carry q).through carry' := by
  induction p with
  | done a => rfl
  | note n next ih => rw [through, through, ih, through]
  | ask q next ih =>
    rw [through, through_bind, through]
    congr
    funext answer
    exact ih answer

end Plan

/-! ## Plans that can fail -/

namespace Task

variable {S : Service} {ε ε' α β : Type}

/-- A run of a plan that can fail, with what it comes to. -/
def Runs (t : Task S ε α) (trace : List (Exchange S)) (result : Except ε α) : Prop :=
  Plan.Runs t.run trace result

variable {trace : List (Exchange S)}

theorem runs_pure {a : α} {result : Except ε α} :
    Runs (pure a : Task S ε α) trace result ↔ trace = [] ∧ result = .ok a :=
  Plan.runs_done

theorem runs_throw {e : ε} {result : Except ε α} :
    Runs (throw e : Task S ε α) trace result ↔ trace = [] ∧ result = .error e :=
  Plan.runs_done

/-- A run ends with the first failure, or goes on with what has been found. -/
theorem runs_bind {t : Task S ε α} {f : α → Task S ε β} {result : Except ε β} :
    Runs (t >>= f) trace result ↔
      (∃ e, Runs t trace (.error e) ∧ result = .error e) ∨
      ∃ first a rest, Runs t first (.ok a) ∧ Runs (f a) rest result ∧
        trace = first ++ rest := by
  refine Plan.runs_bind.trans ?_
  constructor
  · intro hrun
    obtain ⟨first, x, rest, ht, h, rfl⟩ := hrun
    cases x with
    | error e =>
      obtain ⟨rfl, rfl⟩ := Plan.runs_done.1 h
      exact .inl ⟨e, by rwa [List.append_nil], rfl⟩
    | ok a => exact .inr ⟨first, a, rest, ht, h, rfl⟩
  · intro hrun
    rcases hrun with ⟨e, ht, rfl⟩ | ⟨first, a, rest, ht, h, rfl⟩
    · exact ⟨trace, .error e, [], ht, .done _, (List.append_nil _).symm⟩
    · exact ⟨first, .ok a, rest, ht, h, rfl⟩

theorem runs_lift {p : Plan S α} {result : Except ε α} :
    Runs (ExceptT.lift p : Task S ε α) trace result ↔
      ∃ a, Plan.Runs p trace a ∧ result = .ok a :=
  Plan.runs_map

theorem runs_notes {ns : List Note} {result : Except ε Unit} :
    Runs (notes ns : Task S ε Unit) trace result ↔ trace = [] ∧ result = .ok () := by
  rw [notes, runs_lift]
  constructor
  · intro hrun
    obtain ⟨u, h, rfl⟩ := hrun
    exact ⟨Plan.runs_notes.1 h, rfl⟩
  · intro hrun
    obtain ⟨h, rfl⟩ := hrun
    exact ⟨(), Plan.runs_notes.2 h, rfl⟩

theorem runs_attempt {wrap : ε' → ε} {p : Plan S (Except ε' α)} {result : Except ε α} :
    Runs (attempt wrap p) trace result ↔
      ∃ found, Plan.Runs p trace found ∧ result = found.mapError wrap :=
  Plan.runs_map

theorem runs_attempt_bind {wrap : ε' → ε} {p : Plan S (Except ε' α)} {f : α → Task S ε β}
    {result : Except ε β} :
    Runs (attempt wrap p >>= f) trace result ↔
      (∃ e, Plan.Runs p trace (.error e) ∧ result = .error (wrap e)) ∨
      ∃ first a rest, Plan.Runs p first (.ok a) ∧ Runs (f a) rest result ∧
        trace = first ++ rest := by
  simp only [runs_bind, runs_attempt]
  constructor
  · intro hrun
    rcases hrun with ⟨e, ⟨found, h, he⟩, rfl⟩ | ⟨first, a, rest, ⟨found, h, ha⟩, hrest, rfl⟩
    · cases found with
      | error e' =>
        cases he
        exact .inl ⟨e', h, rfl⟩
      | ok a => cases he
    · cases found with
      | error e => cases ha
      | ok a' =>
        cases ha
        exact .inr ⟨first, a, rest, h, hrest, rfl⟩
  · intro hrun
    rcases hrun with ⟨e, h, rfl⟩ | ⟨first, a, rest, h, hrest, rfl⟩
    · exact .inl ⟨wrap e, ⟨.error e, h, rfl⟩, rfl⟩
    · exact .inr ⟨first, a, rest, ⟨.ok a, h, rfl⟩, hrest, rfl⟩

theorem runs_adapt_bind {wrap : ε' → ε} {t : Task S ε' α} {f : α → Task S ε β}
    {result : Except ε β} :
    Runs (t.adapt wrap >>= f) trace result ↔
      (∃ e, Runs t trace (.error e) ∧ result = .error (wrap e)) ∨
      ∃ first a rest, Runs t first (.ok a) ∧ Runs (f a) rest result ∧ trace = first ++ rest :=
  runs_attempt_bind

theorem runs_lift_bind {p : Plan S α} {f : α → Task S ε β} {result : Except ε β} :
    Runs ((ExceptT.lift p : Task S ε α) >>= f) trace result ↔
      ∃ first a rest, Plan.Runs p first a ∧ Runs (f a) rest result ∧ trace = first ++ rest := by
  rw [runs_bind]
  constructor
  · intro hrun
    rcases hrun with ⟨e, h, rfl⟩ | ⟨first, a, rest, h, hrest, rfl⟩
    · obtain ⟨a, -, ha⟩ := runs_lift.1 h
      cases ha
    · obtain ⟨a', h, ha⟩ := runs_lift.1 h
      cases ha
      exact ⟨first, a, rest, h, hrest, rfl⟩
  · intro hrun
    obtain ⟨first, a, rest, h, hrest, rfl⟩ := hrun
    exact .inr ⟨first, a, rest, runs_lift.2 ⟨a, h, rfl⟩, hrest, rfl⟩

/-! ### Steps that ask nothing -/

theorem runs_notes_bind {ns : List Note} {f : Unit → Task S ε β} {result : Except ε β} :
    Runs ((notes ns : Task S ε Unit) >>= f) trace result ↔ Runs (f ()) trace result := by
  rw [runs_bind]
  constructor
  · intro hrun
    rcases hrun with ⟨e, h, rfl⟩ | ⟨first, u, rest, h, hrest, rfl⟩
    · cases (runs_notes.1 h).2
    · obtain ⟨rfl, -⟩ := runs_notes.1 h
      exact hrest
  · intro h
    exact .inr ⟨[], (), trace, runs_notes.2 ⟨rfl, rfl⟩, h, rfl⟩

theorem runs_print_bind {lines : List Line} {f : Unit → Task S ε β} {result : Except ε β} :
    Runs ((print lines : Task S ε Unit) >>= f) trace result ↔ Runs (f ()) trace result :=
  runs_notes_bind

theorem runs_ok_bind {wrap : ε' → ε} {a : α} {f : α → Task S ε β} {result : Except ε β} :
    Runs ((fromExcept wrap (.ok a) : Task S ε α) >>= f) trace result ↔
      Runs (f a) trace result :=
  Iff.rfl

theorem runs_error_bind {wrap : ε' → ε} {e : ε'} {f : α → Task S ε β} {result : Except ε β} :
    Runs ((fromExcept wrap (.error e) : Task S ε α) >>= f) trace result ↔
      trace = [] ∧ result = .error (wrap e) :=
  Plan.runs_done

/-- A plan that goes on without asking anything makes the exchanges of its first part. -/
theorem runs_bind_silent {t : Task S ε α} {f : α → Task S ε β} {g : α → Except ε β}
    (hf : ∀ a rest result, Runs (f a) rest result ↔ rest = [] ∧ result = g a)
    {result : Except ε β} :
    Runs (t >>= f) trace result ↔ ∃ found, Runs t trace found ∧ result = found.bind g := by
  rw [runs_bind]
  constructor
  · intro hrun
    rcases hrun with ⟨e, h, rfl⟩ | ⟨first, a, rest, h, hrest, rfl⟩
    · exact ⟨.error e, h, rfl⟩
    · obtain ⟨rfl, rfl⟩ := (hf a rest result).1 hrest
      exact ⟨.ok a, by rwa [List.append_nil], rfl⟩
  · intro hrun
    obtain ⟨found, h, rfl⟩ := hrun
    cases found with
    | error e => exact .inl ⟨e, h, rfl⟩
    | ok a => exact .inr ⟨trace, a, [], h, (hf a [] _).2 ⟨rfl, rfl⟩, (List.append_nil _).symm⟩

end Task

end AppDeploy
