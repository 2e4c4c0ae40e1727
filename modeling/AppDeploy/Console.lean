import AppDeploy.Json.Text
import AppDeploy.Time.Span

/-! What a user is shown: headings, details, remarks and results, as lines of text or as
one JSON object a line. -/
namespace AppDeploy

/-- How much is shown, and in which form. -/
inductive ConsoleMode where
  | normal
  | quiet
  | json
deriving DecidableEq, Repr

inductive Stream where
  | out
  | err
deriving DecidableEq, Repr

/-- A line printed on a stream. -/
structure Line where
  stream : Stream
  text : String
deriving DecidableEq, Repr

structure Console where
  mode : ConsoleMode
deriving DecidableEq, Repr

namespace Console

def outLine (text : String) : List Line := [⟨.out, text⟩]
def errLine (text : String) : List Line := [⟨.err, text⟩]

/-- The seconds of a span as a double. -/
def secondsOf (elapsed : Span) : Binary64 :=
  .ofRatio false elapsed.nanoseconds 1000000000

/-- An event as a JSON object of one line. -/
def eventText (event message : String) (elapsed : Option Span) : String :=
  Json.text <| .obj <|
    [("event", .str event), ("message", .str message)] ++
    Json.optional "duration_secs" (elapsed.map fun d => .num (.real (secondsOf d)))

/-- The heading of a stage. -/
def progress (c : Console) (message : String) : List Line :=
  if c.mode = .normal then outLine s!"==> {message}" else []

/-- A detail under the heading of its stage. -/
def detail (c : Console) (message : String) : List Line :=
  if c.mode = .normal then outLine s!"  {message}" else []

/-- A remark that is no error. -/
def warning (c : Console) (message : String) : List Line :=
  match c.mode with
  | .normal | .quiet => errLine s!"WARN {message}"
  | .json => outLine (eventText "warning" message none)

/-- A result, with the time it took if that was measured. -/
def success (c : Console) (message : String) (elapsed : Option Span) : List Line :=
  match c.mode with
  | .normal =>
    match elapsed.filter (0 < ·.nanoseconds) with
    | some d =>
      let seconds := (secondsOf d).fixed 1
      outLine s!"{message} ({seconds}s)"
    | none => outLine message
  | .quiet => outLine message
  | .json => outLine (eventText "success" message elapsed)

def error (c : Console) (message : String) (elapsed : Option Span) : List Line :=
  match c.mode with
  | .normal | .quiet => errLine s!"Error: {message}"
  | .json => errLine (eventText "error" message elapsed)

end Console

end AppDeploy
