import StartOrder.Failure
import StartOrder.Url.Address

/-!
# Reports

What a command tells its user, and how it ends. Results and announcements go to one channel,
warnings and errors to the other, and the lines of either are in the order in which they were said
(`Report.out`, `Report.err`). A report with a trouble ends in the exit code one, and the trouble is
told last.
-/

namespace StartOrder.Command

/-- A line for the user. -/
inductive Message where
  | status (text : String)
  | success (text : String)
  | warning (text : String)
  | error (text : String)
  | blank
  deriving DecidableEq, Repr

/-- A text in a colour. -/
def coloured (colour : Nat) (text : String) : String := s!"\x1b[{colour}m{text}\x1b[0m"

namespace Message

/-- The line of a message on the channel of results, if it goes there. -/
def out? : Message → Option String
  | .status text => some text
  | .success text => some (coloured 32 text)
  | .blank => some ""
  | _ => none

/-- The line of a message on the channel of complaints, if it goes there. -/
def err? : Message → Option String
  | .warning text => some (coloured 33 ("Warning: " ++ text))
  | .error text => some (coloured 31 text)
  | _ => none

end Message

/-- Why a command fails. -/
inductive Trouble where
  | failure (failure : Failure)
  | badEndpoint (text : String) (problem : Url.Problem)

/-- What is said about trouble, with a hint if there is one. -/
def Trouble.text : Trouble → String
  | .failure f => f.withSuggestion
  | .badEndpoint text problem => s!"Invalid API endpoint '{text}': {problem.message}"

/-- What a command tells its user. -/
structure Report where
  messages : List Message := []
  trouble : Option Trouble := none
  requests : List Url := []

/-- Lines as text, each with a break behind it. -/
def linesText (lines : List String) : String := String.join (lines.map (· ++ "\n"))

namespace Report

/-- The exit code. -/
def code (r : Report) : Nat := if r.trouble.isSome then 1 else 0

/-- The text on the channel of results. -/
def out (r : Report) : String := linesText (r.messages.filterMap Message.out?)

/-- The text on the channel of complaints. -/
def err (r : Report) : String :=
  linesText (r.messages.filterMap Message.err? ++
    r.trouble.toList.map fun t => "Error: " ++ t.text)

end Report

end StartOrder.Command
