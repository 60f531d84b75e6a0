/-!
# Where the application's output goes

The application's output lines print straight to the terminal, standard output or standard
error as they came, until a session attaches a printer that writes around its prompt; from then
on every line of either stream goes to the printer, until it is detached.
-/

namespace LiveSession.Supervisor

/-- The sink of the application's output lines: whether a printer is attached. -/
structure AppOutput where
  attached : Bool := false
  deriving DecidableEq, Repr

/-- Where one line ends up. -/
inductive Route where
  /-- The attached printer. -/
  | printer
  /-- The terminal's standard output. -/
  | stdout
  /-- The terminal's standard error. -/
  | stderr
  deriving DecidableEq, Repr

namespace AppOutput

/-- Routes every following line through a printer. -/
def attach (_ : AppOutput) : AppOutput := ⟨true⟩

/-- Goes back to printing on the terminal. -/
def detach (_ : AppOutput) : AppOutput := ⟨false⟩

/-- Where a line of standard output (or of standard error) goes. -/
def route (o : AppOutput) (toStderr : Bool) : Route :=
  if o.attached then .printer else if toStderr then .stderr else .stdout

/-- The sink as its debug text shows it. -/
def debugText (o : AppOutput) : String :=
  "AppOutput \x7b attached: " ++ (if o.attached then "true" else "false") ++ " \x7d"

end AppOutput

end LiveSession.Supervisor
