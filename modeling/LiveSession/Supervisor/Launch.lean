/-!
# Launch guard, phases and statuses

The launch guard makes sure the application is launched once: `tryBegin` moves it from
`notStarted` to `launching` and reports whether this call made the move, and `finish` marks it
`launched` whatever the state was. No step leads back to `notStarted`.

A supervisor moves through the phases configuring, watching, launched and terminated, and shows
its user one of the statuses loading, ready, reloading and disconnected.
-/

namespace LiveSession.Supervisor

/-- How far the one launch has got. -/
inductive LaunchState where
  | notStarted
  | launching
  | launched
  deriving DecidableEq, Repr, Inhabited

/-- The state's name. -/
def LaunchState.label : LaunchState → String
  | .notStarted => "NotStarted"
  | .launching => "Launching"
  | .launched => "Launched"

/-- Claims the launch: the new state, and whether this call claimed it. -/
def LaunchState.tryBegin : LaunchState → LaunchState × Bool
  | .notStarted => (.launching, true)
  | s => (s, false)

/-- Marks the launch done. -/
def LaunchState.finish (_ : LaunchState) : LaunchState := .launched

/-- The supervisor's phase. -/
inductive Phase where
  | configuring
  | watching
  | launched
  | terminated
  deriving DecidableEq, Repr, Inhabited

/-- The phase's name. -/
def Phase.label : Phase → String
  | .configuring => "configuring"
  | .watching => "watching"
  | .launched => "launched"
  | .terminated => "terminated"

/-- What the user is shown about the session. -/
inductive Status where
  | loading
  | ready
  | reloading
  | disconnected
  deriving DecidableEq, Repr, Inhabited

/-- The status's name. -/
def Status.label : Status → String
  | .loading => "loading"
  | .ready => "ready"
  | .reloading => "reloading"
  | .disconnected => "disconnected"

end LiveSession.Supervisor
