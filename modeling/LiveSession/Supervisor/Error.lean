import LiveSession.Error
/-!
# Supervisor and container errors

`LaunchError` says why the built application did not come up, `SupervisorError` why a session
could not start, and `ContainerError` why a request to the running application's container
failed. A supervisor error becomes a session error: a fatal compilation, a watch that could not
start and a watch that stopped early are all compile failures, a launch error is a launch
failure, and a second start is some other error.
-/

namespace LiveSession.Supervisor

/-- Why the built application did not come up. -/
inductive LaunchError where
  | artifactMissing (path : String)
  | spawn (reason : String)
  | applicationNotFound (waitedMs : Nat)
  deriving DecidableEq, Repr

/-- Why a session could not start. -/
inductive SupervisorError where
  | watchStart (message : String)
  | compileFatal (message : String)
  | launch (e : LaunchError)
  | watchEnded
  | alreadyStarted
  deriving DecidableEq, Repr

/-- Why a container request failed. -/
inductive ContainerError where
  | notRegistered (token : String)
  | introspection (message : String)
  | evaluation (message : String)
  | bridge (message : String)
  deriving DecidableEq, Repr

/-- The launch error as shown. -/
def LaunchError.display : LaunchError → String
  | .artifactMissing p => "build artifact not found: " ++ p
  | .spawn r => "failed to start the build artifact: " ++ r
  | .applicationNotFound ms => "NestJS application not found: nothing was published within " ++
      toString ms ++ " ms of starting the build artifact"

/-- The launch error's variant name. -/
def LaunchError.variant : LaunchError → String
  | .artifactMissing _ => "ArtifactMissing"
  | .spawn _ => "Spawn"
  | .applicationNotFound _ => "ApplicationNotFound"

namespace SupervisorError

/-- The error as shown. -/
def display : SupervisorError → String
  | .watchStart m => "could not start the watch compiler: " ++ m
  | .compileFatal m => "compilation failed: " ++ m
  | .launch e => e.display
  | .watchEnded => "watch compiler stopped before the first successful build"
  | .alreadyStarted => "supervisor was already started"

/-- The variant's name, launch errors qualified by their own variant. -/
def variant : SupervisorError → String
  | .watchStart _ => "WatchStart"
  | .compileFatal _ => "CompileFatal"
  | .launch e => "Launch." ++ e.variant
  | .watchEnded => "WatchEnded"
  | .alreadyStarted => "AlreadyStarted"

/-- The session error it becomes. -/
def toSession : SupervisorError → SessionError
  | .compileFatal m => .compileFatal m
  | .watchStart m => .compileFatal m
  | .watchEnded => .compileFatal "watch compiler stopped unexpectedly"
  | .launch e => .launch e.display
  | .alreadyStarted => .other "supervisor was already started"

end SupervisorError

namespace ContainerError

/-- The error as shown. -/
def display : ContainerError → String
  | .notRegistered t => "token `" ++ t ++ "` is not registered in the application container"
  | .introspection m => "container introspection failed: " ++ m
  | .evaluation m => "evaluation failed: " ++ m
  | .bridge m => "application bridge: " ++ m

/-- The variant's name. -/
def variant : ContainerError → String
  | .notRegistered _ => "NotRegistered"
  | .introspection _ => "Introspection"
  | .evaluation _ => "Evaluation"
  | .bridge _ => "Bridge"

end ContainerError

end LiveSession.Supervisor
