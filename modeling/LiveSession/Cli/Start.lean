import LiveSession.Scaffold.Synthesis
import LiveSession.Scaffold.Preflight
import LiveSession.Scaffold.EnvFile
import LiveSession.Scaffold.Patch
import LiveSession.Compile.WatchConfig
import LiveSession.Supervisor.Machine
/-!
# Starting a session

`start` runs one session from the checks to the first launch, each step stopping the run on its
error:

1. the configuration must have no error-level issue (the errors are joined into one message);
2. the integration must be supported;
3. the framework's packages must be installed in the working directory;
4. the env file, when one is given, must load;
5. the bridge is synthesized into the scratch directory;
6. `tsconfig.json` and `.gitignore` are patched (their warnings never stop the run);
7. the supervisor is started on the watch configuration and the start waits for its answer.

The outcome is shown as one summary line.
-/

namespace LiveSession.Cli

open LiveSession.Config LiveSession.Files LiveSession.Scaffold LiveSession.Supervisor

/-- Refuses a configuration with error-level issues, naming them all. -/
def checkConfig (c : Config) : Except SessionError Unit :=
  match errorsOf c.validate with
  | [] => .ok ()
  | errs => .error (.config ("; ".intercalate (errs.map fun i => i.field ++ ": " ++ i.message)))

/-- What the steps before the supervisor hand over: the env pairs for the application and the
watch configuration. -/
structure Prepared where
  env : List (String × String)
  watch : Compile.WatchConfig
  deriving DecidableEq, Repr

/-- Runs the steps before the supervisor, giving the tree they leave. -/
def prepare (t : Tree) (ctx : Context) (c : Config) : Tree × Except SessionError Prepared :=
  match checkConfig c with
  | .error e => (t, .error e)
  | .ok () =>
    if !ctx.integration.isSupported then
      (t, .error (.unsupported ("integration `" ++ ctx.integration.label ++ "` is not supported")))
    else match validateDependencies t ctx.workingDirectory ctx.integration with
    | .error e => (t, .error e.toSession)
    | .ok () =>
      match loadOptionalEnvFile t ctx.envFile with
      | .error e => (t, .error e.toSession)
      | .ok env =>
        match synthesize t ctx with
        | (t, .error e) => (t, .error e.toSession)
        | (t, .ok _) =>
          let (t, _) := patchProject t ctx.workingDirectory
          (t, .ok ⟨env, Compile.WatchConfig.forSession t ctx c.build⟩)

/-- How a start ended. -/
inductive StartOutcome where
  | started
  | failed (e : SessionError)
  deriving DecidableEq, Repr

/-- The one line shown for the outcome. -/
def StartOutcome.summary : StartOutcome → String
  | .started => "NestJS application started with hot reload"
  | .failed e => "Failed to start: " ++ e.display

/-- Starts the supervisor with the events the watch will have sent (and the sender gone when
`endEvents`), letting virtual time pass until the start call is answered. -/
def superviseStart {h : Type} (env : Env h) (events : List Compile.Event) (endEvents : Bool) :
    World h :=
  let w := events.foldl (fun w e => (w.send e).1) (World.initial : World h)
  let w := if endEvents then { w with senderOpen := false } else w
  ((w.start env).settle env).expire env

/-- The outcome of the supervisor's start call; none while the call is still waiting, as it
does for good when the watch stays open without a clean build. -/
def startOutcome {h : Type} (w : World h) : Option StartOutcome :=
  match w.starts.head? with
  | some .ok => some .started
  | some (.failed e) => some (.failed e.toSession)
  | _ => none

end LiveSession.Cli
