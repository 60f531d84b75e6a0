import LiveSession.Api.Session
import LiveSession.Supervisor.Machine
/-!
# Supervisor requests

A `supervisor` request drives one supervisor through steps. Its collaborators are given as data:
the watch either fails with a message or hands over its events, the runner either finds no
artifact or publishes a given application (a container that knows no tokens), and the launcher
keeps the session console it is given. After every step ten milliseconds of virtual time pass,
and the step is reported with the supervisor's phase, status, slot and counters.
-/

namespace LiveSession.Api

open LiveSession.Json LiveSession.Session LiveSession.Supervisor

/-- The artifact of the fixed watch configuration. -/
def fixedArtifact : String := "/p/.nirvana/hmrEntryBundle.js"

/-- How a container that knows no tokens answers. -/
def emptyAnswer : (c : Command) → Outcome c.Answer
  | .get token => .err (.notRegistered token)
  | .tokens => .err (.introspection "this application does not expose its registry")
  | .eval _ => .err (.evaluation "this application does not support evaluation")
  | .describe => .ok .null

/-- The application a runner publishes, as given: absent means the default one, `null` none. -/
def publishedBy (runner : Value) : Option (LiveApp Unit) :=
  match runner.get? "publish" with
  | none => some ⟨1, "AppModule", ()⟩
  | some .null => none
  | some p => some ⟨natOr p "generation" 1, strOr p "module" "AppModule", ()⟩

/-- The collaborators a request describes. -/
def supervisorEnv (req : Value) : Env Unit :=
  let runner := (req.get? "runner").getD (.obj [])
  ⟨natOr req "handle_wait_ms" 1000, fixedArtifact,
   (req.get? "compiler").bind (·.getStr? "fail"),
   if boolOr runner "missing" false then .error (.artifactMissing fixedArtifact)
   else .ok (publishedBy runner)⟩

/-- A compile event as a request gives it. -/
def eventOf (v : Value) : Compile.Event :=
  let strList (k : String) : List String :=
    ((v.getArr? k).getD []).filterMap fun x => match x with
      | .str s => some s
      | _ => none
  let ty := strOr v "type" ""
  if ty == "fatal" then .fatal (strOr v "message" "")
  else if ty == "diagnostics" then .diagnostics (strList "errors") (strList "warnings")
  else .succeeded (v.getStr? "hash") (strList "warnings")

/-- A supervisor error in answer form. -/
def supervisorErrorJson (e : SupervisorError) : Value :=
  obj [("error", .str e.variant), ("message", .str e.display)]

/-- A start result in answer form. -/
def startResultJson : StartResult → Value
  | .pending => .str "pending"
  | .ok => .str "ok"
  | .failed e => supervisorErrorJson e

/-- The session console the launcher was given. -/
def launchedConsole (w : World Unit) : Console Id Unit :=
  ⟨⟨pure w.slot, fun _ c => pure (emptyAnswer c)⟩, some (pure w.status)⟩

/-- The scripted compiler's event channel holds this many events; its sends do not wait, and one
more is refused as full. -/
def scriptedCapacity : Nat := 256

/-- Runs one step's action. A close step awaits the whole call. -/
def supervisorAction (env : Env Unit) (w : World Unit) (step : Value) : World Unit × Value :=
  let what := strOr step "do" ""
  if what == "event" then
    let (w, r) := w.offer scriptedCapacity (eventOf ((step.get? "event").getD .null))
    (w, .str r.label)
  else if what == "start" then (w.start env, .null)
  else if what == "end_events" then (w.perform env .endEvents, .null)
  else if what == "close" then (w.close env, .null)
  else if what == "wait" then (w.perform env (.wait (natOr step "ms" 0)), .null)
  else if what == "publish" then
    let app : LiveApp Unit := ⟨natOr step "generation" 1, strOr step "module" "AppModule", ()⟩
    (w.perform env (.publish app), .str (if w.writer then "published" else "no_writer"))
  else if what == "clear" then
    (w.perform env .clear, .str (if w.writer then "cleared" else "no_writer"))
  else if !w.launched then (w, .str "no_session")
  else match consoleStep (launchedConsole w) step with
    | some r => (w, Id.run r)
    | none => (w, badInput ("unknown step `" ++ what ++ "`"))

/-- A step's report. -/
def supervisorReport (w : World Unit) (result : Value) : Value :=
  obj [("result", result), ("phase", .str w.phase.label), ("status", .str w.status.label),
    ("generation", Value.nat w.generation), ("populated", .bool w.slot.isSome),
    ("watches", Value.nat w.watches), ("cancelled", .bool w.cancelled),
    ("executions", Value.nat w.executions), ("shutdowns", Value.nat w.shutdowns),
    ("launches", Value.nat w.launches), ("starts", .arr (w.starts.map startResultJson))]

/-- `supervisor`: drives a supervisor through steps. -/
def supervisorOp (req : Value) : Answer := do
  let steps ← reqArr req "steps"
  let env := supervisorEnv req
  let (_, out) := steps.foldl (fun (w, acc) st =>
    let (w, r) := supervisorAction env w st
    let w := w.perform env (.wait 10)
    (w, acc ++ [supervisorReport w r])) ((World.initial : World Unit), [])
  .ok (.arr out)

end LiveSession.Api
