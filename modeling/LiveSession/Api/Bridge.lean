import LiveSession.Api.Watch
import LiveSession.Scripted.App
/-!
# Bridge requests

A `bridge` request runs the artifact runner on a project at `$ROOT/project` whose built artifact
is a scripted application, and steps it: executing the artifact, waiting for publications,
shutting down, and the session console over the runner's slot. At the end the runner is shut
down. The answer gives each step's result, the application output echoed, and whether the slot
was still populated after the shutdown.
-/

namespace LiveSession.Api

open LiveSession.Json LiveSession.Files LiveSession.Supervisor LiveSession.Session

/-- Where the build puts the artifact, under a project. -/
def artifactPath (project : String) : String :=
  Path.join project (Path.join scratchDirName artifactFile)

/-- A launch error in answer form. -/
def launchErrorJson (e : LaunchError) : Value :=
  obj [("error", .str e.variant), ("message", .str e.display)]

/-- Runs one step of a `bridge` request. -/
def bridgeStep (s : RunnerSettings) (app : AppProcess) (t : Tree) (r : Runner) (step : Value) :
    Runner × Value :=
  let what := strOr step "do" ""
  if what == "execute" then
    let artifact := match step.getStr? "artifact" with
      | some a => Path.join projectDir a
      | none => artifactPath projectDir
    let (r, res) := r.execute s app t artifact
    (r, match res with
      | .ok () => .str "ok"
      | .error e => launchErrorJson e)
  else if what == "wait_ready" || what == "wait_generation" then (r, appJson r.slot)
  else if what == "wait_empty" then (r, obj [("populated", .bool r.slot.isSome)])
  else if what == "shutdown" then
    let r := r.shutdown
    (r, obj [("populated", .bool r.slot.isSome)])
  else match consoleStep (Runner.console s app) step with
    | some m => let (v, r) := m.run r; (r, v)
    | none => (r, badInput ("unknown step `" ++ what ++ "`"))

/-- `bridge`: steps an artifact runner over a scripted application. -/
def bridgeOp (req : Value) : Answer := do
  let steps ← reqArr req "steps"
  let app := Scripted.scriptedApp ((req.get? "app").getD (.obj []))
  let t := (Tree.empty.put rootDir .dir).put projectDir .dir
  let t := if boolOr req "artifact" true then
      t.put (artifactPath projectDir) (.file "// scripted application".toUTF8.toList)
    else t
  let s : RunnerSettings :=
    ⟨boolOr req "echo" true, natOr req "request_timeout_ms" 3000, nodeRuns (strOr req "node" "node")⟩
  let (r, out) := steps.foldl (fun (r, acc) st =>
    let (r, v) := bridgeStep s app t r st
    (r, acc ++ [v])) (({} : Runner), ([] : List Value))
  let r := r.shutdown
  .ok (obj [("steps", .arr out), ("output", Value.strs r.echoed),
    ("populated_after", .bool r.slot.isSome)])

end LiveSession.Api
