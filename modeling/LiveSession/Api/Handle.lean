import LiveSession.Json.Read
import LiveSession.Api.Basic
import LiveSession.Api.Session
import LiveSession.Api.Supervisor
import LiveSession.Api.Config
import LiveSession.Api.Scaffold
import LiveSession.Api.Watch
import LiveSession.Api.Doctor
import LiveSession.Api.Bridge
import LiveSession.Api.Start
/-!
# Dispatching requests

`handleLine` reads one request line, runs the operation it names and gives the answer line.
-/

namespace LiveSession.Api

open LiveSession.Json

/-- The operations by name. -/
def operations : List (String × (Value → Answer)) :=
  [("integration", integrationOp), ("context", contextOp), ("render", renderOp),
   ("import_path", importPathOp), ("render_bridge", renderBridgeOp),
   ("parse_line", parseLineOp), ("frame", frameOp), ("compile_event", compileEventOp),
   ("launch_guard", launchGuardOp), ("error", errorOp), ("session", sessionOp),
   ("supervisor", supervisorOp), ("config", configOp),
   ("load_config", loadConfigOp), ("config_cli", configCliOp),
   ("preflight", preflightOp), ("discover", discoverOp), ("env", envOp), ("patch", patchOp), ("watch_config", watchConfigOp), ("app_output", appOutputOp), ("cli", cliOp), ("doctor", doctorOp), ("watch", watchOp), ("bridge", bridgeOp), ("start", startOp), ("synthesize", synthesizeOp)]

/-- Runs the operation a request names. -/
def handle (req : Value) : Answer :=
  let op := strOr req "op" ""
  match operations.lookup op with
  | some f => f req
  | none => .error (badInput ("unknown op `" ++ op ++ "`"))

/-- The answer line for a request line. -/
def handleLine (line : String) : String :=
  match readValue line with
  | .ok req => (handle req).toJson.compact
  | .error e => (badInput e.text).compact

end LiveSession.Api
