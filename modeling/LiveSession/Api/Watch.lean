import LiveSession.Api.Scaffold
import LiveSession.Compile.WatchConfig
import LiveSession.Compile.Watcher
import LiveSession.Api.Supervisor
import LiveSession.Scripted.Driver
/-!
# Watch requests

`watch_config` builds the watch driver's configuration for a project under the root, or reads
one back from JSON. `watch` starts the watch compiler on a project at `$ROOT/project` with a
scripted driver installed under `$ROOT/assets`, and receives its events.
-/

namespace LiveSession.Api

open LiveSession.Json LiveSession.Files LiveSession.Compile

/-- A watch configuration and where its bundle lands, in answer form. -/
def watchConfigJson (c : WatchConfig) : Value :=
  obj [("config", c.toJson), ("artifact_path", .str c.artifactPath)]

/-- `watch_config`: the configuration for a project under the root with the given build
settings, or the decoding of `json`. -/
def watchConfigOp (req : Value) : Answer :=
  match req.get? "json" with
  | some j => match WatchConfig.decode j with
    | .ok c => .ok (watchConfigJson c)
    | .error e => .error (errorWith "decode" e.text)
  | none =>
    match decodeBuild ((req.get? "build").getD (.obj [])) with
    | .error e => .error (errorWith "decode" e.text)
    | .ok build =>
      let t := plant Tree.empty rootDir ((req.get? "files").getD (.obj []))
      match Context.make rootDir .nestJs (some "src/app.module.ts") none assetsDir with
      | .error m => .error (errorWith "context" m)
      | .ok ctx => .ok (watchConfigJson (WatchConfig.forSession t ctx build))

/-- Whether a node executable of this name runs here. -/
def nodeRuns (node : String) : Bool := node == "node"

/-- `watch`: runs the watch compiler with a scripted driver and collects its events. -/
def watchOp (req : Value) : Answer := do
  let build ← match decodeBuild ((req.get? "build").getD (.obj [])) with
    | .ok b => pure b
    | .error e => throw (errorWith "decode" e.text)
  let lines := (((req.get? "script").getD (.obj [])).getArr? "lines").getD [] |>.filterMap
    fun v => match v with
      | .str s => some s
      | _ => none
  let t := projectTree req
  let t := if boolOr req "driver" true then
      t.put (driverPath assetsDir) (.file "// scripted watch driver".toUTF8.toList)
    else t
  let ctx ← match Context.make projectDir .nestJs (some "src/app.module.ts") none assetsDir with
    | .ok c => pure c
    | .error m => throw (errorWith "context" m)
  let node := strOr req "node" "node"
  match startWatch t assetsDir node (nodeRuns node) with
  | .error e => .ok (obj [("watch", supervisorErrorJson e)])
  | .ok () =>
    let run := Scripted.driverRun (configLine (WatchConfig.forSession t ctx build)) lines
    let (events, closed) := receiveUpTo (driverEvents run) run.exits (natOr req "max_events" 100)
    .ok (obj [("watch", .str "ok"), ("events", .arr (events.map Event.toJson)),
      ("closed", .bool closed), ("after_cancel", .null)])

end LiveSession.Api
