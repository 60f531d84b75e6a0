import LiveSession.Api.Bridge
import LiveSession.Cli.Start
/-!
# Start requests

A `start` request starts a session on a project at `$ROOT/project` with assets at
`$ROOT/assets`. With the default toolchain the watch and the runner are given as data, as in a
`supervisor` request: the compile events are queued before the start and the sender is dropped
unless the request keeps it. With the node toolchain the watch runs a scripted driver, which
may also place a scripted application as the built artifact, and the runner executes it; after
a successful start the request's console steps run on the launched session, which is then closed.
-/

namespace LiveSession.Api

open LiveSession.Json LiveSession.Config LiveSession.Files LiveSession.Supervisor
  LiveSession.Session LiveSession.Cli LiveSession.Compile

/-- The outcome of a start call that never answers. -/
def unansweredJson : List (String × Value) := [("timeout", .bool true)]

/-- A start outcome in answer form, with the supervisor's state after a successful start. -/
def outcomeJson {h : Type} (o : StartOutcome) (w : World h) : List (String × Value) :=
  match o with
  | .started => [("started", .bool true), ("summary", .str o.summary),
      ("phase", .str w.phase.label), ("status", .str w.status.label),
      ("generation", Value.nat w.generation)]
  | .failed e => [("started", .bool false), ("summary", .str o.summary),
      ("kind", .str e.kind), ("message", .str e.display)]

/-- The configuration a request gives as TOML, the defaults when it gives none. -/
def configOfRequest (req : Value) : Except Value Config :=
  match req.get? "config" with
  | some (.str text) => match fromToml text with
    | some c => .ok c
    | none => .error configError
  | _ => .ok {}

/-- The compile events a request queues: one clean build unless it lists them. -/
def eventsOf (req : Value) : List Event :=
  match req.getArr? "events" with
  | some es => es.map eventOf
  | none => [.succeeded none []]

/-- A start with the default toolchain. -/
def fakeStart (req : Value) (c : Config) (t : Tree) (prep : Except SessionError Cli.Prepared) :
    Value :=
  let project := listing t projectDir
  match prep with
  | .error e =>
    obj [("outcome", obj (outcomeJson (.failed e) (World.initial : World Unit))),
      ("watch_config", .null), ("artifact", .null), ("env", .null),
      ("executions", Value.nat 0), ("shutdowns", Value.nat 0), ("launches", Value.nat 0),
      ("project", project)]
  | .ok p =>
    let runner := (req.get? "runner").getD (.obj [])
    let artifact := p.watch.artifactPath
    let env : Env Unit := ⟨c.launch.handleWaitMs, artifact,
      (req.get? "compiler").bind (·.getStr? "fail"),
      if boolOr runner "missing" false then .error (.artifactMissing artifact)
      else .ok (publishedBy runner)⟩
    let w := superviseStart env (eventsOf req) (boolOr req "end_events" true)
    let outcome := match startOutcome w with
      | some o => outcomeJson o w
      | none => unansweredJson
    obj [("outcome", obj outcome), ("watch_config", p.watch.toJson),
      ("artifact", if w.executions > 0 then .str artifact else .null),
      ("env", .arr (p.env.map fun (k, v) => .arr [.str k, .str v])),
      ("executions", Value.nat w.executions), ("shutdowns", Value.nat w.shutdowns),
      ("launches", Value.nat w.launches), ("project", project)]

/-- The project listing of a node-toolchain start: without installed packages and without the
built artifact. -/
def nodeProjectListing (t : Tree) : Value :=
  match listing t projectDir with
  | .obj ms => .obj (ms.filter fun (k, _) =>
      !k.startsWith "node_modules" && k != Path.join scratchDirName artifactFile)
  | v => v

/-- A start with the node toolchain and scripted programs. -/
def nodeStart (req : Value) (c : Config) (t : Tree) (prep : Except SessionError Cli.Prepared) :
    Value :=
  match prep with
  | .error e =>
    obj [("outcome", obj (outcomeJson (.failed e) (World.initial : World Nat))),
      ("steps", .arr []), ("launches", Value.nat 0), ("output", .arr []),
      ("project", nodeProjectListing t)]
  | .ok p =>
    let script := (req.get? "script").getD (.obj [])
    let lines := Scripted.linesOf (script.get? "lines")
    let app := Scripted.scriptedApp ((script.get? "app_spec").getD (.obj []))
    let node := c.build.node
    let t := t.put (driverPath assetsDir) (.file "// scripted watch driver".toUTF8.toList)
    let artifact := p.watch.artifactPath
    let t := if boolOr script "artifact" false then
        t.put artifact (.file "// scripted application".toUTF8.toList)
      else t
    let watchFailure := match startWatch t assetsDir node (nodeRuns node) with
      | .error (.watchStart m) => some m
      | _ => none
    let run := Scripted.driverRun (configLine p.watch) lines
    let s : RunnerSettings :=
      ⟨c.session.echoAppOutput, c.launch.requestTimeoutMs, nodeRuns node⟩
    let (booted, res) := ({} : Runner).execute s app t artifact
    let env : Env Nat := ⟨c.launch.handleWaitMs, artifact, watchFailure,
      match res with
      | .error e => .error e
      | .ok () => .ok booted.slot⟩
    let w := superviseStart env (driverEvents run) run.exits
    let r := if w.executions > 0 then booted else {}
    let r := if w.shutdowns > 0 then r.shutdown else { r with slot := w.slot }
    match startOutcome w with
    | none =>
      obj [("outcome", obj unansweredJson), ("steps", .arr []),
        ("launches", Value.nat w.launches), ("output", Value.strs r.echoed),
        ("project", nodeProjectListing t)]
    | some (.failed e) =>
      obj [("outcome", obj (outcomeJson (.failed e) w)), ("steps", .arr []),
        ("launches", Value.nat w.launches), ("output", Value.strs r.echoed),
        ("project", nodeProjectListing t)]
    | some .started =>
      let o := StartOutcome.started
      let probe : StateM Runner Status := fun r =>
        (statusOf w.phase (r.slot.map (·.generation)) w.reload, r)
      let console : Console (StateM Runner) Nat := { Runner.console s app with probe := some probe }
      let steps := (req.getArr? "steps").getD []
      let (r, out) := steps.foldl (fun (r, acc) st =>
        match consoleStep console st with
        | some m => let (v, r) := m.run r; (r, acc ++ [v])
        | none => (r, acc ++ [badInput ("unknown step `" ++ strOr st "do" "" ++ "`")]))
        (r, ([] : List Value))
      let closed := { w with slot := r.slot }.close env
      let r := r.shutdown
      obj [("outcome", obj (outcomeJson o w ++ [("phase_after_close", .str closed.phase.label)])),
        ("steps", .arr out), ("launches", Value.nat w.launches), ("output", Value.strs r.echoed),
        ("project", nodeProjectListing t)]

/-- `start`: starts a session on a project under the root. -/
def startOp (req : Value) : Answer := do
  let c ← configOfRequest req
  let integration ← integrationOf req
  let ctx ← match Context.make projectDir integration (req.getStr? "main_module")
      (req.getStr? "env_file") assetsDir with
    | .ok ctx => pure ctx
    | .error m => throw (contextError m)
  let (t, prep) := prepare (projectTree req) ctx c
  if strOr req "toolchain" "fake" == "node" then .ok (nodeStart req c t prep)
  else .ok (fakeStart req c t prep)

end LiveSession.Api
