import LiveSession.Api.Codec
import LiveSession.Context
import LiveSession.Compile.Event
import LiveSession.Scaffold.ImportPath
import LiveSession.Supervisor.Launch
import LiveSession.Supervisor.Error
import LiveSession.Supervisor.Output
/-!
# Requests on names, paths, templates and messages

The operations that need no files: reading integration names, building session contexts,
rendering templates, computing import paths, framing and classifying protocol lines, reading
compile events, stepping the launch guard, and showing errors.
-/

namespace LiveSession.Api

open LiveSession.Json LiveSession.Rpc LiveSession.Scaffold LiveSession.Supervisor

/-- An integration's description. -/
def integrationJson (i : Integration) : Value :=
  obj [("label", .str i.label), ("display", .str i.label),
    ("requires_composition_root", .bool i.requiresCompositionRoot),
    ("is_supported", .bool i.isSupported), ("serde", .str i.label)]

/-- `integration`: reads an integration name. -/
def integrationOp (req : Value) : Answer := do
  let input ← reqStr req "input"
  match Integration.parse input with
  | .ok i => .ok (integrationJson i)
  | .error m => .error (errorWith "parse" m)

/-- A context's description. -/
def contextJson (c : Context) : Value :=
  let l := c.layout
  obj [("working_directory", .str c.workingDirectory), ("integration", .str c.integration.label),
    ("composition_root", Value.optStr c.compositionRoot), ("env_file", Value.optStr c.envFile),
    ("assets_dir", .str c.assetsDir),
    ("layout", obj [("dir", .str l.dir), ("bridge_source", .str l.bridgeSource),
      ("bridge_scope", .str l.bridgeScope), ("type_decl", .str l.typeDecl)])]

/-- The context error object. -/
def contextError (m : String) : Value := errorWith "context" (SessionError.context m).display

/-- `context`: builds a session context. -/
def contextOp (req : Value) : Answer := do
  let wd ← reqStr req "working_directory"
  let integ ← reqStr req "integration"
  match Integration.parse integ with
  | .error m => .error (errorWith "parse" m)
  | .ok i =>
    match Context.make wd i (optStr req "composition_root") (optStr req "env_file")
        (strOr req "assets_dir" "/assets") with
    | .ok c => .ok (contextJson c)
    | .error m => .error (contextError m)

/-- The string variables of a request. -/
def varsOf (v : Value) : List (String × String) :=
  match v with
  | .obj ms => ms.filterMap fun (k, x) => match x with
    | .str s => some (k, s)
    | _ => none
  | _ => []

/-- `render`: fills a template. -/
def renderOp (req : Value) : Answer := do
  let template ← reqStr req "template"
  match render template (varsOf (req.get? "vars" |>.getD .null)) with
  | .ok s => .ok (.str s)
  | .error u => .error (synthesisJson (.unknownVariable u.name u.offset))

/-- `import_path`: the relative import of a target. -/
def importPathOp (req : Value) : Answer := do
  let fromDir ← reqStr req "from_dir"
  let target ← reqStr req "target"
  .ok (.str (importPath fromDir target))

/-- `render_bridge`: fills the bridge template for a working directory. -/
def renderBridgeOp (req : Value) : Answer := do
  let wd ← reqStr req "working_directory"
  let template ← reqStr req "template"
  let root ← reqStr req "composition_root"
  match renderBridge template (.ofWorkingDirectory wd) root with
  | .ok b => .ok (obj [("rendered", .str b.rendered), ("symbol", .str b.symbol),
      ("import_path", .str b.importPath), ("symbol_fn", .str (compositionRootSymbol root))])
  | .error e => .error (synthesisJson e)

/-- An error object of a response in answer form, with its display. -/
def rpcErrorJson (e : RpcError) : Value :=
  .obj ([("code", Value.int e.code), ("message", .str e.message)] ++ withOpt "data" e.data ++
    [("display", .str e.display)])

/-- A compile event in answer form, `null` for none. -/
def eventJson : Option Compile.Event → Value
  | some e => e.toJson
  | none => .null

/-- `parse_line`: classifies a line. -/
def parseLineOp (req : Value) : Answer := do
  let line ← reqStr req "line"
  match classifyLine line with
  | .output t => .ok (obj [("kind", .str "output"), ("text", .str t)])
  | .malformed raw reason =>
    .ok (obj [("kind", .str "malformed"), ("raw", .str raw), ("reason", .str reason)])
  | .message (.response r) =>
    let res := match r.outcome with
      | .ok v => obj [("ok", v)]
      | .error e => obj [("err", rpcErrorJson e)]
    .ok (obj [("kind", .str "response"), ("id", Value.nat r.id),
      ("framed", .str (frameLine r.toJson)), ("into_result", res)])
  | .message (.notification n) =>
    .ok (obj [("kind", .str "notification"), ("method", .str n.method),
      ("framed", .str (frameLine n.toJson)),
      ("compile_event", eventJson (Compile.Event.ofNotification n))])

/-- A decoded message framed, or the decoding error. -/
def framedOr (r : Except DecodeError Value) : Answer :=
  match r with
  | .ok v => .ok (.str (frameLine v))
  | .error e => .error (errorWith "decode" e.text)

/-- `frame`: frames a message. -/
def frameOp (req : Value) : Answer := do
  let ty := strOr req "type" ""
  if ty == "new_request" then
    let id ← reqNat req "id"
    let method ← reqStr req "method"
    .ok (.str (frameLine (Request.new id method (req.get? "params")).toJson))
  else if ty == "new_notification" then
    let method ← reqStr req "method"
    .ok (.str (frameLine (Notification.new method (req.get? "params")).toJson))
  else
    let msg := (req.get? "message").getD .null
    if ty == "request" then framedOr ((Request.decode msg).map Request.toJson)
    else if ty == "notification" then framedOr ((Notification.decode msg).map Notification.toJson)
    else if ty == "response" then framedOr ((Response.decode msg).map Response.toJson)
    else .error (badInput "unknown frame type")

/-- `compile_event`: the compile event of a notification. -/
def compileEventOp (req : Value) : Answer := do
  let method ← reqStr req "method"
  .ok (eventJson (Compile.Event.ofNotification (Notification.new method (req.get? "params"))))

/-- One launch-guard step and its report. -/
def guardStep (s : LaunchState) (step : Value) : LaunchState × Value :=
  match step with
  | .str "try_begin" =>
    let (s', won) := s.tryBegin
    (s', obj [("won", .bool won), ("state", .str s'.label)])
  | .str "finish" => (s.finish, obj [("state", .str s.finish.label)])
  | _ => (s, obj [("state", .str s.label)])

/-- `launch_guard`: steps a fresh launch guard. -/
def launchGuardOp (req : Value) : Answer := do
  let steps ← reqArr req "steps"
  let (_, out) := steps.foldl (fun (s, acc) st =>
    let (s', r) := guardStep s st
    (s', acc ++ [r])) (LaunchState.notStarted, [])
  .ok (.arr out)

/-- A supervisor error in answer form, with the session error it becomes. -/
def supervisorErrorDomain (e : SupervisorError) : Value :=
  let d := e.toSession
  obj [("display", .str e.display),
    ("domain", obj [("kind", .str d.kind), ("display", .str d.display)])]

/-- The supervisor error a request describes. -/
def supervisorErrorOf (req : Value) (variant : String) : Except Value SupervisorError :=
  let msg := strOr req "message" ""
  if variant == "ArtifactMissing" then .ok (.launch (.artifactMissing (strOr req "path" "")))
  else if variant == "Spawn" then .ok (.launch (.spawn msg))
  else if variant == "ApplicationNotFound" then
    .ok (.launch (.applicationNotFound (natOr req "waited_ms" 0)))
  else if variant == "WatchStart" then .ok (.watchStart msg)
  else if variant == "CompileFatal" then .ok (.compileFatal msg)
  else if variant == "WatchEnded" then .ok .watchEnded
  else if variant == "AlreadyStarted" then .ok .alreadyStarted
  else .error (badInput ("unknown supervisor variant `" ++ variant ++ "`"))

/-- The container error a request describes. -/
def containerErrorOf (variant msg : String) : ContainerError :=
  if variant == "NotRegistered" then .notRegistered msg
  else if variant == "Introspection" then .introspection msg
  else if variant == "Evaluation" then .evaluation msg
  else .bridge msg

/-- The preflight error a request describes. -/
def preflightErrorOf (req : Value) (variant : String) : Except Value PreflightError :=
  let path := strOr req "path" ""
  if variant == "MissingDependencies" then
    .ok (.missingDependencies (strOr req "framework" "NestJS")
      (((req.getArr? "missing").getD []).filterMap fun v => match v with
        | .str s => some s
        | _ => none))
  else if variant == "EnvFileMissing" then .ok (.envFileMissing path)
  else if variant == "EnvFileInvalid" then .ok (.envFileInvalid path (strOr req "message" ""))
  else if variant == "WorkingDirectoryMissing" then .ok (.workingDirectoryMissing path)
  else .error (badInput ("unknown preflight variant `" ++ variant ++ "`"))

/-- The synthesis error a request describes. -/
def synthesisErrorOf (req : Value) (variant : String) : Except Value SynthesisError :=
  let path := strOr req "path" ""
  let msg := strOr req "message" ""
  if variant == "TemplateNotFound" then .ok (.templateNotFound path)
  else if variant == "AssetNotFound" then .ok (.assetNotFound path)
  else if variant == "UnknownVariable" then
    .ok (.unknownVariable (strOr req "name" "") (natOr req "offset" 0))
  else if variant == "CompositionRootMissing" then .ok (.compositionRootMissing path)
  else if variant == "Write" then .ok (.write path msg)
  else if variant == "Read" then .ok (.read path msg)
  else .error (badInput ("unknown synthesis variant `" ++ variant ++ "`"))

/-- `error`: builds an error and shows it. -/
def errorOp (req : Value) : Answer := do
  let ty ← reqStr req "type"
  let variant := strOr req "variant" ""
  let msg := strOr req "message" ""
  if ty == "domain" then
    let e := SessionError.ofKind variant msg
    .ok (obj [("kind", .str e.kind), ("display", .str e.display)])
  else if ty == "supervisor" then
    let e ← supervisorErrorOf req variant
    .ok (supervisorErrorDomain e)
  else if ty == "preflight" then
    let e ← preflightErrorOf req variant
    .ok (preflightJson e)
  else if ty == "synthesis" then
    let e ← synthesisErrorOf req variant
    .ok (synthesisJson e)
  else if ty == "container" then
    .ok (obj [("display", .str (containerErrorOf variant msg).display)])
  else if ty == "jsonrpc" then
    let code ← reqInt req "code"
    .ok (rpcErrorJson ⟨code, msg, req.get? "data"⟩)
  else if ty == "patch_warning" then
    .ok (obj [("display", .str (strOr req "path" "" ++ ": " ++ msg))])
  else if ty == "start_failed" then
    .ok (obj [("summary", .str ("Failed to start: " ++ msg)), ("started", .bool false)])
  else if ty == "panic_message" then
    .ok (.str (if variant == "str" then "static str payload"
      else if variant == "string" then msg else "unknown panic"))
  else .error (badInput ("unknown error type `" ++ ty ++ "`"))

/-- One step on an application output sink, with its answer. -/
def appOutputStep (o : AppOutput) (step : Value) : Except Value (AppOutput × Value) := do
  let act ← reqStr step "do"
  let lineAnswer (toStderr : Bool) : Except Value (AppOutput × Value) := do
    let line ← reqStr step "line"
    let (p, out, err) := match o.route toStderr with
      | .printer => ([line], "", "")
      | .stdout => ([], line ++ "\n", "")
      | .stderr => ([], "", line ++ "\n")
    pure (o, obj [("printer", Value.strs p), ("stdout", .str out), ("stderr", .str err)])
  match act with
  | "attach" => let o := o.attach; pure (o, obj [("attached", .bool o.attached)])
  | "detach" => let o := o.detach; pure (o, obj [("attached", .bool o.attached)])
  | "is_attached" => pure (o, .bool o.attached)
  | "debug" => pure (o, .str o.debugText)
  | "stdout" => lineAnswer false
  | "stderr" => lineAnswer true
  | other => throw (badInput ("unknown app_output step `" ++ other ++ "`"))

/-- `app_output`: steps a fresh application output sink. -/
def appOutputOp (req : Value) : Answer := do
  let steps ← reqArr req "steps"
  let (_, out) ← steps.foldlM (fun (o, acc) st => do
    let (o, r) ← appOutputStep o st
    pure (o, acc ++ [r])) (({} : AppOutput), ([] : List Value))
  .ok (.arr out)

end LiveSession.Api
