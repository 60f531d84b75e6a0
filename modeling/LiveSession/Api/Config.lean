import LiveSession.Api.Codec
import LiveSession.Cli.ConfigFile
import LiveSession.Cli.Args
/-!
# Configuration requests

`config` reads TOML and answers with the settings, their issues and the TOML written back;
`load_config` reads the configuration file of a working directory; `config_cli` runs the
`config` subcommands. TOML that cannot be read is the bare error `config`.
-/

namespace LiveSession.Api

open LiveSession.Json LiveSession.Config LiveSession.Files LiveSession.Cli

/-- The working directory of requests that use files. -/
def rootDir : String := "$ROOT"

/-- A configuration in answer form. -/
def configJson (c : Config) : Value :=
  obj [("build", obj [("node", .str c.build.node),
      ("aggregate_timeout_ms", Value.nat c.build.aggregateTimeoutMs),
      ("hot_poll_ms", Value.nat c.build.hotPollMs),
      ("poll_ms", Value.opt (c.build.pollMs.map Value.nat))]),
    ("launch", obj [("handle_wait_ms", Value.nat c.launch.handleWaitMs),
      ("request_timeout_ms", Value.nat c.launch.requestTimeoutMs),
      ("shutdown_grace_ms", Value.nat c.launch.shutdownGraceMs)]),
    ("session", obj [("prompt", .str c.session.prompt), ("history", .bool c.session.history),
      ("echo_app_output", .bool c.session.echoAppOutput)]),
    ("paths", obj [("assets_dir", Value.optStr c.paths.assetsDir)]),
    ("logging", obj [("file", Value.optStr c.logging.file)])]

/-- An issue in answer form. -/
def issueJson (i : Issue) : Value :=
  obj [("severity", .str i.severity.label), ("field", .str i.field),
    ("message", .str i.message), ("display", .str i.display)]

/-- The bare error for TOML that cannot be read. -/
def configError : Value := obj [("error", .str "config")]

/-- The settings, issues and TOML of a configuration. -/
def configAnswer (c : Config) : List (String × Value) :=
  [("config", configJson c), ("issues", .arr (c.validate.map issueJson)),
   ("toml", match c.toToml with
      | .ok s => .str s
      | .error _ => .null)]

/-- Reads the TOML of a request. -/
def configOf (req : Value) : Except Value Config := do
  let text ← reqStr req "toml"
  match fromToml text with
  | some c => .ok c
  | none => .error configError

/-- `config`: reads a configuration. -/
def configOp (req : Value) : Answer := do
  let c ← configOf req
  .ok (obj (configAnswer c))

/-- `load_config`: reads the configuration file of a working directory. -/
def loadConfigOp (req : Value) : Answer := do
  let t := Tree.empty.put rootDir .dir
  let t := match req.get? "file" with
    | some .null | none => t
    | some v => t.put (Path.join rootDir configFileName) (nodeOf v)
  match loadConfig t rootDir with
  | .error m => .error (errorWith "anyhow" m)
  | .ok (c, path) =>
    .ok (obj (configAnswer c ++ [("path", .str path),
      ("resolved_assets", .str (resolveAssetsDir (optStr req "assets_flag") c))]))

/-- `config_cli`: runs a `config` subcommand. -/
def configCliOp (req : Value) : Answer := do
  let command := strOr req "command" ""
  if command != "validate" && command != "show" then
    throw (badInput "command must be validate or show")
  let c ← configOf req
  if command == "validate" then
    let (out, valid) := validateReport c (Path.join rootDir (strOr req "path" configFileName))
    .ok (obj [("valid", .bool valid), ("stdout", .str out)])
  else match showConfig c with
    | .ok s => .ok (obj [("ok", .bool true), ("stdout", .str s)])
    | .error m => .ok (obj [("ok", .bool false), ("stdout", .str ""), ("message", .str m)])

/-- A command read off the command line, in answer form. -/
def commandJson : Command → Value
  | .start a => obj [("command", .str "start"), ("dir", Value.optStr a.dir),
      ("integration", .str a.integration.label), ("main_module_flag", Value.optStr a.mainModule),
      ("main_module", Value.optStr a.resolvedMainModule), ("env_file", Value.optStr a.envFile),
      ("assets", Value.optStr a.assets), ("verbose", .bool a.verbose),
      ("working_directory", Value.optStr a.absoluteDir),
      ("resolved_assets", .str (resolveAssetsDir a.assets {}))]
  | .doctor dir => obj [("command", .str "doctor"), ("dir", Value.optStr dir)]
  | .configValidate => obj [("command", .str "config validate")]
  | .configShow => obj [("command", .str "config show")]
  | .version => obj [("command", .str "version")]

/-- `cli`: reads a command line. -/
def cliOp (req : Value) : Answer := do
  let args ← reqArr req "args"
  let args ← args.mapM fun a => match a with
    | .str s => pure s
    | _ => throw (badInput "args must be strings")
  match parseCommandLine args with
  | .ok c => .ok (commandJson c)
  | .error e => .error (obj [("error", .str "clap"), ("kind", .str e.kind)])

end LiveSession.Api
